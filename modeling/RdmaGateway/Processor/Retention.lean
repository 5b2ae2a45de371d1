/-
  Processor/Retention.lean --- an acknowledged WRITE and the window that should
  hold it.

  `forge_and_send_ack` acknowledges a WRITE to the host before the packet is
  offered to the retransmit window, so a packet the window refuses is acknowledged
  all the same.  `retained_iff_room` says that this is the only way to lose one: a
  packet the window has room for stays in its slot until an acknowledgement covers
  it or its retries are used up.
-/
import RdmaGateway.Processor.Frames
import RdmaGateway.Processor.References

set_option autoImplicit false

namespace RdmaGateway.Processor

open RdmaGateway.Foundation
open RdmaGateway.Dpdk
open RdmaGateway.Wire
open RdmaGateway.Roce
open RdmaGateway.Tunnel
open RdmaGateway.Arq

/-- The entry keeps the packet `m` for retransmission. -/
def KeptIn (m : Mbuf) (e : ArqSendEntry Mbuf) : Prop :=
  e.inFlight = true ∧ e.psn = m.bthGetPsn ∧ ∃ w, e.mbuf = some w ∧ w.id = m.id

/-- The window of its QPN holds the packet. -/
def Held (s : ProcessorContext × Host) (m : Mbuf) : Prop :=
  ∃ i k, (s.1.arqMgr.contexts i).qpn = m.bthGetQpn ∧ KeptIn m ((s.1.arqMgr.contexts i).entry k)

/-- `forge_and_send_ack` transmitted the acknowledgement of `m` to the host. -/
def AckSent (s : ProcessorContext × Host) (m : Mbuf) : Prop :=
  ∃ f, .txBurst .lan f true ∈ newEvents s (lanStep s (.rx m)) ∧ f.bthOpcode = roceOpcodeAck ∧
    f.bthGetQpn = m.bthGetQpn ∧ f.bthGetPsn = m.bthGetPsn

/-- The two ways a packet may leave the window: an acknowledgement that covers it,
and the timeout that finds its retries used up. -/
def Removes (s : ProcessorContext × Host) (m : Mbuf) : LanOp → Prop
  | .rx _ => False
  | .ack i psn => (s.1.arqMgr.contexts i).qpn = m.bthGetQpn ∧ Covers psn m.bthGetPsn
  | .nack _ _ => False
  | .timeouts i => ∃ k ∈ (s.1.arqMgr.contexts i).seqs,
      KeptIn m ((s.1.arqMgr.contexts i).entry k) ∧
        ((s.1.arqMgr.contexts i).entry k).Exhausted (tickNow s.2.io) (timeoutCycles s.2.io)

/-- The window of the QPN takes the next packet: there is a context for it, and the
slot of its `send_next` is not in flight. -/
def HasRoom (mgr : ArqManager Mbuf) (qpn : Nat) : Prop :=
  ∃ i mgr₁, arqGetOrCreate mgr qpn = (some i, mgr₁) ∧
    ((mgr₁.contexts i).entry (mgr₁.contexts i).sendNext).inFlight = false

/-! ## What keeps a packet in its slot -/

section Kept

variable {m : Mbuf} {arq : ArqContext Mbuf} {io : Io Mbuf} {k : Nat}

theorem KeptIn.ack {psn : Nat} (h : KeptIn m (arq.entry k)) (hcov : ¬ Covers psn m.bthGetPsn) :
    KeptIn m ((arqHandleAck arq psn io).1.entry k) := by
  rcases arqHandleAck_entry arq psn io k with heq | ⟨hk, -⟩
  · rwa [heq]
  · rw [h.2.1] at hk
    exact absurd hk hcov

theorem KeptIn.nack {psn : Nat} (h : KeptIn m (arq.entry k)) :
    KeptIn m ((arqHandleNack arq psn io).2.1.entry k) := by
  obtain ⟨t, r, heq⟩ := (arqHandleNack_sameWindow arq psn io).entry k
  rw [heq]
  exact h

theorem KeptIn.timeouts (h : KeptIn m (arq.entry k))
    (hlive : ∀ j ∈ arq.seqs, KeptIn m (arq.entry j) →
      ¬ (arq.entry j).Exhausted (tickNow io) (timeoutCycles io)) :
    KeptIn m ((arqCheckTimeouts arq io).1.entry k) := by
  rw [(arqCheckTimeouts_spec arq io).2.2.2 k]
  split
  · rename_i hvisited
    obtain ⟨j, hj, hslot⟩ := hvisited
    rw [entry_congr arq hslot] at h ⊢
    rcases timeoutEntry_cases (tickNow io) (timeoutCycles io) (arq.entry j) with
      ⟨t, r, heq⟩ | ⟨hdead, -⟩
    · rw [heq]
      exact h
    · exact absurd hdead (hlive j hj h)
  · exact h

/-- A slot in flight is not the one the next packet is stored in. -/
theorem KeptIn.sent {w : Mbuf} {psn now : Nat} {ty : WriteSegmentType} (h : KeptIn m (arq.entry k))
    (hroom : (arq.entry arq.sendNext).inFlight = false) :
    KeptIn m ((arq.sent w psn ty now).entry k) := by
  rw [sent_entry, if_neg]
  · exact h
  · intro hslot
    have hflight := h.1
    rw [entry_congr arq hslot, hroom] at hflight
    cases hflight

end Kept

theorem Held.setContext {s s' : ProcessorContext × Host} {m : Mbuf} {i : Fin maxQpCtx}
    {ctx : ArqContext Mbuf} (h : Held s m) (hmgr : s'.1.arqMgr = s.1.arqMgr.setContext i ctx)
    (hqpn : ctx.qpn = (s.1.arqMgr.contexts i).qpn)
    (hkept : ∀ k, (s.1.arqMgr.contexts i).qpn = m.bthGetQpn →
      KeptIn m ((s.1.arqMgr.contexts i).entry k) → KeptIn m (ctx.entry k)) : Held s' m := by
  obtain ⟨j, k, hj, hk⟩ := h
  refine ⟨j, k, ?_⟩
  rw [hmgr]
  by_cases hji : j = i
  · subst hji
    rw [setContext_contexts_self]
    exact ⟨hqpn.trans hj, hkept k hj hk⟩
  · rw [setContext_contexts_of_ne _ _ hji]
    exact ⟨hj, hk⟩

/-- Neither an arrival nor any context it opens disturbs a packet that is held. -/
theorem Tracks.keeps {mgr mgr' : ArqManager Mbuf} {w m : Mbuf} {qpn psn peerIp : Nat}
    {ty : WriteSegmentType} {rc : Int} (h : Tracks mgr w qpn psn ty peerIp rc mgr')
    (hunused : UnusedFresh mgr) (hq : m.bthGetQpn ≠ 0) {i : Fin maxQpCtx} {k : Nat}
    (hqpn : (mgr.contexts i).qpn = m.bthGetQpn) (hk : KeptIn m ((mgr.contexts i).entry k)) :
    (mgr'.contexts i).qpn = m.bthGetQpn ∧ KeptIn m ((mgr'.contexts i).entry k) := by
  -- a context that holds a packet is not one that `arq_get_or_create` sets up
  have hopen : ∀ {j mgr₁}, arqGetOrCreate mgr qpn = (some j, mgr₁) →
      mgr₁.contexts i = mgr.contexts i := by
    intro j mgr₁ hget
    obtain ⟨-, hother, hself⟩ := arqGetOrCreate_some hunused hget
    by_cases hij : i = j
    · subst hij
      rcases hself with heq | ⟨hfresh, -⟩
      · exact heq
      · rw [hfresh] at hqpn
        exact absurd hqpn.symm hq
    · exact hother i hij
  cases h with
  | noContext hget =>
    rw [arqGetOrCreate_none hget]
    exact ⟨hqpn, hk⟩
  | @noSlot j mgr₁ hget hbusy =>
    have hsame := hopen hget
    by_cases hij : i = j
    · subst hij
      rw [setContext_contexts_self, hsame]
      exact ⟨hqpn, hk⟩
    · rw [setContext_contexts_of_ne _ _ hij, hsame]
      exact ⟨hqpn, hk⟩
  | @stored j mgr₁ now hget hroom =>
    have hsame := hopen hget
    by_cases hij : i = j
    · subst hij
      rw [hsame] at hroom
      rw [setContext_contexts_self, hsame]
      exact ⟨hqpn, hk.sent hroom⟩
    · rw [setContext_contexts_of_ne _ _ hij, hsame]
      exact ⟨hqpn, hk⟩

theorem Held.step {s : ProcessorContext × Host} {m : Mbuf} {op : LanOp} (h : Held s m)
    (hunused : UnusedFresh s.1.arqMgr) (hq : m.bthGetQpn ≠ 0) (hop : ¬ Removes s m op) :
    Held (lanStep s op) m := by
  cases op with
  | rx m' =>
    obtain ⟨i, k, hqpn, hk⟩ := h
    refine ⟨i, k, ?_⟩
    cases lan_outcome s.1 m' s.2 with
    | freed _ hkeep _ =>
      rw [lanStep, hkeep.arqMgr]
      exact ⟨hqpn, hk⟩
    | passed _ hkeep _ _ _ =>
      rw [lanStep, hkeep.arqMgr]
      exact ⟨hqpn, hk⟩
    | forwarded _ _ _ hfwd => exact hfwd.tracks.keeps hunused hq hqpn hk
  | ack i psn =>
    exact h.setContext rfl (arqHandleAck_qpn _ _ _) fun k hqpn hk =>
      hk.ack fun hcov => hop ⟨hqpn, hcov⟩
  | nack i psn =>
    exact h.setContext rfl (arqHandleNack_sameWindow _ _ _).qpn fun k _ hk => hk.nack
  | timeouts i =>
    exact h.setContext rfl (arqCheckTimeouts_spec _ _).1 fun k _ hk =>
      hk.timeouts fun j hj hkj hdead => hop ⟨j, hj, hkj, hdead⟩

/-! ## The step of the packet itself -/

/-- Only a forwarded WRITE puts anything on the LAN port. -/
theorem AckSent.forwarded {s : ProcessorContext × Host} {m : Mbuf} (h : AckSent s m) :
    ∃ w rc, w.id = m.id ∧ Tracks s.1.arqMgr w m.bthGetQpn m.bthGetPsn (getSegmentType m.bthOpcode)
      (wanGetPeerIp s.2 (bswap32 m.ipDstAddr)) rc (lanStep s (.rx m)).1.arqMgr := by
  obtain ⟨f, hf, -⟩ := h
  cases lan_outcome s.1 m s.2 with
  | freed _ _ hadds =>
    rw [newEvents_of_adds (show Adds s.2 (lanStep s (.rx m)).2 _ from hadds)] at hf
    simp at hf
  | @passed evArp m' accepted _ _ hown _ hadds =>
    rw [newEvents_of_adds (show Adds s.2 (lanStep s (.rx m)).2 _ from hadds)] at hf
    rcases List.mem_append.mp hf with hf | hf
    · cases (hown.of_mem hf).1
    · cases accepted <;> simp [txEvents] at hf
  | @forwarded _ _ _ _ w rc _ _ _ _ hfwd => exact ⟨w, rc, hfwd.readdressed.1, hfwd.tracks⟩

/-- A packet the window has room for is in it when its step ends. -/
theorem Tracks.kept {mgr mgr' : ArqManager Mbuf} {w m : Mbuf} {peerIp : Nat}
    {ty : WriteSegmentType} {rc : Int}
    (h : Tracks mgr w m.bthGetQpn m.bthGetPsn ty peerIp rc mgr') (hunused : UnusedFresh mgr)
    (hid : w.id = m.id) (hroom : HasRoom mgr m.bthGetQpn) :
    ∃ i k, (mgr'.contexts i).qpn = m.bthGetQpn ∧ KeptIn m ((mgr'.contexts i).entry k) := by
  obtain ⟨i, mgr₁, hget, hfree⟩ := hroom
  have hqpn := (arqGetOrCreate_some hunused hget).1
  cases h with
  | noContext hget' =>
    rw [hget] at hget'
    cases hget'
  | noSlot hget' hbusy =>
    rw [hget] at hget'
    cases hget'
    rw [hfree] at hbusy
    cases hbusy
  | stored now hget' _ =>
    rw [hget] at hget'
    cases hget'
    refine ⟨i, (mgr₁.contexts i).sendNext, ?_⟩
    rw [setContext_contexts_self]
    have hentry := sent_entry (mgr₁.contexts i) w m.bthGetPsn ty now (mgr₁.contexts i).sendNext
    rw [if_pos rfl] at hentry
    refine ⟨hqpn, ?_⟩
    change KeptIn m ((ArqContext.sent _ _ _ _ _).entry _)
    rw [hentry]
    exact ⟨rfl, rfl, w, rfl, hid⟩

/-- A packet the window has no room for adds nothing to the slots. -/
theorem Tracks.refused {mgr mgr' : ArqManager Mbuf} {w : Mbuf} {qpn psn peerIp : Nat}
    {ty : WriteSegmentType} {rc : Int} (h : Tracks mgr w qpn psn ty peerIp rc mgr')
    (hinv : WindowsInv mgr) (hq : qpn ≠ 0) (hroom : ¬ HasRoom mgr qpn) (x : Nat) :
    Processor.holding x mgr' = Processor.holding x mgr := by
  have hcases := (h.holding hinv hq).2
  cases h with
  | noContext hget =>
    rcases hcases with ⟨hrc, -⟩ | ⟨-, hsame⟩
    · cases hrc
    · exact hsame x
  | noSlot hget hbusy =>
    rcases hcases with ⟨hrc, -⟩ | ⟨-, hsame⟩
    · cases hrc
    · exact hsame x
  | stored now hget hfree => exact absurd ⟨_, _, hget, hfree⟩ hroom

/-- A packet that is held is in one of the slots. -/
theorem Held.one_le_holding {s : ProcessorContext × Host} {m : Mbuf} (h : Held s m) :
    1 ≤ holding m.id s.1.arqMgr := by
  obtain ⟨i, k, -, -, -, w, hw, hid⟩ := h
  have hmark : ArqSendEntry.mark m.id ((s.1.arqMgr.contexts i).entry k) = 1 := by
    rw [ArqSendEntry.mark, hw]
    simp [mark, hid]
  have hctx : ArqSendEntry.mark m.id ((s.1.arqMgr.contexts i).entry k) ≤
      ctxHolding m.id (s.1.arqMgr.contexts i) :=
    Finset.single_le_sum
      (f := fun k => ArqSendEntry.mark m.id ((s.1.arqMgr.contexts i).sendWindow.cell k))
      (fun k _ => entryMark_nonneg _ _) (Finset.mem_univ (Ring.slot windowSize k))
  have hmgr := ctxHolding_le_holding m.id s.1.arqMgr i
  omega

/-- A buffer that never arrived is in no slot. -/
theorem holding_of_new {s : ProcessorContext × Host} {ops : List LanOp} {x : Nat}
    (hinv : WindowsInv s.1.arqMgr) (hq : ∀ op ∈ ops, op.NonzeroQpn)
    (hnew : ∀ op ∈ ops, ∀ m ∈ op.receives, m.id ≠ x) :
    WindowsInv (run lanStep s ops).1.arqMgr ∧
      holding x (run lanStep s ops).1.arqMgr ≤ holding x s.1.arqMgr := by
  induction ops generalizing s with
  | nil => exact ⟨hinv, le_rfl⟩
  | cons op ops ih =>
    obtain ⟨hinv', hle, -⟩ := lan_step_moves hinv (hq op (by simp)) x
    have hzero : op.mark x = 0 := by
      apply balance_eq_zero
      intro m hm
      rw [mark, if_neg (hnew op (by simp) m hm)]
    obtain ⟨hinv'', hle'⟩ := ih hinv' (fun op' h' => hq op' (by simp [h']))
      fun op' h' => hnew op' (by simp [h'])
    exact ⟨hinv'', by rw [run_cons]; omega⟩

/-- The packet is held from the end of its step until it is removed. -/
def Retained (s : ProcessorContext × Host) (m : Mbuf) : Prop :=
  ∀ after : List LanOp, (∀ op ∈ after, op.NonzeroQpn) →
    StepsMeet lanStep (fun s op => ¬ Removes s m op) (lanStep s (.rx m)) after →
      Held (run lanStep (lanStep s (.rx m)) after) m

theorem retained_of_room {s : ProcessorContext × Host} {m : Mbuf} (hunused : UnusedFresh s.1.arqMgr)
    (hq : m.bthGetQpn ≠ 0) (hack : AckSent s m) (hroom : HasRoom s.1.arqMgr m.bthGetQpn) :
    Retained s m := by
  intro after hafter hmeet
  obtain ⟨w, rc, hid, htracks⟩ := hack.forwarded
  have hstart : UnusedFresh (lanStep s (.rx m)).1.arqMgr ∧ Held (lanStep s (.rx m)) m :=
    ⟨hunused.step fun _ => hq, htracks.kept hunused hid hroom⟩
  have hend := run_induction (C := fun s op => ¬ Removes s m op ∧ op.NonzeroQpn)
    (fun s op (h : UnusedFresh s.1.arqMgr ∧ Held s m) hop =>
      ⟨h.1.step hop.2, h.2.step h.1 hq hop.1⟩) hstart (stepsMeet_and hmeet hafter)
  exact hend.2

theorem not_retained_of_no_room {s : ProcessorContext × Host} {m : Mbuf}
    (hinv : WindowsInv s.1.arqMgr) (hnew : holding m.id s.1.arqMgr ≤ 0) (hq : m.bthGetQpn ≠ 0)
    (hack : AckSent s m) (hroom : ¬ HasRoom s.1.arqMgr m.bthGetQpn) : ¬ Retained s m := by
  intro hret
  obtain ⟨w, rc, -, htracks⟩ := hack.forwarded
  have hheld : Held (lanStep s (.rx m)) m := hret [] (by simp) trivial
  have hsame := htracks.refused hinv hq hroom m.id
  have hone := hheld.one_le_holding
  omega

/-- In every run, an acknowledged WRITE whose buffer is not one received before is
retained exactly when its window had room for it. -/
theorem retained_iff_room (host : Host) (lcoreId : Nat) (before : List LanOp) (m : Mbuf)
    (hbefore : ∀ op ∈ before, op.NonzeroQpn) (hq : m.bthGetQpn ≠ 0)
    (hnew : ∀ op ∈ before, ∀ m' ∈ op.receives, m'.id ≠ m.id)
    (hack : AckSent (run lanStep (procInit host lcoreId true, host) before) m) :
    let s := run lanStep (procInit host lcoreId true, host) before
    Retained s m ↔ HasRoom s.1.arqMgr m.bthGetQpn := by
  intro s
  obtain ⟨hinv, hle⟩ := holding_of_new (s := (procInit host lcoreId true, host)) windowsInv_init
    hbefore hnew
  have hzero : holding m.id arqMgrInit = 0 :=
    Finset.sum_eq_zero fun _ _ => ctxHolding_fresh m.id 0
  constructor
  · intro hret
    by_contra hroom
    exact not_retained_of_no_room hinv (hle.trans_eq hzero) hq hack hroom hret
  · exact retained_of_room hinv.unused hq hack

/-! ## A window that is full -/

/-- With a pool and a queue that never fail, every WRITE of a known QP is
acknowledged. -/
theorem ackSent_of_write {s : ProcessorContext × Host} {m : Mbuf} (hwrite : m.isRoceWrite)
    (hpeer : wanGetPeerIp s.2 (bswap32 m.ipDstAddr) ≠ 0)
    (hqp : (qpGetOrCreate s.1.qpMgr m.bthGetQpn).1 ≠ none) (hnever : NeverFails s.2) :
    AckSent s m := by
  cases lan_outcome s.1 m s.2 with
  | freed hwhy _ _ =>
    rcases hwhy with htype | hnone
    · exact absurd hwrite.1 htype
    · exact absurd hnone hqp
  | passed hwhy _ _ _ _ =>
    rcases hwhy with hzero | hno
    · exact absurd hzero hpeer
    · exact absurd hwrite hno
  | forwarded _ _ _ hfwd =>
    obtain ⟨f, hf, b, hdata⟩ := hfwd.acked hnever
    refine ⟨f, ?_, ackFrame_bth f hdata⟩
    rw [newEvents_of_adds (show Adds s.2 (lanStep s (.rx m)).2 _ from hfwd.adds)]
    exact List.mem_append_left _ (List.mem_append_left _ hf)

/-- The `k`-th WRITE of QPN 7. -/
def numbered (k : Nat) : Mbuf := writeFrame (k + 1) roceOpcodeWriteOnly 7 k

/-- A LAN core that has seen nothing yet. -/
def lanCore : ProcessorContext × Host := (procInit .unloaded 0 true, .unloaded)

theorem numbered_write (k : Nat) :
    (numbered k).isRoceWrite ∧ (numbered k).bthGetQpn = 7 ∧ (numbered k).ipDstAddr = 0 := by
  refine ⟨⟨?_, ?_, ?_, ?_⟩, ?_, ?_⟩ <;>
    simp [numbered, writeFrame, Mbuf.etherType, Mbuf.ipProto, Mbuf.udpDstPort, Mbuf.bthOpcode,
      Mbuf.bthGetQpn, Mbuf.ipDstAddr, ByteMem.ld16, ByteMem.ld32, bthSetPsn, bthSetQpn,
      ByteMem.ld8_st8, ByteMem.ld8_st16, bswap16, rteEtherTypeIpv4, ipprotoUdp, wanUdpPort,
      roceOpcodeWriteOnly, isWriteOpcode, roceOpcodeWriteFirst, roceOpcodeWriteLastImm]
  exact ⟨⟨⟨rfl, rfl⟩, rfl⟩, rfl⟩

/-- A context of QPN 7 with its first `n` slots in flight. -/
structure FilledTo (n : Nat) (arq : ArqContext Mbuf) : Prop where
  qpn : arq.qpn = 7
  sendNext : arq.sendNext = n
  inFlight : ∀ k < windowSize, (arq.entry k).inFlight = decide (k < n)

/-- A core that takes the next WRITE of QPN 7 into such a context, without fail. -/
structure TakesNext (n : Nat) (s : ProcessorContext × Host) : Prop where
  windows : WindowsInv s.1.arqMgr
  qp : ∃ qpMgr, qpGetOrCreate s.1.qpMgr 7 = (some 0, qpMgr) ∧ (qpMgr.qps 0).active = true ∧
    (qpMgr.qps 0).qpn = 7
  arq : ∃ mgr, arqGetOrCreate s.1.arqMgr 7 = (some 0, mgr) ∧ FilledTo n (mgr.contexts 0)
  oracle : s.2.io.oracle = Host.unloaded.io.oracle
  peers : s.2.peerManager = Host.unloaded.peerManager

theorem takesNext_lanCore : TakesNext 0 lanCore where
  windows := windowsInv_init
  qp := by
    have hpair : ∀ {r : Option (Fin maxQpCtx) × QpManager}, r.1 = some 0 → r = (some 0, r.2) :=
      fun h => Prod.ext h rfl
    refine ⟨(qpGetOrCreate qpMgrInit 7).2, hpair ?_, ?_, ?_⟩
    · decide +kernel
    · decide +kernel
    · decide +kernel
  arq := by
    have hpair : ∀ {r : Option (Fin maxQpCtx) × ArqManager Mbuf}, r.1 = some 0 →
        r = (some 0, r.2) := fun h => Prod.ext h rfl
    have hget : arqGetOrCreate (arqMgrInit : ArqManager Mbuf) 7 = (some 0, _) :=
      hpair (by decide +kernel)
    refine ⟨_, hget, ?_⟩
    obtain ⟨hqpn, -, hself | ⟨-, hself⟩⟩ := arqGetOrCreate_some unusedFresh_init hget
    · rw [hself] at hqpn
      cases hqpn
    · rw [hself]
      exact ⟨rfl, rfl, fun k _ => by simp [ArqContext.fresh, ArqContext.entry, ArqSendEntry.zero]⟩
  oracle := rfl
  peers := rfl

theorem FilledTo.tracks {n : Nat} {mgr mgr₁ mgr' : ArqManager Mbuf} {w : Mbuf}
    {psn peerIp : Nat} {ty : WriteSegmentType} {rc : Int}
    (hget : arqGetOrCreate mgr 7 = (some 0, mgr₁)) (h : FilledTo n (mgr₁.contexts 0))
    (hn : n < windowSize) (htracks : Tracks mgr w 7 psn ty peerIp rc mgr') :
    FilledTo (n + 1) (mgr'.contexts 0) := by
  have hfree : ((mgr₁.contexts 0).entry (mgr₁.contexts 0).sendNext).inFlight = false := by
    rw [h.sendNext, h.inFlight n hn]
    simp
  cases htracks with
  | noContext hget' =>
    rw [hget] at hget'
    cases hget'
  | noSlot hget' hbusy =>
    rw [hget] at hget'
    cases hget'
    rw [hfree] at hbusy
    cases hbusy
  | stored now hget' _ =>
    rw [hget] at hget'
    cases hget'
    rw [setContext_contexts_self]
    refine ⟨h.qpn, ?_, fun k hk => ?_⟩
    · change add32 (mgr₁.contexts 0).sendNext 1 = n + 1
      rw [h.sendNext]
      exact add32_of_lt (Nat.lt_trans (Nat.succ_lt_succ hn) (by decide))
    · change ((ArqContext.sent _ _ _ _ _).entry k).inFlight = _
      rw [sent_entry, h.sendNext, Nat.mod_eq_of_lt hk, Nat.mod_eq_of_lt hn]
      split
      · rename_i hkn
        simp [hkn]
      · rename_i hkn
        rw [h.inFlight k hk]
        exact decide_eq_decide.mpr (by omega)

theorem TakesNext.hasPeer {n : Nat} {s : ProcessorContext × Host} (h : TakesNext n s) (k : Nat) :
    wanGetPeerIp s.2 (bswap32 (numbered k).ipDstAddr) ≠ 0 := by
  rw [(numbered_write k).2.2, wanGetPeerIp, h.peers]
  decide

theorem TakesNext.step {n : Nat} {s : ProcessorContext × Host} (h : TakesNext n s)
    (hn : n < windowSize) (k : Nat) : TakesNext (n + 1) (lanStep s (.rx (numbered k))) := by
  obtain ⟨hwrite, hqpn, hdst⟩ := numbered_write k
  obtain ⟨qpMgr, hqp, hactive, hqp7⟩ := h.qp
  obtain ⟨mgr, hget, hfilled⟩ := h.arq
  have hq : (numbered k).bthGetQpn ≠ 0 := by
    rw [hqpn]
    decide
  have hwindows : WindowsInv (lanStep s (.rx (numbered k))).1.arqMgr :=
    (lan_step_moves h.windows (show LanOp.NonzeroQpn (.rx (numbered k)) from fun _ => hq) 0).1
  cases lan_outcome s.1 (numbered k) s.2 with
  | freed hwhy _ _ =>
    rw [hqpn, hqp] at hwhy
    rcases hwhy with htype | hnone
    · exact absurd hwrite.1 htype
    · cases hnone
  | passed hwhy _ _ _ _ =>
    rcases hwhy with hzero | hno
    · exact absurd hzero (h.hasPeer k)
    · exact absurd hwrite hno
  | forwarded _ _ hqp' hfwd =>
    rw [hqpn, hqp] at hqp'
    cases hqp'
    have htracks := hfwd.tracks
    rw [hqpn] at htracks
    have hfilled' := hfilled.tracks hget hn htracks
    refine ⟨hwindows, ?_, ?_, ?_, ?_⟩
    · have hfind : (lanStep s (.rx (numbered k))).1.qpMgr.qps.findSlot
          (fun qp => qp.active && qp.qpn == 7) = some 0 := by
        apply Table.findSlot_zero
        rw [lanStep, hfwd.keeps.active, hfwd.keeps.qpn]
        simp [hactive, hqp7]
      refine ⟨(lanStep s (.rx (numbered k))).1.qpMgr, by simp [qpGetOrCreate, hfind], ?_, ?_⟩
      · rw [lanStep, hfwd.keeps.active]
        exact hactive
      · rw [lanStep, hfwd.keeps.qpn]
        exact hqp7
    · have hfind : arqFind (lanStep s (.rx (numbered k))).1.arqMgr 7 = some 0 := by
        apply Table.findSlot_zero
        rw [lanStep, hfilled'.qpn]
        rfl
      exact ⟨(lanStep s (.rx (numbered k))).1.arqMgr, by simp [arqGetOrCreate, hfind], hfilled'⟩
    · exact hfwd.adds.oracle.trans h.oracle
    · exact hfwd.adds.peerManager.trans h.peers

/-- The first `n` WRITEs. -/
def writes (n : Nat) : List LanOp := (List.range n).map fun k => .rx (numbered k)

theorem takesNext_run {n : Nat} (hn : n ≤ windowSize) :
    TakesNext n (run lanStep lanCore (writes n)) := by
  induction n with
  | zero => exact takesNext_lanCore
  | succ n ih =>
    rw [writes, List.range_succ, List.map_append, run_append]
    exact (ih (by omega)).step hn n

/-- A window that is full has no room. -/
theorem TakesNext.full {s : ProcessorContext × Host} (h : TakesNext windowSize s) :
    ¬ HasRoom s.1.arqMgr 7 := by
  rintro ⟨i, mgr₁, hget, hfree⟩
  obtain ⟨mgr, hget', hfilled⟩ := h.arq
  rw [hget] at hget'
  cases hget'
  have hslot := entry_congr (mgr₁.contexts 0) (i := (mgr₁.contexts 0).sendNext) (j := 0)
    (by rw [hfilled.sendNext]; rfl)
  rw [hslot, hfilled.inFlight 0 (by decide)] at hfree
  cases hfree

theorem neverFails_unloaded {host : Host} (h : host.io.oracle = Host.unloaded.io.oracle) :
    NeverFails host := by
  rw [NeverFails, h]
  exact ⟨fun _ => rfl, fun _ => ⟨_, rfl, by decide⟩⟩

theorem TakesNext.ackSent {n : Nat} {s : ProcessorContext × Host} (h : TakesNext n s) (k : Nat) :
    AckSent s (numbered k) := by
  obtain ⟨hwrite, hqpn, -⟩ := numbered_write k
  obtain ⟨qpMgr, hqp, -⟩ := h.qp
  refine ackSent_of_write hwrite (h.hasPeer k) ?_ (neverFails_unloaded h.oracle)
  rw [hqpn, hqp]
  exact Option.some_ne_none 0

/-- The first WRITE of a fresh core is acknowledged and retained. -/
theorem retained_iff_room_first : Retained lanCore (numbered 0) := by
  refine (retained_iff_room .unloaded 0 [] (numbered 0) (by simp) ?_ (by simp)
    (takesNext_lanCore.ackSent 0)).mpr ?_
  · rw [(numbered_write 0).2.1]
    decide
  · obtain ⟨mgr, hget, hfilled⟩ := takesNext_lanCore.arq
    rw [(numbered_write 0).2.1]
    refine ⟨0, mgr, hget, ?_⟩
    rw [hfilled.sendNext, hfilled.inFlight 0 (by decide)]
    rfl

/-- The 257th WRITE of a QPN whose first 256 are still outstanding is acknowledged
to the host and kept nowhere. -/
theorem ack_without_retention :
    AckSent (run lanStep lanCore (writes windowSize)) (numbered windowSize) ∧
      ¬ Retained (run lanStep lanCore (writes windowSize)) (numbered windowSize) := by
  have htakes := takesNext_run (n := windowSize) le_rfl
  have hqpn := (numbered_write windowSize).2.1
  have hzero : holding (numbered windowSize).id arqMgrInit = 0 :=
    Finset.sum_eq_zero fun _ _ => ctxHolding_fresh _ 0
  have hops : ∀ op ∈ writes windowSize,
      op.NonzeroQpn ∧ ∀ m ∈ op.receives, m.id ≠ (numbered windowSize).id := by
    intro op hop
    obtain ⟨k, hk, rfl⟩ := List.mem_map.mp hop
    refine ⟨?_, fun m hm => ?_⟩
    · rw [LanOp.NonzeroQpn, (numbered_write k).2.1]
      exact fun _ => by decide
    · obtain rfl := List.mem_singleton.mp hm
      rw [List.mem_range] at hk
      simpa [numbered, writeFrame] using Nat.ne_of_lt hk
  have hnew := (holding_of_new (s := lanCore) windowsInv_init (fun op hop => (hops op hop).1)
    fun op hop => (hops op hop).2).2
  refine ⟨htakes.ackSent _, not_retained_of_no_room htakes.windows (hnew.trans_eq hzero) ?_
    (htakes.ackSent _) ?_⟩
  · rw [hqpn]
    decide
  · rw [hqpn]
    exact htakes.full

end RdmaGateway.Processor
