/-
  Gateway/Replies.lean --- where ARQ feedback is sent to.

  Gateway A forwards a WRITE of a host behind it to gateway B, and B answers with
  ACKs and NACKs.  The source address of the forwarded packet is rewritten, and B
  does not look at it: `proc_process_wan_rx` takes the address of a control message
  from its own peer table, with the packet's destination as the key.  That is a
  host behind B.  So the feedback reaches A exactly when B's table maps its own
  hosts to A (`replies_reach_sender_iff`).
-/
import RdmaGateway.Gateway.Cores
import RdmaGateway.Processor.Frames

set_option autoImplicit false

namespace RdmaGateway.Gateway

open RdmaGateway.Foundation
open RdmaGateway.Dpdk
open RdmaGateway.Wire
open RdmaGateway.Roce
open RdmaGateway.Tunnel
open RdmaGateway.Arq
open RdmaGateway.Reassembly
open RdmaGateway.Processor

/-! ## Frames on the WAN -/

/-- The frames passed to the WAN port, in order. -/
def wanFrames (trace : List (Event Mbuf)) : List Mbuf :=
  trace.filterMap fun
    | .txBurst .wan f _ => some f
    | _ => none

theorem mem_wanFrames {trace : List (Event Mbuf)} {f : Mbuf} :
    f ∈ wanFrames trace ↔ ∃ accepted, .txBurst .wan f accepted ∈ trace := by
  rw [wanFrames, List.mem_filterMap]
  constructor
  · rintro ⟨e, he, hsome⟩
    split at hsome
    · cases hsome
      exact ⟨_, he⟩
    · cases hsome
  · rintro ⟨accepted, he⟩
    exact ⟨_, he, rfl⟩

/-- The events one call appends to the trace. -/
def Cores.events {L W : Nat} (g : Cores L W) (c : CoreCall L W) : List (Event Mbuf) :=
  (g.step c).host.io.trace.drop g.host.io.trace.length

theorem Cores.events_of_adds {L W : Nat} {g : Cores L W} {c : CoreCall L W}
    {ev : List (Event Mbuf)} (h : Adds g.host (g.step c).host ev) : g.events c = ev := by
  rw [Cores.events, h.trace, List.drop_left]

/-- The frames one call passes to the WAN port. -/
def Cores.sends {L W : Nat} (g : Cores L W) (c : CoreCall L W) : List Mbuf :=
  wanFrames (g.events c)

/-! ## The frames of the two gateways -/

/-- A WRITE that leaves for the WAN because of packet `m` has the destination of
`m`. -/
theorem LanFrame.ipDstAddr {proc : ProcessorContext} {host : Host} {m f : Mbuf}
    (h : LanFrame proc host m .wan f) (hwrite : f.isRoceWrite) : f.ipDstAddr = m.ipDstAddr := by
  cases h with
  | arp harp => exact absurd hwrite harp.not_isRoceWrite
  | passed _ _ hm => exact hm.ipDstAddr
  | forwarded _ _ hm => rw [hm.ipDstAddr, setSrcAddr_ipDstAddr]

/-- Every frame that a packet makes B send to the WAN goes to the peer that B's table
has for the destination of the packet. -/
theorem WanFrame.ipDstAddr {proc : ProcessorContext} {host : Host} {m f : Mbuf}
    (h : WanFrame proc host m .wan f) :
    f.ipDstAddr = wanGetPeerIp host (bswap32 m.ipDstAddr) % 4294967296 := by
  cases h with
  | feedback _ hctrl =>
    obtain ⟨psn, hmsg⟩ := hctrl
    exact hmsg.addrs.2

/-! ## Packets that are answered -/

/-- With `found` as the context of its QPN, the packet makes B answer: it completes
the WRITE, or it is stored while the expected PSN, other than 0, is missing. -/
def Answered (found : Option (JbWriteContext Mbuf)) (m : Mbuf) : Prop :=
  let ctx := accept found m.bthGetQpn m.bthGetPsn (getSegmentType m.bthOpcode) m
  (release ctx).2 ≠ [] ∨
    (∀ c, found = some c → ¬ c.Received (c.slotOf m.bthGetPsn)) ∧
      ctx.expectedPsn ≠ 0 ∧ ¬ ctx.Received (ctx.slotOf ctx.expectedPsn)

/-- An answered packet makes B pass a control message to the WAN port. -/
theorem answered_replies {proc : ProcessorContext} {m : Mbuf} {host : Host} (hwrite : m.isRoceWrite)
    (hpool : PoolServes host)
    (hroom : proc.jitterBuffer.ctxOf m.bthGetQpn = none → proc.jitterBuffer.HasFreeSlot)
    (h : Answered (proc.jitterBuffer.ctxOf m.bthGetQpn) m) :
    ∃ f accepted ev type, .txBurst .wan f accepted ∈ ev ∧
      (type = arqMsgAck ∨ type = arqMsgNack) ∧ IsCtrlFor host m type .wan f ∧
      Adds host (procProcessWanRx proc m host).2 ev := by
  rw [procProcessWanRx_write hwrite]
  obtain ⟨hrc, hctx⟩ := jbAddSeg_accept m.bthGetPsn (getSegmentType m.bthOpcode) m host.io hroom
  rcases h with hrel | ⟨hnew, hpsn, hmiss⟩
  · rcases jbGetOrderedSegs_release hctx with ⟨hflag, hzero, hlen, -⟩ | ⟨-, hnone⟩
    · obtain ⟨f, accepted, ev, hmem, hctrl, hadds⟩ :=
        wanWrite_acks hpool hrc ⟨hflag, hzero, hlen⟩
      exact ⟨f, accepted, ev, _, hmem, Or.inl rfl, hctrl, hadds⟩
    · rw [hnone] at hrel
      exact absurd rfl hrel
  · have hone := addSegOf_fst_eq_one host hroom hnew
    have hmissing := (jbCheckMissing_eq hctx).trans (if_neg hmiss)
    obtain ⟨f, accepted, ev, hmem, hctrl, hadds⟩ :=
      wanWrite_nacks hpool hone (by rw [addSegOf, hmissing]; exact hpsn)
    exact ⟨f, accepted, ev, _, hmem, Or.inr rfl, hctrl, hadds⟩

/-- A packet that completes no WRITE leaves its flow with the context that accepted
it. -/
theorem wanStep_ctxOf_of_waits {s : ProcessorContext × Host} {m : Mbuf} (hwrite : m.isRoceWrite)
    (hroom : s.1.jitterBuffer.ctxOf m.bthGetQpn = none → s.1.jitterBuffer.HasFreeSlot)
    (hwaits : (release (accept (s.1.jitterBuffer.ctxOf m.bthGetQpn) m.bthGetQpn m.bthGetPsn
      (getSegmentType m.bthOpcode) m)).2 = []) :
    (wanStep s m).1.jitterBuffer.ctxOf m.bthGetQpn =
      some (accept (s.1.jitterBuffer.ctxOf m.bthGetQpn) m.bthGetQpn m.bthGetPsn
        (getSegmentType m.bthOpcode) m) := by
  obtain ⟨hrc, hctx⟩ := jbAddSeg_accept m.bthGetPsn (getSegmentType m.bthOpcode) m s.2.io hroom
  rw [← hctx, wanStep]
  cases wan_outcome s.1 m s.2 with
  | freed hno _ _ => exact absurd hwrite hno
  | wrote _ hout =>
    cases hout with
    | refused hneg _ _ =>
      rw [addSegOf] at hneg
      rw [hneg] at hrc
      cases hrc
    | taken _ hjb _ _ hdel =>
      cases hdel with
      | waits hsame _ => rw [hsame, hjb, addSegOf]
      | delivers hcomplete hout hpos _ _ _ _ _ =>
        rw [hjb, addSegOf] at hcomplete hout
        rcases jbGetOrderedSegs_release hctx with ⟨-, -, hlen, hrel⟩ | ⟨hno, -⟩
        · rw [hrel] at hwaits
          rw [hwaits] at hlen
          exact absurd hlen (Nat.lt_irrefl 0)
        · rw [hout] at hno
          exact absurd ⟨hcomplete, rfl, hpos⟩ hno

section Contexts

variable {c : JbWriteContext Mbuf} {m : Mbuf}

/-- The context that its first packet leaves. -/
theorem opener_spec (qpn psn : Nat) (ty : WriteSegmentType) (m : Mbuf) :
    (jbStoreSeg (.opened qpn psn) psn ty m).expectedPsn = psnAdd psn 1 ∧
      ∀ j, j % jbMaxSegments ≠ 0 → ¬ (jbStoreSeg (.opened qpn psn) psn ty m).Received j := by
  have hself : psnForwardDist psn psn = 0 := by
    simp [psnForwardDist]
  refine ⟨by simp [jbStoreSeg, JbWriteContext.opened, hself], fun j hj => ?_⟩
  rw [jbStoreSeg_received_of_ne]
  · exact opened_not_received _ _ _
  · rwa [JbWriteContext.slotOf, show (JbWriteContext.opened qpn psn : JbWriteContext Mbuf).firstPsn =
      psn from rfl, hself]

/-- The slot of the PSN after the first one. -/
theorem opener_slotOf_next (qpn psn : Nat) (ty : WriteSegmentType) (m : Mbuf) :
    (jbStoreSeg (.opened qpn psn) psn ty m).slotOf (psnAdd psn 1) = 1 := by
  rw [JbWriteContext.slotOf, jbStoreSeg_firstPsn, show (JbWriteContext.opened qpn psn :
    JbWriteContext Mbuf).firstPsn = psn from rfl, psnForwardDist_psnAdd psn (by decide)]
  rfl

/-- The first packet of a flow is answered, unless the PSN after it is 0. -/
theorem answered_none (h : m.bthGetPsn + 1 ≠ maxPsn) : Answered none m := by
  have hlt : m.bthGetPsn < maxPsn := m.bthGetPsn_lt
  obtain ⟨hexp, hrec⟩ := opener_spec m.bthGetQpn m.bthGetPsn (getSegmentType m.bthOpcode) m
  refine Or.inr ⟨fun c hc => (nomatch hc), ?_, ?_⟩
  · rw [accept, hexp, psnAdd_eq, Nat.mod_eq_of_lt (by omega)]
    exact Nat.succ_ne_zero _
  · rw [accept, hexp, opener_slotOf_next]
    exact hrec 1 (by decide)

/-- A packet beyond the expected one is answered. -/
theorem answered_behind (hnew : ¬ c.Received (c.slotOf m.bthGetPsn)) (hpsn : c.expectedPsn ≠ 0)
    (hmiss : ¬ c.Received (c.slotOf c.expectedPsn))
    (hdist : psnForwardDist c.expectedPsn m.bthGetPsn ≠ 0)
    (hslot : c.slotOf c.expectedPsn ≠ c.slotOf m.bthGetPsn) : Answered (some c) m := by
  have haccept : accept (some c) m.bthGetQpn m.bthGetPsn (getSegmentType m.bthOpcode) m =
      jbStoreSeg c m.bthGetPsn (getSegmentType m.bthOpcode) m := by
    rw [accept_some, if_neg hnew]
  have hexp : (jbStoreSeg c m.bthGetPsn (getSegmentType m.bthOpcode) m).expectedPsn =
      c.expectedPsn := by
    simp [jbStoreSeg, hdist]
  refine Or.inr ⟨fun c' hc => Option.some.inj hc ▸ hnew, ?_, ?_⟩
  · rw [haccept, hexp]
    exact hpsn
  · have hsame : (jbStoreSeg c m.bthGetPsn (getSegmentType m.bthOpcode) m).slotOf c.expectedPsn =
        c.slotOf c.expectedPsn := rfl
    rw [haccept, hexp, hsame, jbStoreSeg_received_of_ne]
    · exact hmiss
    · rw [Nat.mod_eq_of_lt (c.slotOf_lt _)]
      exact hslot

/-- So is a packet further than one from the first one of its flow, unless the PSN
between them is 0. -/
theorem answered_beyond {qpn psn : Nat} {ty : WriteSegmentType} {x : Mbuf}
    (hpsn : psnAdd psn 1 ≠ 0) (hzero : psnForwardDist psn m.bthGetPsn % jbMaxSegments ≠ 0)
    (hone : psnForwardDist psn m.bthGetPsn % jbMaxSegments ≠ 1) :
    Answered (some (jbStoreSeg (.opened qpn psn) psn ty x)) m := by
  obtain ⟨hexp, hrec⟩ := opener_spec qpn psn ty x
  have hslot : (jbStoreSeg (.opened qpn psn) psn ty x).slotOf m.bthGetPsn =
      psnForwardDist psn m.bthGetPsn % jbMaxSegments := rfl
  have hnext := opener_slotOf_next qpn psn ty x
  refine answered_behind ?_ (by rwa [hexp]) ?_ ?_ ?_
  · rw [hslot]
    exact hrec _ (by rwa [Nat.mod_mod])
  · rw [hexp, hnext]
    exact hrec 1 (by decide)
  · -- at distance 0 from the expected PSN the packet is one from the first
    intro hdist
    rw [hexp] at hdist
    have hadd := psnForwardDist_psnAdd psn (by decide : 1 < maxPsn)
    have hsame : psnForwardDist psn m.bthGetPsn = psnForwardDist psn (psnAdd psn 1) := by
      have hlt : m.bthGetPsn < maxPsn := m.bthGetPsn_lt
      have hlt' := psnAdd_lt psn 1
      have heq : m.bthGetPsn = psnAdd psn 1 := by
        simp only [psnForwardDist, and_psnMask, Nat.mod_eq_of_lt hlt, Nat.mod_eq_of_lt hlt'] at hdist
        split at hdist <;> omega
      rw [heq]
    rw [hsame, hadd] at hone
    exact hone rfl
  · rw [hexp, hnext, hslot]
    exact hone.symm

/-- Only slot `k` is missing before the final segment. -/
structure GapAt (c : JbWriteContext Mbuf) (k : Nat) : Prop where
  max : k + 2 ≤ jbMaxSegments
  complete : c.writeComplete = true
  missing : ¬ c.Received k
  before : ∀ j < k, c.Received j ∧ (c.segments.get j).segmentType.isFinal = false
  after : c.Received (k + 1) ∧ (c.segments.get (k + 1)).segmentType.isFinal = true

/-- An ONLY packet that leaves a gap of one slot behind. -/
theorem gapAt_store {k : Nat} (hmax : k + 2 ≤ jbMaxSegments) (hfirst : c.firstPsn = 0)
    (hmiss : ¬ c.Received k)
    (hbefore : ∀ j < k, c.Received j ∧ (c.segments.get j).segmentType.isFinal = false) :
    GapAt (jbStoreSeg c (k + 1) .only m) k := by
  have hslot : c.slotOf (k + 1) = k + 1 := by
    have hlt : k + 1 < maxPsn := lt_of_lt_of_le (by omega : k + 1 < jbMaxSegments) (by decide)
    rw [JbWriteContext.slotOf, hfirst, psnForwardDist_zero_left hlt]
    exact Nat.mod_eq_of_lt (by omega)
  have hother : ∀ j ≤ k, j % jbMaxSegments ≠ c.slotOf (k + 1) := by
    intro j hj
    rw [hslot, Nat.mod_eq_of_lt (by omega)]
    omega
  have hself := jbStoreSeg_get_slotOf c (k + 1) .only m
  rw [hslot] at hself
  refine ⟨hmax, rfl, ?_, fun j hj => ?_, ?_, by rw [hself]; rfl⟩
  · rwa [jbStoreSeg_received_of_ne _ _ _ _ (hother k le_rfl)]
  · rw [jbStoreSeg_received_of_ne _ _ _ _ (hother j hj.le),
      jbStoreSeg_get_of_received _ _ _ _ (hother j hj.le) (hbefore j hj).1]
    exact hbefore j hj
  · rw [JbWriteContext.Received, hself]

/-- With a gap nothing is delivered. -/
theorem GapAt.waits {k : Nat} (h : GapAt c k) : (release c).2 = [] := by
  have hmax := h.max
  have hscan : jbScan c.segments jbMaxSegments 0 = none := by
    refine jbScan_of_missing k jbMaxSegments 0 (by omega) (fun j hj => ?_) ?_
    · rw [Nat.zero_add]
      exact h.before j hj
    · rw [Nat.zero_add]
      exact h.missing
  rw [release, h.complete, if_pos rfl, hscan]

/-- A packet that fills the gap is answered. -/
theorem GapAt.answered (h : GapAt c (c.slotOf m.bthGetPsn)) : Answered (some c) m := by
  obtain ⟨hmax, hflag, hnew, hbefore, hafter⟩ := h
  have haccept : accept (some c) m.bthGetQpn m.bthGetPsn (getSegmentType m.bthOpcode) m =
      jbStoreSeg c m.bthGetPsn (getSegmentType m.bthOpcode) m := by
    rw [accept_some, if_neg hnew]
  have hself := jbStoreSeg_get_slotOf c m.bthGetPsn (getSegmentType m.bthOpcode) m
  have hother : ∀ j < jbMaxSegments, j ≠ c.slotOf m.bthGetPsn → c.Received j →
      (jbStoreSeg c m.bthGetPsn (getSegmentType m.bthOpcode) m).segments.get j =
        c.segments.get j := by
    intro j hj hne hrec
    exact jbStoreSeg_get_of_received c _ _ m (by rwa [Nat.mod_eq_of_lt hj]) hrec
  generalize hty : getSegmentType m.bthOpcode = ty at *
  -- the scan runs to the packet itself, or one slot further
  obtain ⟨n, hn, hfinal⟩ : ∃ n, (n = c.slotOf m.bthGetPsn + 1 ∨ n = c.slotOf m.bthGetPsn + 2) ∧
      (ty.isFinal = true ↔ n = c.slotOf m.bthGetPsn + 1) := by
    cases hf : ty.isFinal with
    | true => exact ⟨_, Or.inl rfl, by simp⟩
    | false => exact ⟨_, Or.inr rfl, by simp⟩
  have hscan := jbScan_of_all (jbStoreSeg c m.bthGetPsn ty m).segments n jbMaxSegments 0 (by omega)
    (by omega) ?_ ?_
  · refine Or.inl ?_
    rw [hty, haccept, release, jbStoreSeg_writeComplete, hflag, Bool.or_true, if_pos rfl, hscan]
    have hmem : m ∈ (List.range n).flatMap fun j =>
        ((jbStoreSeg c m.bthGetPsn ty m).segments.get (0 + j)).mbuf.toList := by
      refine List.mem_flatMap.mpr ⟨c.slotOf m.bthGetPsn, List.mem_range.mpr (by omega), ?_⟩
      rw [Nat.zero_add, hself]
      exact List.mem_singleton.mpr rfl
    split
    · simp
    · rename_i hno
      obtain ⟨x, xs, hcons⟩ := List.exists_cons_of_ne_nil (List.ne_nil_of_mem hmem)
      exact absurd (by rw [hcons]) (hno x xs)
  · intro j hj
    rw [Nat.zero_add]
    rcases Nat.lt_trichotomy j (c.slotOf m.bthGetPsn) with hlt | heq | hgt
    · rw [hother j (by omega) (by omega) (hbefore j hlt).1]
      exact (hbefore j hlt).1
    · rw [heq, hself]
    · obtain rfl : j = c.slotOf m.bthGetPsn + 1 := by omega
      rw [hother _ (by omega) (by omega) hafter.1]
      exact hafter.1
  · intro j hj
    rw [Nat.zero_add]
    rcases Nat.lt_trichotomy j (c.slotOf m.bthGetPsn) with hlt | heq | hgt
    · rw [hother j (by omega) (by omega) (hbefore j hlt).1, (hbefore j hlt).2]
      constructor
      · intro hf
        cases hf
      · intro hf
        omega
    · rw [heq, hself]
      exact hfinal.trans ⟨fun h => h.symm, fun h => h.symm⟩
    · obtain rfl : j = c.slotOf m.bthGetPsn + 1 := by omega
      rw [hother _ (by omega) (by omega) hafter.1, hafter.2]
      constructor
      · intro _
        omega
      · exact fun _ => rfl

end Contexts

/-- A context that waits for its final segment delivers nothing. -/
theorem release_of_incomplete {c : JbWriteContext Mbuf} (h : c.writeComplete = false) :
    (release c).2 = [] := by
  rw [release, h]
  rfl

/-- The state after one frame of a flow that found context `found` and completes
nothing. -/
theorem wanStep_ctxOf_writeFrame {s : ProcessorContext × Host} {found : Option (JbWriteContext Mbuf)}
    (opcode : Nat) {qpn : Nat} (psn : Nat) (hop : isWriteOpcode opcode = true) (hqpn : qpn < 16777216)
    (hpsn : psn < 16777216) (hfound : s.1.jitterBuffer.ctxOf qpn = found)
    (hroom : s.1.jitterBuffer.ctxOf qpn = none → s.1.jitterBuffer.HasFreeSlot)
    (hwaits : (release (accept found qpn psn (getSegmentType opcode)
      (writeFrame 0 opcode qpn psn))).2 = []) :
    (wanStep s (writeFrame 0 opcode qpn psn)).1.jitterBuffer.ctxOf qpn =
      some (accept found qpn psn (getSegmentType opcode) (writeFrame 0 opcode qpn psn)) := by
  have hlt : opcode < 256 := by
    rw [isWriteOpcode, Bool.and_eq_true, decide_eq_true_eq, decide_eq_true_eq] at hop
    have hmax : roceOpcodeWriteLastImm < 256 := by decide
    omega
  obtain ⟨hwrite, hopcode, hq, hp⟩ := writeFrame_fields 0 hlt hqpn hpsn
  have hstep := wanStep_ctxOf_of_waits (s := s) (hwrite.mpr hop)
  rw [hopcode, hq, hp, hfound] at hstep
  rw [hfound] at hroom
  exact hstep hroom hwaits

theorem ctxOf_jbInit_zero : (jbInit : JitterBuffer Mbuf).ctxOf 0 = some .zero := by
  have hfind : jbFind (jbInit : JitterBuffer Mbuf) 0 = some 0 := Table.findSlot_zero rfl
  rw [JitterBuffer.ctxOf, hfind]
  rfl

/-- A packet whose QPN has a context needs no free slot. -/
theorem answered_of_found {t : ProcessorContext × Host} {m : Mbuf} {c : JbWriteContext Mbuf}
    (hc : t.1.jitterBuffer.ctxOf m.bthGetQpn = some c) (hans : Answered (some c) m) :
    (t.1.jitterBuffer.ctxOf m.bthGetQpn = none → t.1.jitterBuffer.HasFreeSlot) ∧
      Answered (t.1.jitterBuffer.ctxOf m.bthGetQpn) m := by
  rw [hc]
  exact ⟨fun h => (nomatch h), hans⟩

/-- QPN 0 finds a context that was never opened, with PSN 0 as its first one: a gap
right before the packet's slot, or one frame far from it, has the packet answered. -/
theorem exists_answering_zero {s : ProcessorContext × Host} (hjb : s.1.jitterBuffer = jbInit)
    {m : Mbuf} (hq : m.bthGetQpn = 0) :
    ∃ ys, ((run wanStep s ys).1.jitterBuffer.ctxOf m.bthGetQpn = none →
        (run wanStep s ys).1.jitterBuffer.HasFreeSlot) ∧
      Answered ((run wanStep s ys).1.jitterBuffer.ctxOf m.bthGetQpn) m := by
  have hsome := fun {t : ProcessorContext × Host} {c : JbWriteContext Mbuf} =>
    answered_of_found (t := t) (m := m) (c := c)
  rw [hq] at hsome ⊢
  have hzero : s.1.jitterBuffer.ctxOf 0 = some .zero := by
    rw [hjb]
    exact ctxOf_jbInit_zero
  have hroom : ∀ {t : ProcessorContext × Host} {c : JbWriteContext Mbuf},
      t.1.jitterBuffer.ctxOf 0 = some c →
      t.1.jitterBuffer.ctxOf 0 = none → t.1.jitterBuffer.HasFreeSlot := by
    intro t c hc h
    rw [hc] at h
    cases h
  have hdist := psnForwardDist_zero_left m.bthGetPsn_lt
  have hslot : ∀ c : JbWriteContext Mbuf, c.firstPsn = 0 →
      c.slotOf m.bthGetPsn = m.bthGetPsn % jbMaxSegments := by
    intro c hc
    rw [JbWriteContext.slotOf, hc, hdist]
  have hmiddle := wanStep_ctxOf_writeFrame (s := s) roceOpcodeWriteMiddle 0 rfl (by decide)
    (by decide) hzero (hroom hzero) (release_of_incomplete rfl)
  by_cases h₀ : m.bthGetPsn % jbMaxSegments = 0
  · have hgap : GapAt (accept (some .zero) 0 1 (getSegmentType roceOpcodeWriteOnly)
        (writeFrame 0 roceOpcodeWriteOnly 0 1)) 0 :=
      gapAt_store (by decide) rfl (opened_not_received 0 0 0) (by omega)
    have honly := wanStep_ctxOf_writeFrame (s := s) roceOpcodeWriteOnly 1 rfl (by decide)
      (by decide) hzero (hroom hzero) hgap.waits
    refine ⟨[writeFrame 0 roceOpcodeWriteOnly 0 1], hsome honly (GapAt.answered ?_)⟩
    rw [hslot _ rfl, h₀]
    exact hgap
  by_cases h₁ : m.bthGetPsn % jbMaxSegments = 1
  · have hgap : GapAt (accept (some (accept (some .zero) 0 0 (getSegmentType roceOpcodeWriteMiddle)
        (writeFrame 0 roceOpcodeWriteMiddle 0 0))) 0 2 (getSegmentType roceOpcodeWriteOnly)
        (writeFrame 0 roceOpcodeWriteOnly 0 2)) 1 := by
      refine gapAt_store (by decide) rfl ?_ fun j hj => ?_
      · exact (opener_spec 0 0 .middle _).2 1 (by decide)
      · obtain rfl : j = 0 := by omega
        exact ⟨rfl, rfl⟩
    have honly := wanStep_ctxOf_writeFrame roceOpcodeWriteOnly 2 rfl (by decide) (by decide)
      hmiddle (hroom hmiddle) hgap.waits
    refine ⟨[writeFrame 0 roceOpcodeWriteMiddle 0 0, writeFrame 0 roceOpcodeWriteOnly 0 2],
      hsome honly (GapAt.answered ?_)⟩
    rw [hslot _ rfl, h₁]
    exact hgap
  · refine ⟨[writeFrame 0 roceOpcodeWriteMiddle 0 0], hsome hmiddle ?_⟩
    exact answered_beyond (by decide) (by rwa [hdist]) (by rwa [hdist])

/-- Some run from an empty buffer ends where packet `m` is answered. -/
theorem exists_answering {s : ProcessorContext × Host} (hjb : s.1.jitterBuffer = jbInit)
    (m : Mbuf) :
    ∃ ys, ((run wanStep s ys).1.jitterBuffer.ctxOf m.bthGetQpn = none →
        (run wanStep s ys).1.jitterBuffer.HasFreeSlot) ∧
      Answered ((run wanStep s ys).1.jitterBuffer.ctxOf m.bthGetQpn) m := by
  by_cases hq : m.bthGetQpn = 0
  · exact exists_answering_zero hjb hq
  have hfree : s.1.jitterBuffer.HasFreeSlot := by
    rw [hjb]
    exact ⟨0, rfl, rfl⟩
  have hnone : s.1.jitterBuffer.ctxOf m.bthGetQpn = none := by
    rw [hjb]
    exact ctxOf_eq_none.mpr fun _ h => hq h.symm
  by_cases hp : m.bthGetPsn + 1 = maxPsn
  · have hp' : m.bthGetPsn = 16777215 := Nat.succ.inj hp
    -- the frame two before the packet leaves 16777214 expected
    have hstep := wanStep_ctxOf_writeFrame (s := s) roceOpcodeWriteMiddle 16777213 rfl
      m.bthGetQpn_lt (by decide) hnone (fun _ => hfree) (release_of_incomplete rfl)
    refine ⟨[writeFrame 0 roceOpcodeWriteMiddle m.bthGetQpn 16777213], answered_of_found hstep ?_⟩
    exact answered_beyond (by decide) (by rw [hp']; decide) (by rw [hp']; decide)
  · exact ⟨[], fun _ => hfree, by rw [run_nil, hnone]; exact answered_none hp⟩

/-! ## Two gateways -/

/-- A subnet, as an entry of the peer table has it. -/
structure Subnet where
  network : Nat
  mask : Nat

/-- The address, in host order, belongs to a host behind the gateway with these LAN
subnets. -/
def Behind (lan : List Subnet) (addr : Nat) : Prop := ∃ s ∈ lan, addr &&& s.mask = s.network

/-- The peer tables of two gateways that know each other's LANs. -/
structure Topology where
  tableA : PeerManager
  tableB : PeerManager
  lanA : List Subnet
  lanB : List Subnet
  addrA : Nat
  addrB : Nat
  addrA_lt : addrA < 4294967296
  toB : ∀ addr, Behind lanB addr → pmLookup tableA addr = addrB
  toA : ∀ addr, Behind lanA addr → pmLookup tableB addr = addrA

variable {L W : Nat}

/-- Packet `m` of a host behind A to a host behind B made LAN core `i` of A send the
WRITE that B receives as `w`. -/
structure Carries (t : Topology) (g : Cores L W) (i : Fin L) (m w : Mbuf) : Prop where
  table : g.host.peerManager = t.tableA
  src : Behind t.lanA (bswap32 m.ipSrcAddr)
  dst : Behind t.lanB (bswap32 m.ipDstAddr)
  write : w.isRoceWrite
  sent : ∃ f ∈ g.sends (.lanRx i m), f.data = w.data

/-- The frame is an ARQ ACK or NACK. -/
def IsFeedback (f : Mbuf) : Prop :=
  ∃ msg, ctrlMsgOf f = some msg ∧ (msg.type = arqMsgAck ∨ msg.type = arqMsgNack)

/-- All feedback that WAN core `j` sends because of packet `w` goes to `addr`. -/
def RepliesTo (addr : Nat) (g : Cores L W) (j : Fin W) (w : Mbuf) : Prop :=
  ∀ f ∈ g.sends (.wanRx j w), IsFeedback f → f.ipDstAddr = addr

/-- The destination of the packet B receives is that of the packet A received. -/
theorem Carries.ipDstAddr {t : Topology} {g : Cores L W} {i : Fin L} {m w : Mbuf}
    (h : Carries t g i m w) : w.ipDstAddr = m.ipDstAddr := by
  obtain ⟨f, hf, hdata⟩ := h.sent
  have hwrite : f.isRoceWrite := by
    have hw := h.write
    simp only [Mbuf.isRoceWrite, Mbuf.etherType, Mbuf.ipProto, Mbuf.udpDstPort, Mbuf.bthOpcode]
      at hw ⊢
    rwa [hdata]
  have hdst : f.ipDstAddr = m.ipDstAddr := by
    obtain ⟨ev, hadds, hframes⟩ := lan_frames (g.procs (lanIndex i)) m g.host
    rw [Cores.sends, Cores.events_of_adds hadds] at hf
    obtain ⟨accepted, hmem⟩ := mem_wanFrames.mp hf
    exact LanFrame.ipDstAddr (hframes _ _ _ hmem) hwrite
  rw [← hdst, Mbuf.ipDstAddr, Mbuf.ipDstAddr, hdata]

/-- A run in which one WAN core does all the work. -/
theorem run_wanRx (g : Cores L W) (j : Fin W) (ys : List Mbuf) :
    ((run Cores.step g (ys.map (.wanRx j))).procs (wanIndex j),
        (run Cores.step g (ys.map (.wanRx j))).host) =
      run wanStep (g.procs (wanIndex j), g.host) ys := by
  induction ys generalizing g with
  | nil => rfl
  | cons y ys ih =>
    rw [List.map_cons, run_cons, run_cons, ih]
    simp [Cores.step, Cores.update, wanStep]

/-- A WAN core only appends to the trace. -/
theorem wan_run_adds (ys : List Mbuf) (s₀ : ProcessorContext × Host)
    (h : s₀.1.arqMgr = arqMgrInit) : ∃ ev, Adds s₀.2 (run wanStep s₀ ys).2 ev := by
  induction ys generalizing s₀ with
  | nil => exact ⟨[], .refl _⟩
  | cons y ys ih =>
    obtain ⟨ev, hadds, -⟩ := wan_frames h y s₀.2
    obtain ⟨ev', hadds'⟩ := ih (wanStep s₀ y) (procProcessWanRx_arqMgr_init h y s₀.2)
    exact ⟨ev ++ ev', hadds.trans hadds'⟩

/-- No call changes the configuration. -/
theorem step_config {g : Cores L W} (h : WanWindowsEmpty g) (c : CoreCall L W) :
    (g.step c).host.peerManager = g.host.peerManager ∧
      (g.step c).host.wanTunnelSrcIp = g.host.wanTunnelSrcIp := by
  have hupdate : ∀ (k : Fin (L + W)) (r : ProcessorContext × Host),
      r.2.peerManager = g.host.peerManager ∧ r.2.wanTunnelSrcIp = g.host.wanTunnelSrcIp →
        (g.update k r).host.peerManager = g.host.peerManager ∧
          (g.update k r).host.wanTunnelSrcIp = g.host.wanTunnelSrcIp := fun _ _ hr => hr
  cases c with
  | lanRx i m =>
    obtain ⟨ev, hadds, -⟩ := lan_frames (g.procs (lanIndex i)) m g.host
    exact hupdate _ _ ⟨hadds.peerManager, hadds.wanTunnelSrcIp⟩
  | wanRx j m =>
    obtain ⟨ev, hadds, -⟩ := wan_frames (h j) m g.host
    exact hupdate _ _ ⟨hadds.peerManager, hadds.wanTunnelSrcIp⟩
  | timer j => exact hupdate _ _ (procTimerCallback_keeps (h j) g.host)

theorem run_config {g : Cores L W} (h : WanWindowsEmpty g) (calls : List (CoreCall L W)) :
    (run Cores.step g calls).host.peerManager = g.host.peerManager ∧
      (run Cores.step g calls).host.wanTunnelSrcIp = g.host.wanTunnelSrcIp := by
  induction calls generalizing g with
  | nil => exact ⟨rfl, rfl⟩
  | cons c calls ih =>
    obtain ⟨hpeers, hsrc⟩ := step_config h c
    obtain ⟨hpeers', hsrc'⟩ := ih (h.step c)
    exact ⟨hpeers'.trans hpeers, hsrc'.trans hsrc⟩

/-- B answers packet `w` with a frame to the peer its table has for `w`, in some state
it reaches. -/
theorem exists_reply (table : PeerManager) {w : Mbuf} (hwrite : w.isRoceWrite) :
    ∃ (host : Host) (calls : List (CoreCall 0 1)), host.peerManager = table ∧
      ∃ f ∈ (run Cores.step (Cores.init 0 1 host) calls).sends (.wanRx 0 w), IsFeedback f ∧
        f.ipDstAddr = pmLookup table (bswap32 w.ipDstAddr) % 4294967296 := by
  let host : Host := { Host.unloaded with peerManager := table }
  obtain ⟨ys, hroom, hans⟩ := exists_answering
    (s := ((Cores.init 0 1 host).procs (wanIndex 0), host)) rfl w
  obtain ⟨ev, hadds⟩ := wan_run_adds ys ((Cores.init 0 1 host).procs (wanIndex 0), host) rfl
  have hrun := run_wanRx (Cores.init 0 1 host) 0 ys
  have hhost : (Cores.init 0 1 host).host = host := rfl
  rw [hhost] at hrun
  rw [← hrun] at hroom hans hadds
  refine ⟨host, ys.map (.wanRx 0), rfl, ?_⟩
  generalize run Cores.step (Cores.init 0 1 host) (ys.map (.wanRx 0)) = g at hroom hans hadds ⊢
  have hpool : PoolServes g.host := by
    intro n
    rw [hadds.oracle]
    exact ⟨_, rfl, by decide⟩
  obtain ⟨f, accepted, ev', type, hmem, htype, ⟨psn, hctrl⟩, hadds'⟩ :=
    answered_replies hwrite hpool hroom hans
  refine ⟨f, ?_, ⟨_, hctrl.ctrlMsgOf, ?_⟩, ?_⟩
  · rw [Cores.sends, Cores.events_of_adds (c := .wanRx 0 w) hadds']
    exact mem_wanFrames.mpr ⟨accepted, hmem⟩
  · rcases htype with rfl | rfl
    · exact Or.inl rfl
    · exact Or.inr rfl
  · rw [hctrl.addrs.2, wanGetPeerIp, hadds.peerManager]

/-- The feedback for a packet reaches the gateway that forwarded it, from every state
of the other gateway, exactly when the table there has that gateway for the
destination of the packet. -/
theorem replies_reach_sender_iff (t : Topology) (g : Cores L W) (i : Fin L) (m w : Mbuf)
    (h : Carries t g i m w) :
    (∀ (L' W' : Nat) (host : Host) (calls : List (CoreCall L' W')) (j : Fin W'),
      host.peerManager = t.tableB →
        RepliesTo t.addrA (run Cores.step (Cores.init L' W' host) calls) j w) ↔
      pmLookup t.tableB (bswap32 m.ipDstAddr) % 4294967296 = t.addrA := by
  rw [← h.ipDstAddr]
  constructor
  · intro hall
    obtain ⟨host, calls, htable, f, hf, hfeedback, hdst⟩ := exists_reply t.tableB h.write
    rw [← hdst]
    exact hall 0 1 host calls 0 htable f hf hfeedback
  · intro hlookup L' W' host calls j htable f hf _
    have htable' := (run_config (g := Cores.init L' W' host) (fun _ => rfl) calls).1.trans htable
    have hempty := wan_windows_empty host calls
    generalize run Cores.step (Cores.init L' W' host) calls = g' at hf htable' hempty
    obtain ⟨ev, hadds, hframes⟩ := wan_frames (hempty j) w g'.host
    rw [Cores.sends, Cores.events_of_adds (c := .wanRx j w) hadds] at hf
    obtain ⟨accepted, hmem⟩ := mem_wanFrames.mp hf
    rw [WanFrame.ipDstAddr (hframes _ _ _ hmem), wanGetPeerIp, htable', hlookup]

/-! ## Two sites -/

/-- 10.1.0.0/16 behind 10.0.0.1, 10.2.0.0/16 behind 10.0.0.2; `own` is what B's table
has after the entry for A's LAN. -/
def twoSites (own : List PeerMapping) : Topology where
  tableA := ⟨[⟨0x0A020000, 0xFFFF0000, 0x0200000A⟩], 0⟩
  tableB := ⟨⟨0x0A010000, 0xFFFF0000, 0x0100000A⟩ :: own, 0⟩
  lanA := [⟨0x0A010000, 0xFFFF0000⟩]
  lanB := [⟨0x0A020000, 0xFFFF0000⟩]
  addrA := 0x0100000A
  addrB := 0x0200000A
  addrA_lt := by decide
  toB := by
    rintro addr ⟨s, hs, haddr⟩
    rw [List.mem_singleton] at hs
    subst hs
    simp [pmLookup, haddr]
  toA := by
    rintro addr ⟨s, hs, haddr⟩
    rw [List.mem_singleton] at hs
    subst hs
    simp [pmLookup, haddr]

/-- A WRITE of 10.1.0.1 to 10.2.0.1. -/
def siteWrite : Mbuf :=
  let m := writeFrame 1 roceOpcodeWriteOnly 7 0
  m.withData ((m.data.st32 26 0x0100010A).st32 30 0x0100020A)

/-- Gateway A. -/
def siteA : Cores 1 1 :=
  Cores.init 1 1 { Host.unloaded with
    peerManager := (twoSites []).tableA }

/-- What A makes of the WRITE. -/
def siteForwarded : Mbuf :=
  ((siteA.sends (.lanRx 0 siteWrite)).find? fun f => decide f.isRoceWrite).getD siteWrite

theorem siteForwarded_carried (own : List PeerMapping) :
    Carries (twoSites own) siteA 0 siteWrite siteForwarded := by
  have hsent : ((siteA.sends (.lanRx 0 siteWrite)).find? fun f => decide f.isRoceWrite).isSome =
      true := by
    decide +kernel
  obtain ⟨f, hf⟩ := Option.isSome_iff_exists.mp hsent
  have hwrite : f.isRoceWrite := by simpa using List.find?_some hf
  have hw : siteForwarded = f := by rw [siteForwarded, hf, Option.getD_some]
  rw [hw]
  exact ⟨rfl, ⟨_, List.mem_singleton_self _, by decide +kernel⟩,
    ⟨_, List.mem_singleton_self _, by decide +kernel⟩, hwrite, f, List.mem_of_find?_eq_some hf, rfl⟩

/-- Where B's table has A for B's own LAN, the feedback arrives. -/
theorem replies_reach_sender_iff_mapped :
    Carries (twoSites [⟨0x0A020000, 0xFFFF0000, 0x0100000A⟩]) siteA 0 siteWrite siteForwarded ∧
      ∀ (L' W' : Nat) (host : Host) (calls : List (CoreCall L' W')) (j : Fin W'),
        host.peerManager = (twoSites [⟨0x0A020000, 0xFFFF0000, 0x0100000A⟩]).tableB →
          RepliesTo 0x0100000A (run Cores.step (Cores.init L' W' host) calls) j siteForwarded := by
  have hcarried := siteForwarded_carried [⟨0x0A020000, 0xFFFF0000, 0x0100000A⟩]
  exact ⟨hcarried, (replies_reach_sender_iff _ _ _ _ _ hcarried).mpr (by decide +kernel)⟩

/-- Gateway B with an entry for A's LAN only. -/
def siteB : Cores 1 1 :=
  Cores.init 1 1 { Host.unloaded with
    peerManager := (twoSites []).tableB }

/-- Its feedback for the WRITE goes to 0.0.0.0. -/
theorem replies_miss_sender :
    Carries (twoSites []) siteA 0 siteWrite siteForwarded ∧
      (siteB.sends (.wanRx 0 siteForwarded)).map Mbuf.ipDstAddr = [0, 0] ∧
      ¬ RepliesTo (twoSites []).addrA siteB 0 siteForwarded := by
  refine ⟨siteForwarded_carried [], by decide +kernel, fun hall => ?_⟩
  have hsent : ((siteB.sends (.wanRx 0 siteForwarded)).find? fun f =>
      decide (f.ipDstAddr = 0) && (ctrlMsgOf f).any fun msg => msg.type == arqMsgAck).isSome =
        true := by
    decide +kernel
  obtain ⟨f, hf⟩ := Option.isSome_iff_exists.mp hsent
  have hprop := List.find?_some hf
  rw [Bool.and_eq_true, decide_eq_true_eq, Option.any_eq_true] at hprop
  obtain ⟨hzero, msg, hmsg, htype⟩ := hprop
  have haddr := hall f (List.mem_of_find?_eq_some hf) ⟨msg, hmsg, Or.inl (by simpa using htype)⟩
  rw [hzero] at haddr
  exact absurd haddr (by decide)

end RdmaGateway.Gateway
