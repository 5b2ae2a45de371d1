/-
  Processor/Nacks.lean --- when a NACK is sent for nothing.

  `proc_process_wan_rx` asks `jb_check_missing` after every segment it stored, and
  that looks at the slot of the expected PSN alone: the PSN is reported whether a
  later segment has overtaken it or it has not been sent yet.  So a stream that
  arrives in order, without loss, draws a NACK for the next PSN with every segment
  but the last.  `no_spurious_nack_iff` says which segments draw none of these: those
  whose next expected PSN is there already, is overtaken, or is 0.
-/
import RdmaGateway.Processor.Isolation
import RdmaGateway.Reassembly.Invariant
import RdmaGateway.Reassembly.Placement

set_option autoImplicit false

namespace RdmaGateway.Processor

open RdmaGateway.Foundation
open RdmaGateway.Dpdk
open RdmaGateway.Wire
open RdmaGateway.Roce
open RdmaGateway.Tunnel
open RdmaGateway.Arq
open RdmaGateway.Reassembly

/-! ## Overtaken PSNs -/

/-- The PSN lies after `x` on the circle, by less than `2^23`. -/
def PsnAfter (x psn : Nat) : Prop := 0 < psnForwardDist x psn ∧ psnForwardDist x psn < psnHalf

instance (x psn : Nat) : Decidable (PsnAfter x psn) := inferInstanceAs (Decidable (_ ∧ _))

/-- The context has received a segment after `x`. -/
def HoldsAfter (ctx : JbWriteContext Mbuf) (x : Nat) : Prop :=
  ∃ i < jbMaxSegments, ctx.Received i ∧ PsnAfter x (ctx.segments.get i).psn

instance (ctx : JbWriteContext Mbuf) (x : Nat) : Decidable (HoldsAfter ctx x) :=
  inferInstanceAs
    (Decidable (∃ i < jbMaxSegments, ctx.Received i ∧ PsnAfter x (ctx.segments.get i).psn))

/-- In the context of the QPN, `x` has not been received and a segment after it has. -/
def Overtaken (jb : JitterBuffer Mbuf) (qpn x : Nat) : Prop :=
  ¬ HoldsPsn jb qpn x ∧ ∃ ctx, jb.ctxOf qpn = some ctx ∧ HoldsAfter ctx x

/-- The segment finds no later one missing: the PSN expected next, when the segment
is the expected one, and else the PSN expected now, is there, is overtaken, or is 0. -/
def FindsNext (ctx : JbWriteContext Mbuf) (psn : Nat) : Prop :=
  if psn = ctx.expectedPsn then
    psnAdd psn 1 = 0 ∨ ctx.Received (ctx.slotOf (psnAdd psn 1)) ∨ HoldsAfter ctx (psnAdd psn 1)
  else
    ctx.expectedPsn = 0 ∨ ctx.slotOf ctx.expectedPsn = ctx.slotOf psn ∨
      ctx.Received (ctx.slotOf ctx.expectedPsn) ∨ PsnAfter ctx.expectedPsn psn ∨
      HoldsAfter ctx ctx.expectedPsn

instance (ctx : JbWriteContext Mbuf) (psn : Nat) : Decidable (FindsNext ctx psn) :=
  decidable_of_iff _ (Iff.of_eq (FindsNext.eq_def ctx psn).symm)

/-! ## One context -/

section OneContext

variable {ctx : JbWriteContext Mbuf} {psn : Nat} {ty : WriteSegmentType} {m : Mbuf}

/-- A PSN is not after the one that follows it. -/
theorem not_psnAfter_next (psn : Nat) : ¬ PsnAfter (psnAdd psn 1) psn := by
  rintro ⟨-, hlt⟩
  have hdist : psnForwardDist (psnAdd psn 1) (psnAdd psn 0) = maxPsn - 1 + 0 :=
    psnForwardDist_psnAdd_psnAdd psn (by decide) (by decide)
  have hself : psnForwardDist (psnAdd psn 1) psn =
      psnForwardDist (psnAdd psn 1) (psnAdd psn 0) := by
    rw [psnForwardDist_eq, psnForwardDist_eq, psnAdd_eq psn 0, Nat.add_zero, Nat.mod_mod]
  rw [hself, hdist] at hlt
  exact absurd hlt (by decide)

/-- A store adds its own segment to those after `x`. -/
theorem holdsAfter_store (hmiss : ¬ ctx.Received (ctx.slotOf psn)) (x : Nat) :
    HoldsAfter (jbStoreSeg ctx psn ty m) x ↔ PsnAfter x psn ∨ HoldsAfter ctx x := by
  constructor
  · rintro ⟨i, hi, hrec, hafter⟩
    rcases received_of_store hi hrec with rfl | hold
    · rw [jbStoreSeg_get_slotOf] at hafter
      exact Or.inl hafter
    · rw [(received_store_of_miss hmiss hi hold).2] at hafter
      exact Or.inr ⟨i, hi, hold, hafter⟩
  · rintro (hafter | ⟨i, hi, hrec, hafter⟩)
    · refine ⟨_, ctx.slotOf_lt psn, received_store_slotOf, ?_⟩
      rwa [jbStoreSeg_get_slotOf]
    · obtain ⟨hrec', hget⟩ := received_store_of_miss (t := ty) (m := m) hmiss hi hrec
      exact ⟨i, hi, hrec', by rwa [hget]⟩

/-- A slot that is received after a store. -/
theorem received_store_iff (hmiss : ¬ ctx.Received (ctx.slotOf psn)) (x : Nat) :
    (jbStoreSeg ctx psn ty m).Received (ctx.slotOf x) ↔
      ctx.slotOf x = ctx.slotOf psn ∨ ctx.Received (ctx.slotOf x) := by
  constructor
  · exact received_of_store (ctx.slotOf_lt x)
  · rintro (hslot | hrec)
    · rw [hslot]
      exact received_store_slotOf
    · exact (received_store_of_miss hmiss (ctx.slotOf_lt x) hrec).1

/-- The slot after that of the expected PSN. -/
theorem ContextInv.slotOf_next (h : ContextInv ctx) :
    ctx.slotOf (psnAdd ctx.expectedPsn 1) ≠ ctx.slotOf ctx.expectedPsn := by
  have hle := h.advanced_le
  have hmax : jbMaxSegments + 1 < maxPsn := by decide
  rw [← psnAdd_advanced h.expectedPsn_lt, psnAdd_psnAdd, JbWriteContext.slotOf, JbWriteContext.slotOf,
    psnForwardDist_psnAdd _ (by omega), psnForwardDist_psnAdd _ (by omega)]
  change (ctx.advanced + 1) % 256 ≠ ctx.advanced % 256
  omega

variable (ty m) in
/-- What `jb_check_missing` will find, read off the context before the store. -/
theorem findsNext_iff (h : ContextInv ctx) (hpsn : psn < maxPsn)
    (hmiss : ¬ ctx.Received (ctx.slotOf psn)) :
    FindsNext ctx psn ↔ (jbStoreSeg ctx psn ty m).expectedPsn = 0 ∨
      (jbStoreSeg ctx psn ty m).Received (ctx.slotOf (jbStoreSeg ctx psn ty m).expectedPsn) ∨
      HoldsAfter (jbStoreSeg ctx psn ty m) (jbStoreSeg ctx psn ty m).expectedPsn := by
  rw [received_store_iff hmiss, holdsAfter_store hmiss, FindsNext]
  by_cases hexp : psn = ctx.expectedPsn
  · subst hexp
    have hnext : (jbStoreSeg ctx ctx.expectedPsn ty m).expectedPsn = psnAdd ctx.expectedPsn 1 := by
      simp [jbStoreSeg, psnForwardDist]
    rw [if_pos rfl, hnext]
    have hslot := ContextInv.slotOf_next h
    have hafter := not_psnAfter_next ctx.expectedPsn
    simp only [hslot, hafter, false_or]
  · have hdist : psnForwardDist ctx.expectedPsn psn ≠ 0 :=
      fun h0 => hexp (eq_of_psnForwardDist_eq_zero h.expectedPsn_lt hpsn h0).symm
    have hsame : (jbStoreSeg ctx psn ty m).expectedPsn = ctx.expectedPsn := by
      simp [jbStoreSeg, hdist]
    rw [if_neg hexp, hsame]
    simp only [or_assoc]

end OneContext

/-! ## One segment -/

/-- The segment is stored into this context: the one found, when the slot is open, or
a new one in a free slot. -/
def StoresIn (jb : JitterBuffer Mbuf) (qpn psn : Nat) (ctx : JbWriteContext Mbuf) : Prop :=
  jb.ctxOf qpn = some ctx ∧ ¬ ctx.Received (ctx.slotOf psn) ∨
    jb.ctxOf qpn = none ∧ jb.HasFreeSlot ∧ ctx = .opened qpn psn

theorem StoresIn.unique {jb : JitterBuffer Mbuf} {qpn psn : Nat} {ctx ctx' : JbWriteContext Mbuf}
    (h : StoresIn jb qpn psn ctx) (h' : StoresIn jb qpn psn ctx') : ctx = ctx' := by
  rcases h with ⟨hsome, -⟩ | ⟨hnone, -, rfl⟩
  · rcases h' with ⟨hsome', -⟩ | ⟨hnone', -, -⟩
    · rw [hsome] at hsome'
      exact Option.some.inj hsome'
    · rw [hsome] at hnone'
      cases hnone'
  · rcases h' with ⟨hsome', -⟩ | ⟨-, -, rfl⟩
    · rw [hnone] at hsome'
      cases hsome'
    · rfl

theorem StoresIn.miss {jb : JitterBuffer Mbuf} {qpn psn : Nat} {ctx : JbWriteContext Mbuf}
    (h : StoresIn jb qpn psn ctx) : ¬ ctx.Received (ctx.slotOf psn) := by
  rcases h with ⟨-, hmiss⟩ | ⟨-, -, rfl⟩
  · exact hmiss
  · exact opened_not_received qpn psn _

/-- `jb_add_seg` answers 1 for a stored segment, and leaves the context it stored it
in. -/
theorem StoresIn.addSeg {proc : ProcessorContext} {m : Mbuf} {ctx : JbWriteContext Mbuf}
    (h : StoresIn proc.jitterBuffer m.bthGetQpn m.bthGetPsn ctx) (host : Host) :
    (addSegOf proc host m).1 = 1 ∧ (addSegOf proc host m).2.1.ctxOf m.bthGetQpn =
      some (jbStoreSeg ctx m.bthGetPsn (getSegmentType m.bthOpcode) m) := by
  have hroom : proc.jitterBuffer.ctxOf m.bthGetQpn = none → proc.jitterBuffer.HasFreeSlot := by
    intro hnone
    rcases h with ⟨hsome, -⟩ | ⟨-, hfree, -⟩
    · rw [hsome] at hnone
      cases hnone
    · exact hfree
  obtain ⟨-, hctx⟩ := jbAddSeg_accept m.bthGetPsn (getSegmentType m.bthOpcode) m host.io hroom
  have hnew : ∀ c, proc.jitterBuffer.ctxOf m.bthGetQpn = some c →
      ¬ c.Received (c.slotOf m.bthGetPsn) := by
    intro c hc
    rcases h with ⟨hsome, hmiss⟩ | ⟨hnone, -, -⟩
    · rw [hsome] at hc
      cases hc
      exact hmiss
    · rw [hnone] at hc
      cases hc
  have hone := addSegOf_fst_eq_one host hroom hnew
  refine ⟨hone, ?_⟩
  rw [addSegOf, hctx]
  rcases h with ⟨hsome, hmiss⟩ | ⟨hnone, -, rfl⟩
  · rw [hsome, accept_some, if_neg hmiss]
  · rw [hnone, accept]

/-- Only a stored segment is answered with 1. -/
theorem exists_storesIn {proc : ProcessorContext} {host : Host} {m : Mbuf}
    (h : (addSegOf proc host m).1 = 1) :
    ∃ ctx, StoresIn proc.jitterBuffer m.bthGetQpn m.bthGetPsn ctx := by
  rw [addSegOf] at h
  cases jbAddSeg_outcome proc.jitterBuffer m.bthGetQpn m.bthGetPsn (getSegmentType m.bthOpcode) m
      host.io with
  | full _ _ hr =>
    rw [hr] at h
    cases h
  | duplicate _ _ hr =>
    rw [hr] at h
    cases h
  | @stored i ctx hfind hctx hmiss hr =>
    refine ⟨ctx, Or.inl ⟨?_, hmiss⟩⟩
    rw [JitterBuffer.ctxOf, hfind, Option.map_some, hctx]
  | @opened i hnone hfree hr => exact ⟨_, Or.inr ⟨hnone, ⟨i, hfree.2, hfree.1⟩, rfl⟩⟩

/-- The delivery part sends nothing to the WAN but ACKs. -/
theorem wanDeliver_acks (proc : ProcessorContext) (m : Mbuf) (host : Host) :
    ∃ ev, Adds host (wanDeliver proc m host).2 ev ∧
      ∀ f accepted, .txBurst .wan f accepted ∈ ev → IsCtrlFor host m arqMsgAck .wan f := by
  cases wanDeliver_outcome proc m host with
  | waits hsame _ =>
    rw [hsame]
    exact ⟨[], .refl host, by simp⟩
  | @delivers out evHand evAck io _ _ _ _ hhands hown hadds _ =>
    refine ⟨_, hadds, fun f accepted hf => ?_⟩
    rcases List.mem_append.mp hf with hf | hf
    · rcases List.mem_append.mp hf with hf | hf
      · cases (hhands.of_mem hf).1
      · simp at hf
    · exact hown.of_mem hf

/-- The NACK for what `jb_check_missing` answers for the packet, unless that is 0. -/
def IsNackOf (jb : JitterBuffer Mbuf) (host : Host) (m f : Mbuf) : Prop :=
  jbCheckMissing jb m.bthGetQpn ≠ 0 ∧
    IsCtrlMsg host.wanTunnelSrcIp (wanGetPeerIp host (bswap32 m.ipDstAddr)) m.bthGetQpn arqMsgNack
      (jbCheckMissing jb m.bthGetQpn) .wan f

theorem wanNack_sends (proc : ProcessorContext) (m : Mbuf) (host : Host) :
    ∃ ev, Adds host (wanNack proc m host).2 ev ∧
      ∀ f accepted, .txBurst .wan f accepted ∈ ev → IsNackOf proc.jitterBuffer host m f := by
  unfold wanNack
  dsimp only
  split
  · rename_i hmiss
    obtain ⟨-, -, ev, hadds, hown⟩ := wanSendCtrl_emits proc m.bthGetQpn arqMsgNack
      (jbCheckMissing proc.jitterBuffer m.bthGetQpn) m .nackSent host
    exact ⟨ev, hadds, fun f accepted hf => ⟨hmiss, hown.of_mem hf⟩⟩
  · exact ⟨[], .refl host, by simp⟩

/-- What the core sends to the WAN because of a WRITE that `jb_add_seg` does not
refuse: a NACK when the segment was stored, and ACKs. -/
theorem wanWrite_sends_of_added {proc : ProcessorContext} {m : Mbuf} {host : Host} {rc : Int}
    {jb : JitterBuffer Mbuf} {io : Io Mbuf} {evAdd : List (Event Mbuf)}
    (hadd : addSegOf proc host m = (rc, jb, io)) (hrc : rc = 0 ∨ rc = 1)
    (hadds : Adds host { host with io := io } evAdd)
    (hsilent : ∀ f accepted, .txBurst .wan f accepted ∉ evAdd) :
    ∃ ev, Adds host (wanWrite proc m host).2 ev ∧ ∀ f accepted, .txBurst .wan f accepted ∈ ev →
      IsCtrlFor host m arqMsgAck .wan f ∨ rc = 1 ∧ IsNackOf jb host m f := by
  rw [wanWrite_of_added hadd (by rcases hrc with rfl | rfl <;> decide)]
  rcases hrc with rfl | rfl
  · obtain ⟨ev, hdel, hacks⟩ :=
      wanDeliver_acks { proc.count .pktsWanToLan with jitterBuffer := jb } m { host with io := io }
    refine ⟨_, hadds.trans hdel, fun f accepted hf => ?_⟩
    rcases List.mem_append.mp hf with hf | hf
    · exact absurd hf (hsilent f accepted)
    · rw [← isCtrlFor_of_adds hadds]
      exact Or.inl (hacks f accepted hf)
  · obtain ⟨ev, hnack, hnacks⟩ :=
      wanNack_sends { proc.count .pktsWanToLan with jitterBuffer := jb } m { host with io := io }
    obtain ⟨ev', hdel, hacks⟩ := wanDeliver_acks
      (wanNack { proc.count .pktsWanToLan with jitterBuffer := jb } m { host with io := io }).1 m
      (wanNack { proc.count .pktsWanToLan with jitterBuffer := jb } m { host with io := io }).2
    refine ⟨_, (hadds.trans hnack).trans hdel, fun f accepted hf => ?_⟩
    rcases List.mem_append.mp hf with hf | hf
    · rcases List.mem_append.mp hf with hf | hf
      · exact absurd hf (hsilent f accepted)
      · exact Or.inr ⟨rfl, hnacks f accepted hf⟩
    · rw [← isCtrlFor_of_adds (hadds.trans hnack)]
      exact Or.inl (hacks f accepted hf)

/-- What a WRITE makes the core send to the WAN. -/
theorem wanWrite_sends (proc : ProcessorContext) (m : Mbuf) (host : Host) :
    ∃ ev, Adds host (wanWrite proc m host).2 ev ∧ ∀ f accepted, .txBurst .wan f accepted ∈ ev →
      IsCtrlFor host m arqMsgAck .wan f ∨
        (addSegOf proc host m).1 = 1 ∧ IsNackOf (addSegOf proc host m).2.1 host m f := by
  cases jbAddSeg_outcome proc.jitterBuffer m.bthGetQpn m.bthGetPsn (getSegmentType m.bthOpcode) m
      host.io with
  | full _ _ hr =>
    cases wanWrite_outcome proc m host with
    | refused _ _ hadds => exact ⟨_, hadds, by simp⟩
    | taken hrc _ _ _ _ =>
      rw [addSegOf, hr] at hrc
      rcases hrc with ⟨hrc, -⟩ | ⟨hrc, -⟩ <;> cases hrc
  | duplicate _ _ hr =>
    rw [addSegOf, hr]
    exact wanWrite_sends_of_added hr (Or.inl rfl) (free_adds host m) (by simp)
  | stored _ _ _ hr =>
    rw [addSegOf, hr]
    exact wanWrite_sends_of_added hr (Or.inr rfl) (.refl host) (by simp)
  | opened _ _ hr =>
    rw [addSegOf, hr]
    exact wanWrite_sends_of_added hr (Or.inr rfl) (.refl host) (by simp)

/-! ## NACKs -/

/-- Frame `m` makes the core pass a NACK with this QPN and PSN to the WAN port. -/
def EmitsNack (s : ProcessorContext × Host) (m : Mbuf) (qpn x : Nat) : Prop :=
  ∃ f accepted, .txBurst .wan f accepted ∈ (wanStep s m).2.io.trace.drop s.2.io.trace.length ∧
    ∃ msg, ctrlMsgOf f = some msg ∧ msg.type = arqMsgNack ∧ msg.qpn = qpn ∧ msg.psn = x

/-- Every NACK that frame `m` makes the core send for a nonzero QPN is for a PSN that
a received segment has overtaken. -/
def NacksOvertaken (s : ProcessorContext × Host) (m : Mbuf) : Prop :=
  ∀ qpn x, qpn ≠ 0 → EmitsNack s m qpn x → Overtaken (addSegOf s.1 s.2 m).2.1 qpn x

/-- A WRITE of a nonzero QPN that is stored finds the next segment. -/
def FindsNextIfStored (s : ProcessorContext × Host) (m : Mbuf) : Prop :=
  m.isRoceWrite → m.bthGetQpn ≠ 0 → ∀ ctx,
    StoresIn s.1.jitterBuffer m.bthGetQpn m.bthGetPsn ctx → FindsNext ctx m.bthGetPsn

/-- What holds of a WAN core and of each of its contexts. -/
structure NackInv (s : ProcessorContext × Host) : Prop where
  core : CoreInv s
  contexts : ∀ i, ContextInv (s.1.jitterBuffer.writes i)

section NackInv

variable {s : ProcessorContext × Host}

theorem contextInv_zero : ContextInv (JbWriteContext.zero : JbWriteContext Mbuf) := by
  have hopened : ContextInv (JbWriteContext.opened 0 0 : JbWriteContext Mbuf) :=
    contextInv_opened (by decide)
  exact hopened

theorem nackInv_init (host : Host) (lcoreId : Nat) :
    NackInv (procInit host lcoreId false, host) :=
  ⟨coreInv_init host lcoreId, fun _ => contextInv_zero⟩

theorem NackInv.step (h : NackInv s) (m : Mbuf) : NackInv (wanStep s m) where
  core := h.core.step m
  contexts := by
    have hpsn : m.bthGetPsn < maxPsn := m.bthGetPsn_lt
    have hadd : ∀ i, ContextInv ((addSegOf s.1 s.2 m).2.1.writes i) :=
      forall_writes_addSeg h.contexts (contextInv_opened hpsn)
        (fun _ hctx hmiss => hctx.store hpsn hmiss) s.2.io
    exact wanStep_keeps (P := fun jb => ∀ i, ContextInv (jb.writes i)) h.contexts hadd fun io =>
      forall_writes_removeWrite hadd contextInv_zero _ io

theorem NackInv.storesIn {m : Mbuf} {ctx : JbWriteContext Mbuf} (h : NackInv s)
    (hin : StoresIn s.1.jitterBuffer m.bthGetQpn m.bthGetPsn ctx) : ContextInv ctx := by
  rcases hin with ⟨hsome, -⟩ | ⟨-, -, rfl⟩
  · obtain ⟨i, -, rfl⟩ := ctxOf_eq_some hsome
    exact h.contexts i
  · exact contextInv_opened m.bthGetPsn_lt

/-- The NACK a stored segment draws is for the PSN expected after it, which is
missing. -/
theorem EmitsNack.expected {m : Mbuf} {qpn x : Nat} (h : NackInv s) (hnack : EmitsNack s m qpn x) :
    m.isRoceWrite ∧ qpn = m.bthGetQpn ∧ ∃ ctx,
      StoresIn s.1.jitterBuffer m.bthGetQpn m.bthGetPsn ctx ∧
        x = (jbStoreSeg ctx m.bthGetPsn (getSegmentType m.bthOpcode) m).expectedPsn ∧ x ≠ 0 ∧
        ¬ (jbStoreSeg ctx m.bthGetPsn (getSegmentType m.bthOpcode) m).Received (ctx.slotOf x) := by
  obtain ⟨f, accepted, hmem, msg, hmsg, htype, rfl, rfl⟩ := hnack
  cases wan_outcome s.1 m s.2 with
  | freed _ _ hadds =>
    rw [wanStep, (hadds h.core.windows).trace, List.drop_left] at hmem
    simp at hmem
  | wrote hwrite _ =>
    obtain ⟨ev, hadds, hframes⟩ := wanWrite_sends s.1 m s.2
    rw [wanStep, procProcessWanRx_write hwrite, hadds.trace, List.drop_left] at hmem
    rcases hframes f accepted hmem with ⟨psn, hack⟩ | ⟨hone, hmiss, hctrl⟩
    · rw [hack.ctrlMsgOf, Option.some.injEq] at hmsg
      have hack : arqMsgAck % 256 = arqMsgNack := by rwa [← hmsg] at htype
      exact absurd hack (by decide)
    · obtain ⟨ctx, hin⟩ := exists_storesIn hone
      have hinv := (h.storesIn hin).store (t := getSegmentType m.bthOpcode) (m := m) m.bthGetPsn_lt
        hin.miss
      have hlt : (jbStoreSeg ctx m.bthGetPsn (getSegmentType m.bthOpcode) m).expectedPsn <
          4294967296 := lt_trans hinv.expectedPsn_lt (by decide)
      have hqpn : m.bthGetQpn < 4294967296 := lt_trans m.bthGetQpn_lt (by decide)
      rw [jbCheckMissing_eq (hin.addSeg s.2).2] at hmiss hctrl
      rw [hctrl.ctrlMsgOf, Option.some.injEq] at hmsg
      subst hmsg
      split at hmiss
      · exact absurd rfl hmiss
      · rename_i hopen
        rw [if_neg hopen, Nat.mod_eq_of_lt hlt, Nat.mod_eq_of_lt hqpn]
        exact ⟨hwrite, rfl, ctx, hin, rfl, hmiss, hopen⟩

/-- With a buffer for it, a segment that does not find the next one draws a NACK. -/
theorem exists_emitsNack {m : Mbuf} {ctx : JbWriteContext Mbuf} (h : NackInv s)
    (hpool : PoolServes s.2) (hwrite : m.isRoceWrite)
    (hin : StoresIn s.1.jitterBuffer m.bthGetQpn m.bthGetPsn ctx)
    (hno : ¬ FindsNext ctx m.bthGetPsn) :
    EmitsNack s m m.bthGetQpn
      (jbStoreSeg ctx m.bthGetPsn (getSegmentType m.bthOpcode) m).expectedPsn := by
  obtain ⟨hone, hctx⟩ := hin.addSeg s.2
  rw [findsNext_iff (getSegmentType m.bthOpcode) m (h.storesIn hin) m.bthGetPsn_lt
    hin.miss, not_or, not_or] at hno
  obtain ⟨hzero, hopen, -⟩ := hno
  have hmiss : jbCheckMissing (addSegOf s.1 s.2 m).2.1 m.bthGetQpn ≠ 0 := by
    rw [jbCheckMissing_eq hctx, if_neg (by exact hopen)]
    exact hzero
  obtain ⟨f, accepted, ev, hmem, ⟨psn, hctrl⟩, hadds⟩ := wanWrite_nacks hpool hone hmiss
  have hnack : EmitsNack s m m.bthGetQpn (psn % 4294967296) := by
    refine ⟨f, accepted, ?_, _, hctrl.ctrlMsgOf, rfl, ?_, rfl⟩
    · rwa [wanStep, procProcessWanRx_write hwrite, hadds.trace, List.drop_left]
    · exact Nat.mod_eq_of_lt (lt_trans m.bthGetQpn_lt (by decide))
  obtain ⟨-, -, ctx', hin', hx, -, -⟩ := hnack.expected h
  obtain rfl := hin.unique hin'
  rwa [hx] at hnack

theorem nacksOvertaken_of_findsNext {m : Mbuf} (h : NackInv s) (hfinds : FindsNextIfStored s m) :
    NacksOvertaken s m := by
  rintro qpn x hq hnack
  obtain ⟨hwrite, rfl, ctx, hin, rfl, hzero, hopen⟩ := hnack.expected h
  have hctx := (hin.addSeg s.2).2
  have hinv := (h.storesIn hin).store (t := getSegmentType m.bthOpcode) (m := m) m.bthGetPsn_lt
    hin.miss
  have hnext := (findsNext_iff (getSegmentType m.bthOpcode) m (h.storesIn hin)
    m.bthGetPsn_lt hin.miss).mp (hfinds hwrite hq ctx hin)
  refine ⟨?_, _, hctx, (hnext.resolve_left hzero).resolve_left hopen⟩
  rintro ⟨c, hc, i, hi, hrec, hpsn⟩
  rw [hctx, Option.some.injEq] at hc
  subst hc
  -- a received segment sits in the slot of its PSN
  have hslot := (hinv.placed i hi hrec).2
  rw [hpsn] at hslot
  rw [← hslot] at hrec
  exact hopen hrec

theorem findsNext_of_nacksOvertaken {m : Mbuf} (h : NackInv s) (hpool : PoolServes s.2)
    (hnacks : NacksOvertaken s m) : FindsNextIfStored s m := by
  intro hwrite hq ctx hin
  by_contra hno
  obtain ⟨-, c, hc, hafter⟩ := hnacks _ _ hq (exists_emitsNack h hpool hwrite hin hno)
  rw [(hin.addSeg s.2).2, Option.some.injEq] at hc
  subst hc
  have hnext := findsNext_iff (getSegmentType m.bthOpcode) m (h.storesIn hin) m.bthGetPsn_lt hin.miss
  exact hno (hnext.mpr (Or.inr (Or.inr hafter)))

end NackInv

/-! ## Whole runs -/

/-- In every run of a WAN core whose stored segments find the next one, every NACK is
for an overtaken PSN; and while the pool has buffers for NACKs, in no other run. -/
theorem no_spurious_nack_iff (host : Host) (lcoreId : Nat) (ms : List Mbuf) :
    let core := (procInit host lcoreId false, host)
    (StepsMeet wanStep FindsNextIfStored core ms → StepsMeet wanStep NacksOvertaken core ms) ∧
      (PoolServes host → StepsMeet wanStep NacksOvertaken core ms →
        StepsMeet wanStep FindsNextIfStored core ms) := by
  intro core
  refine ⟨fun hmeet => ?_, fun hpool hmeet => ?_⟩
  · exact hmeet.imp NackInv (fun s m h => NackInv.step h m)
      (fun s m h => nacksOvertaken_of_findsNext h) (nackInv_init host lcoreId)
  · refine hmeet.imp (fun s => NackInv s ∧ PoolServes s.2) (fun s m h => ⟨h.1.step m, ?_⟩)
      (fun s m h => findsNext_of_nacksOvertaken h.1 h.2) ⟨nackInv_init host lcoreId, hpool⟩
    obtain ⟨ev, hadds, -⟩ := wan_frames h.1.core.windows m s.2
    rw [PoolServes, wanStep, hadds.oracle]
    exact h.2

/-- A segment that opens a context finds nothing behind it. -/
theorem findsNext_opened_iff {qpn psn : Nat} :
    FindsNext (.opened qpn psn) psn ↔ psnAdd psn 1 = 0 := by
  have hself : psn = (JbWriteContext.opened qpn psn : JbWriteContext Mbuf).expectedPsn := rfl
  rw [FindsNext, if_pos hself]
  refine ⟨fun h => ?_, Or.inl⟩
  rcases h with hzero | hrec | ⟨i, -, hrec, -⟩
  · exact hzero
  · exact absurd hrec (opened_not_received qpn psn _)
  · exact absurd hrec (opened_not_received qpn psn i)

theorem findsNextIfStored_of {s : ProcessorContext × Host} {m : Mbuf}
    (hopens : s.1.jitterBuffer.ctxOf m.bthGetQpn = none → psnAdd m.bthGetPsn 1 = 0)
    (hfound : ∀ ctx ∈ s.1.jitterBuffer.ctxOf m.bthGetQpn, FindsNext ctx m.bthGetPsn) :
    FindsNextIfStored s m := by
  rintro - - ctx (⟨hsome, -⟩ | ⟨hnone, -, rfl⟩)
  · exact hfound ctx hsome
  · exact findsNext_opened_iff.mpr (hopens hnone)

/-- The packets with the PSNs 16777215, 2 and 0 of one WRITE: the third one draws a NACK
for PSN 1, which the second one has overtaken. -/
theorem no_spurious_nack_iff_overtaken :
    let core := (procInit .unloaded 1 false, Host.unloaded)
    let ms := [writeFrame 0 roceOpcodeWriteFirst 7 16777215, writeFrame 1 roceOpcodeWriteLast 7 2,
      writeFrame 2 roceOpcodeWriteMiddle 7 0]
    StepsMeet wanStep FindsNextIfStored core ms ∧ StepsMeet wanStep NacksOvertaken core ms := by
  intro core ms
  have hmeet : StepsMeet wanStep FindsNextIfStored core ms :=
    ⟨findsNextIfStored_of (fun _ => by decide +kernel) (by decide +kernel),
      findsNextIfStored_of (by decide +kernel) (by decide +kernel),
      findsNextIfStored_of (by decide +kernel) (by decide +kernel), trivial⟩
  exact ⟨hmeet, (no_spurious_nack_iff .unloaded 1 ms).1 hmeet⟩

/-- A WRITE of two packets that arrives in order and without loss: the first one draws
a NACK for the second. -/
theorem in_order_draws_nack :
    let core := (procInit .unloaded 1 false, Host.unloaded)
    let first := writeFrame 0 roceOpcodeWriteFirst 7 0
    let last := writeFrame 1 roceOpcodeWriteLast 7 1
    EmitsNack core first 7 1 ∧ ¬ StepsMeet wanStep NacksOvertaken core [first, last] := by
  intro core first last
  obtain ⟨hwrite, -, hqpn, hpsn⟩ : (first.isRoceWrite ↔ isWriteOpcode roceOpcodeWriteFirst = true) ∧
      first.bthOpcode = roceOpcodeWriteFirst ∧ first.bthGetQpn = 7 ∧ first.bthGetPsn = 0 :=
    writeFrame_fields 0 (by decide) (by decide) (by decide)
  have hinv : NackInv core := nackInv_init .unloaded 1
  have hpool : PoolServes core.2 := fun _ => ⟨_, rfl, by decide⟩
  have hno : ¬ FindsNext (.opened 7 0) 0 := fun h => absurd (findsNext_opened_iff.mp h) (by decide)
  have hin : StoresIn core.1.jitterBuffer first.bthGetQpn first.bthGetPsn (.opened 7 0) := by
    rw [hqpn, hpsn]
    exact Or.inr ⟨ctxOf_eq_none.mpr fun _ h => absurd (show 0 = 7 from h) (by decide),
      ⟨0, rfl, rfl⟩, rfl⟩
  refine ⟨?_, fun hmeet => ?_⟩
  · have hnack := exists_emitsNack hinv hpool (hwrite.mpr rfl) hin (by rwa [hpsn])
    rw [hqpn, hpsn] at hnack
    exact hnack
  · have hfinds := findsNext_of_nacksOvertaken hinv hpool hmeet.1 (hwrite.mpr rfl)
      (by rw [hqpn]; decide) _ hin
    rw [hpsn] at hfinds
    exact hno hfinds

end RdmaGateway.Processor
