/-
  Processor/Isolation.lean --- two flows on one WAN core.

  A RoCE flow is a destination address and a destination QPN; QPNs are unique per
  host only.  The jitter buffer finds its contexts by QPN alone.  Flows of different
  QPNs do not see each other: a packet of one changes neither the context of the
  other nor what is handed over for it, as long as there is a slot for each.  Flows
  of one QPN to two hosts share a context, and a packet of one can take the slot of
  the other's (`flows_isolated_iff`).
-/
import RdmaGateway.Processor.Frames

set_option autoImplicit false

namespace RdmaGateway.Processor

open RdmaGateway.Foundation
open RdmaGateway.Dpdk
open RdmaGateway.Wire
open RdmaGateway.Roce
open RdmaGateway.Tunnel
open RdmaGateway.Arq
open RdmaGateway.Reassembly

/-! ## Slots for two flows -/

/-- Slot `i` has the context of the QPN, or is free for one. -/
def Serves (jb : JitterBuffer Mbuf) (qpn : Nat) (i : Fin jbMaxPendingWrites) : Prop :=
  (jb.writes i).qpn = qpn ∨ (jb.writes i).qpn = 0 ∧ (jb.writes i).segmentCount = 0

/-- There is a slot for each of two flows. -/
def SlotsFor (jb : JitterBuffer Mbuf) (qpn qpn' : Nat) : Prop :=
  ∃ i i', i ≠ i' ∧ Serves jb qpn i ∧ Serves jb qpn' i'

section Slots

variable {jb jb' : JitterBuffer Mbuf} {qpn qpn' : Nat}

theorem SlotsFor.symm (h : SlotsFor jb qpn qpn') : SlotsFor jb qpn' qpn := by
  obtain ⟨i, i', hne, hi, hi'⟩ := h
  exact ⟨i', i, hne.symm, hi', hi⟩

theorem SlotsFor.hasFreeSlot (h : SlotsFor jb qpn qpn') (hnone : jb.ctxOf qpn = none) :
    jb.HasFreeSlot := by
  obtain ⟨i, -, -, hi, -⟩ := h
  rcases hi with hqpn | ⟨hzero, hcount⟩
  · exact absurd hqpn (ctxOf_eq_none.mp hnone i)
  · exact ⟨i, hcount, hzero⟩

/-- A call for the first QPN uses the slot of its context, or a free one when it has
none; either way there is a slot for each again. -/
theorem SlotsFor.update (h : SlotsFor jb qpn qpn') (hne : qpn ≠ qpn') (hq : qpn ≠ 0)
    {k : Fin jbMaxPendingWrites} {ctx : JbWriteContext Mbuf}
    (hw : jb'.writes = Function.update jb.writes k ctx)
    (hold : (jb.writes k).qpn = qpn ∨
      ((jb.writes k).qpn = 0 ∧ (jb.writes k).segmentCount = 0) ∧ jb.ctxOf qpn = none)
    (hnew : ctx.qpn = qpn ∨ ctx.qpn = 0 ∧ ctx.segmentCount = 0) : SlotsFor jb' qpn qpn' := by
  obtain ⟨i, i', hii, hi, hi'⟩ := h
  have hself : Serves jb' qpn k := by
    rw [Serves, hw, Function.update_self]
    exact hnew
  have hother : ∀ {j q}, j ≠ k → Serves jb q j → Serves jb' q j := by
    intro j q hj hserves
    rw [Serves, hw, Function.update_of_ne hj]
    exact hserves
  by_cases hk : i' = k
  · -- the call took the slot meant for the other flow, so its own was free
    subst hk
    rcases hold with hqpn | ⟨-, hnone⟩
    · rcases hi' with hqpn' | ⟨hzero, -⟩
      · exact absurd (hqpn.symm.trans hqpn') hne
      · exact absurd (hqpn.symm.trans hzero) hq
    · rcases hi with hqpn | hfree
      · exact absurd hqpn (ctxOf_eq_none.mp hnone i)
      · exact ⟨i', i, hii.symm, hself, hother hii (Or.inr hfree)⟩
  · exact ⟨k, i', fun heq => hk heq.symm, hself, hother hk hi'⟩

theorem SlotsFor.addSeg (h : SlotsFor jb qpn qpn') (hne : qpn ≠ qpn') (hq : qpn ≠ 0) (psn : Nat)
    (ty : WriteSegmentType) (m : Mbuf) (io : Io Mbuf) :
    SlotsFor (jbAddSeg jb qpn psn ty m io).2.1 qpn qpn' := by
  cases jbAddSeg_outcome jb qpn psn ty m io with
  | full _ _ hr => rwa [hr]
  | duplicate _ _ hr => rwa [hr]
  | @stored i ctx hfind hctx _ hr =>
    have hqpn := jbFind_some hfind
    rw [hr]
    exact h.update hne hq rfl (Or.inl hqpn) (Or.inl (by rw [jbStoreSeg_qpn, ← hctx, hqpn]))
  | opened hnone hfree hr =>
    rw [hr]
    exact h.update hne hq rfl (Or.inr ⟨hfree, hnone⟩) (Or.inl rfl)

theorem SlotsFor.removeWrite (h : SlotsFor jb qpn qpn') (hne : qpn ≠ qpn') (hq : qpn ≠ 0)
    (io : Io Mbuf) : SlotsFor (jbRemoveWrite jb qpn io).1 qpn qpn' := by
  cases hfind : jbFind jb qpn with
  | none =>
    rw [jbRemoveWrite_of_none (by simp [JitterBuffer.ctxOf, hfind])]
    exact h
  | some i =>
    exact h.update hne hq (jbRemoveWrite_writes hfind) (Or.inl (jbFind_some hfind))
      (Or.inr ⟨rfl, rfl⟩)

end Slots

/-! ## Buffers and their contexts -/

/-- Every stored buffer is a packet of the QPN of its context. -/
def HoldsOwn (jb : JitterBuffer Mbuf) : Prop :=
  ∀ i j m, ((jb.writes i).segments.get j).mbuf = some m → m.bthGetQpn = (jb.writes i).qpn

section HoldsOwn

variable {jb : JitterBuffer Mbuf}

theorem holdsOwn_jbInit : HoldsOwn jbInit :=
  holds_jbInit (P := fun qpn (m : Mbuf) => m.bthGetQpn = qpn)

theorem HoldsOwn.addSeg (h : HoldsOwn jb) (psn : Nat) (ty : WriteSegmentType) (m : Mbuf)
    (io : Io Mbuf) : HoldsOwn (jbAddSeg jb m.bthGetQpn psn ty m io).2.1 :=
  Holds.addSeg (P := fun qpn (m : Mbuf) => m.bthGetQpn = qpn) h psn ty rfl io

theorem HoldsOwn.removeWrite (h : HoldsOwn jb) (qpn : Nat) (io : Io Mbuf) :
    HoldsOwn (jbRemoveWrite jb qpn io).1 :=
  Holds.removeWrite (P := fun qpn (m : Mbuf) => m.bthGetQpn = qpn) h qpn io

end HoldsOwn

/-! ## One packet -/

/-- What a packet does to the jitter buffer. -/
theorem wanStep_jitterBuffer (s : ProcessorContext × Host) (m : Mbuf) :
    (wanStep s m).1.jitterBuffer = s.1.jitterBuffer ∨
      (wanStep s m).1.jitterBuffer = (addSegOf s.1 s.2 m).2.1 ∨
      ∃ io, (wanStep s m).1.jitterBuffer =
        (jbRemoveWrite (addSegOf s.1 s.2 m).2.1 m.bthGetQpn io).1 := by
  cases wan_outcome s.1 m s.2 with
  | freed _ hjb _ => exact Or.inl hjb
  | wrote _ hout =>
    cases hout with
    | refused _ hjb _ => exact Or.inl hjb
    | taken _ hjb _ _ hdel =>
      cases hdel with
      | waits hsame _ => exact Or.inr (Or.inl (by rw [wanStep, hsame, hjb]))
      | @delivers _ _ _ io _ _ _ hjb' _ _ _ _ =>
        exact Or.inr (Or.inr ⟨io, by rw [wanStep, hjb', hjb]⟩)

/-- A property of the jitter buffer that both of its operations keep for the QPN of
the packet. -/
theorem wanStep_keeps {P : JitterBuffer Mbuf → Prop} {s : ProcessorContext × Host} {m : Mbuf}
    (h : P s.1.jitterBuffer) (hadd : P (addSegOf s.1 s.2 m).2.1)
    (hrem : ∀ io, P (jbRemoveWrite (addSegOf s.1 s.2 m).2.1 m.bthGetQpn io).1) :
    P (wanStep s m).1.jitterBuffer := by
  rcases wanStep_jitterBuffer s m with hjb | hjb | ⟨io, hjb⟩
  · rwa [hjb]
  · rwa [hjb]
  · rw [hjb]
    exact hrem io

/-- What holds of a WAN core whatever it has received. -/
structure CoreInv (s : ProcessorContext × Host) : Prop where
  distinct : s.1.jitterBuffer.QpnsDistinct
  own : HoldsOwn s.1.jitterBuffer
  windows : s.1.arqMgr = arqMgrInit

theorem coreInv_init (host : Host) (lcoreId : Nat) :
    CoreInv (procInit host lcoreId false, host) :=
  ⟨qpnsDistinct_jbInit, holdsOwn_jbInit, rfl⟩

theorem CoreInv.step {s : ProcessorContext × Host} (h : CoreInv s) (m : Mbuf) :
    CoreInv (wanStep s m) where
  distinct := wanStep_keeps h.distinct (jbAddSeg_qpnsDistinct h.distinct) fun _ =>
    jbRemoveWrite_qpnsDistinct (jbAddSeg_qpnsDistinct h.distinct)
  own := wanStep_keeps h.own (h.own.addSeg _ _ m _) fun _ => (h.own.addSeg _ _ m _).removeWrite _ _
  windows := procProcessWanRx_arqMgr_init h.windows m s.2

theorem CoreInv.run {s : ProcessorContext × Host} (h : CoreInv s) (ws : List Mbuf) :
    CoreInv (Foundation.run wanStep s ws) := by
  induction ws generalizing s with
  | nil => exact h
  | cons w ws ih => exact ih (h.step w)

/-- A packet of another QPN leaves the context of a flow alone. -/
theorem wanStep_ctxOf_of_ne (s : ProcessorContext × Host) {m : Mbuf} {qpn : Nat}
    (hne : qpn ≠ m.bthGetQpn) (hq : qpn ≠ 0) :
    (wanStep s m).1.jitterBuffer.ctxOf qpn = s.1.jitterBuffer.ctxOf qpn := by
  have hadd : (addSegOf s.1 s.2 m).2.1.ctxOf qpn = s.1.jitterBuffer.ctxOf qpn :=
    jbAddSeg_ctxOf_of_ne hne hq
  exact wanStep_keeps (P := fun jb => jb.ctxOf qpn = s.1.jitterBuffer.ctxOf qpn) rfl hadd
    fun _ => (jbRemoveWrite_ctxOf_of_ne hne hq).trans hadd

theorem wanStep_slotsFor {s : ProcessorContext × Host} {m : Mbuf} {qpn : Nat}
    (h : SlotsFor s.1.jitterBuffer m.bthGetQpn qpn) (hne : m.bthGetQpn ≠ qpn)
    (hq : m.bthGetQpn ≠ 0) : SlotsFor (wanStep s m).1.jitterBuffer m.bthGetQpn qpn :=
  wanStep_keeps (P := fun jb => SlotsFor jb m.bthGetQpn qpn) h (h.addSeg hne hq _ _ _ _)
    fun io => (h.addSeg hne hq _ _ _ _).removeWrite hne hq io

/-- What a packet makes the core hand to the LAN has the QPN of the packet. -/
theorem wanStep_handed_qpn {s : ProcessorContext × Host} (h : CoreInv s) (m : Mbuf) :
    ∃ ev, Adds s.2 (wanStep s m).2 ev ∧ ∀ f ∈ lanHanded ev, f.bthGetQpn = m.bthGetQpn := by
  obtain ⟨ev, hadds, hframes⟩ := wan_frames h.windows m s.2
  refine ⟨ev, hadds, fun f hf => ?_⟩
  obtain ⟨e, he, hsome⟩ := List.mem_filterMap.mp hf
  split at hsome
  · cases hsome
    cases hframes _ _ _ he with
    | @delivered seg _ hseg =>
      obtain ⟨i, j, hfind, -, hmbuf⟩ := jbGetOrderedSegs_subset hseg
      have hown := h.own.addSeg m.bthGetPsn (getSegmentType m.bthOpcode) m s.2.io i j seg hmbuf
      rw [setSrcAddr_bthGetQpn, hown]
      exact jbFind_some hfind
  · cases hsome

/-! ## Flows -/

/-- A RoCE flow: destination address, as the header stores it, and QPN. -/
structure FlowId where
  dstIp : Nat
  qpn : Nat
  dstIp_lt : dstIp < 4294967296
  qpn_lt : qpn < 16777216
  qpn_ne : qpn ≠ 0

/-- The frame has the destination and the QPN of the flow. -/
def FlowId.Has (f : FlowId) (m : Mbuf) : Prop := m.ipDstAddr = f.dstIp ∧ m.bthGetQpn = f.qpn

instance (f : FlowId) (m : Mbuf) : Decidable (f.Has m) := inferInstanceAs (Decidable (_ ∧ _))

/-- The packets of the flow in a list, in order. -/
def FlowId.part (f : FlowId) (ms : List Mbuf) : List Mbuf := ms.filter fun m => decide (f.Has m)

/-- From every state that a WAN core reaches, with a slot for each of the two flows,
and for every interleaving of their data packets: the LAN is handed the same packets
of flow `f` as when those arrive alone. -/
def Isolated (f f' : FlowId) : Prop :=
  ∀ (host : Host) (lcoreId : Nat) (ws xs : List Mbuf),
    SlotsFor (run wanStep (procInit host lcoreId false, host) ws).1.jitterBuffer f.qpn f'.qpn →
    (∀ m ∈ xs, m.isRoceWrite ∧ (f.Has m ∨ f'.Has m)) →
    f.part (lanHanded (run wanStep (run wanStep (procInit host lcoreId false, host) ws)
        xs).2.io.trace) =
      f.part (lanHanded (run wanStep (run wanStep (procInit host lcoreId false, host) ws)
        (f.part xs)).2.io.trace)

/-- Two cores that flow `f` cannot tell apart. -/
structure SameFor (f f' : FlowId) (s t : ProcessorContext × Host) : Prop where
  left : CoreInv s
  right : CoreInv t
  slotsLeft : SlotsFor s.1.jitterBuffer f.qpn f'.qpn
  slotsRight : SlotsFor t.1.jitterBuffer f.qpn f'.qpn
  srcIp : s.2.wanTunnelSrcIp = t.2.wanTunnelSrcIp
  ctx : s.1.jitterBuffer.ctxOf f.qpn = t.1.jitterBuffer.ctxOf f.qpn
  handed : f.part (lanHanded s.2.io.trace) = f.part (lanHanded t.2.io.trace)

section SameFor

variable {f f' : FlowId} {s t : ProcessorContext × Host} {m : Mbuf}

theorem FlowId.part_append (f : FlowId) (ms ms' : List Mbuf) :
    f.part (ms ++ ms') = f.part ms ++ f.part ms' :=
  List.filter_append ms ms'

theorem FlowId.part_cons_of_has {xs : List Mbuf} (h : f.Has m) :
    f.part (m :: xs) = m :: f.part xs :=
  List.filter_cons_of_pos (p := fun m => decide (f.Has m)) (decide_eq_true h)

theorem FlowId.part_cons_of_not {xs : List Mbuf} (h : ¬ f.Has m) : f.part (m :: xs) = f.part xs :=
  List.filter_cons_of_neg (p := fun m => decide (f.Has m)) (by simpa using h)

/-- A packet of the flow itself, on both cores. -/
theorem SameFor.step_own (h : SameFor f f' s t) (hne : f.qpn ≠ f'.qpn) (hwrite : m.isRoceWrite)
    (hm : m.bthGetQpn = f.qpn) : SameFor f f' (wanStep s m) (wanStep t m) := by
  have hq : m.bthGetQpn ≠ 0 := by
    rw [hm]
    exact f.qpn_ne
  have hne' : m.bthGetQpn ≠ f'.qpn := by
    rw [hm]
    exact hne
  have hslotsL := h.slotsLeft
  have hslotsR := h.slotsRight
  have hctx := h.ctx
  rw [← hm] at hslotsL hslotsR hctx
  obtain ⟨hctxL, -, evL, hdelL⟩ := wanStep_arrive hwrite hq hslotsL.hasFreeSlot
  obtain ⟨hctxR, -, evR, hdelR⟩ := wanStep_arrive hwrite hq hslotsR.hasFreeSlot
  refine ⟨h.left.step m, h.right.step m, ?_, ?_, ?_, ?_, ?_⟩
  · rw [← hm]
    exact wanStep_slotsFor hslotsL hne' hq
  · rw [← hm]
    exact wanStep_slotsFor hslotsR hne' hq
  · rw [hdelL.adds.wanTunnelSrcIp, hdelR.adds.wanTunnelSrcIp, h.srcIp]
  · rw [← hm, hctxL (Or.inl h.left.distinct), hctxR (Or.inl h.right.distinct), hctx]
  · rw [hdelL.adds.trace, hdelR.adds.trace, lanHanded_append, lanHanded_append, hdelL.handed,
      hdelR.handed, FlowId.part_append, FlowId.part_append, h.handed, h.srcIp, hctx]

/-- A packet of the other flow, on one of them. -/
theorem SameFor.step_other (h : SameFor f f' s t) (hne : f.qpn ≠ f'.qpn)
    (hm : m.bthGetQpn = f'.qpn) : SameFor f f' (wanStep s m) t := by
  have hne' : f.qpn ≠ m.bthGetQpn := by
    rw [hm]
    exact hne
  have hq : m.bthGetQpn ≠ 0 := by
    rw [hm]
    exact f'.qpn_ne
  have hslots := h.slotsLeft.symm
  rw [← hm] at hslots
  have hslots' := (wanStep_slotsFor hslots hne'.symm hq).symm
  rw [hm] at hslots'
  obtain ⟨ev, hadds, hqpn⟩ := wanStep_handed_qpn h.left m
  refine ⟨h.left.step m, h.right, hslots', h.slotsRight, hadds.wanTunnelSrcIp.trans h.srcIp,
    (wanStep_ctxOf_of_ne s hne' f.qpn_ne).trans h.ctx, ?_⟩
  have hnone : f.part (lanHanded ev) = [] := by
    refine List.filter_eq_nil_iff.mpr fun b hb hhas => ?_
    have hb' := (of_decide_eq_true hhas).2
    rw [hqpn b hb] at hb'
    exact hne' hb'.symm
  rw [hadds.trace, lanHanded_append, FlowId.part_append, hnone, List.append_nil, h.handed]

/-- A whole interleaving against the packets of the flow alone. -/
theorem SameFor.run (h : SameFor f f' s t) (hne : f.qpn ≠ f'.qpn) {xs : List Mbuf}
    (hxs : ∀ m ∈ xs, m.isRoceWrite ∧ (f.Has m ∨ f'.Has m)) :
    SameFor f f' (Foundation.run wanStep s xs) (Foundation.run wanStep t (f.part xs)) := by
  induction xs generalizing s t with
  | nil => exact h
  | cons m xs ih =>
    obtain ⟨hwrite, hm⟩ := hxs m List.mem_cons_self
    have hrest : ∀ m ∈ xs, m.isRoceWrite ∧ (f.Has m ∨ f'.Has m) :=
      fun m' hm' => hxs m' (List.mem_cons_of_mem _ hm')
    by_cases hhas : f.Has m
    · rw [FlowId.part_cons_of_has hhas]
      exact ih (h.step_own hne hwrite hhas.2) hrest
    · rw [FlowId.part_cons_of_not hhas]
      exact ih (h.step_other hne (hm.resolve_left hhas).2) hrest

end SameFor

/-! ## Flows that share a QPN -/

/-- A frame of the flow with nothing but headers. -/
def FlowId.frame (f : FlowId) (opcode psn : Nat) : Mbuf :=
  let m := writeFrame 0 opcode f.qpn psn
  m.withData (m.data.st32 30 f.dstIp)

theorem FlowId.frame_spec (f : FlowId) (opcode psn : Nat) (hop : opcode < 256)
    (hpsn : psn < 16777216) :
    ((f.frame opcode psn).isRoceWrite ↔ isWriteOpcode opcode = true) ∧ f.Has (f.frame opcode psn) ∧
      (f.frame opcode psn).bthOpcode = opcode ∧ (f.frame opcode psn).bthGetPsn = psn := by
  obtain ⟨hwrite, hopcode, hqpn, hpsn'⟩ := writeFrame_fields 0 hop f.qpn_lt hpsn
  have hkeep : ∀ i, i < 30 ∨ 34 ≤ i →
      (f.frame opcode psn).data.ld8 i = (writeFrame 0 opcode f.qpn psn).data.ld8 i := by
    intro i hi
    rw [FlowId.frame, Mbuf.withData_data, ByteMem.ld8_st32]
    repeat rw [if_neg (by omega)]
  refine ⟨?_, ⟨?_, ?_⟩, ?_, ?_⟩
  · rw [← hwrite]
    simp only [Mbuf.isRoceWrite, Mbuf.etherType, Mbuf.ipProto, Mbuf.udpDstPort, Mbuf.bthOpcode,
      ByteMem.ld16, hkeep 12 (by decide), hkeep (12 + 1) (by decide), hkeep 23 (by decide),
      hkeep 36 (by decide), hkeep (36 + 1) (by decide), hkeep 42 (by decide)]
  · rw [Mbuf.ipDstAddr, FlowId.frame, Mbuf.withData_data, ByteMem.ld32_st32,
      Nat.mod_eq_of_lt f.dstIp_lt]
  · rw [← hqpn]
    simp only [Mbuf.bthGetQpn, hkeep 47 (by decide), hkeep 48 (by decide), hkeep 49 (by decide)]
  · rw [Mbuf.bthOpcode, hkeep 42 (by decide)]
    exact hopcode
  · refine Eq.trans ?_ hpsn'
    simp only [Mbuf.bthGetPsn, hkeep 51 (by decide), hkeep 52 (by decide), hkeep 53 (by decide)]

theorem setSrcAddr_has (f : FlowId) (srcIp : Nat) (m : Mbuf) :
    f.Has (setSrcAddr srcIp m) ↔ f.Has m := by
  rw [FlowId.Has, FlowId.Has, setSrcAddr_ipDstAddr, setSrcAddr_bthGetQpn]

/-- A core that has received nothing yet hands over what the first packet releases. -/
theorem handed_first {m : Mbuf} (hwrite : m.isRoceWrite) (hq : m.bthGetQpn ≠ 0) :
    lanHanded (wanStep (procInit .unloaded 1 false, .unloaded) m).2.io.trace =
        (arrive none m).2.map (setSrcAddr Host.unloaded.wanTunnelSrcIp) ∧
      (wanStep (procInit .unloaded 1 false, .unloaded) m).1.jitterBuffer.ctxOf m.bthGetQpn =
        (arrive none m).1 := by
  have hnone : (procInit .unloaded 1 false).jitterBuffer.ctxOf m.bthGetQpn = none :=
    ctxOf_eq_none.mpr fun _ h => hq h.symm
  obtain ⟨hctx, -, ev, hdel⟩ := wanStep_arrive (s := (procInit .unloaded 1 false, .unloaded)) hwrite
    hq fun _ => ⟨0, rfl, rfl⟩
  rw [hnone] at hctx hdel
  refine ⟨?_, hctx (Or.inl qpnsDistinct_jbInit)⟩
  rw [hdel.adds.trace, lanHanded_append, hdel.handed]
  rfl

/-- A FIRST packet that opens a context waits in it. -/
theorem arrive_first {m : Mbuf} (hop : m.bthOpcode = roceOpcodeWriteFirst) :
    ∃ ctx, arrive none m = (some ctx, []) ∧ ctx.writeComplete = false ∧
      ctx.Received (ctx.slotOf m.bthGetPsn) := by
  have hty : getSegmentType m.bthOpcode = .first := by
    rw [hop]
    rfl
  refine ⟨accept none m.bthGetQpn m.bthGetPsn .first m, ?_, rfl, ?_⟩
  · rw [arrive, hty, release, if_neg (by simp [accept, JbWriteContext.opened, JbWriteContext.zero,
      WriteSegmentType.isFinal])]
  · have hself := jbStoreSeg_get_slotOf (.opened m.bthGetQpn m.bthGetPsn) m.bthGetPsn .first m
    rw [JbWriteContext.Received]
    exact congrArg JbSegment.state hself

/-- A packet whose slot is taken, in a context that waits for its final segment. -/
theorem arrive_taken {ctx : JbWriteContext Mbuf} {m : Mbuf} (hwaits : ctx.writeComplete = false)
    (hrec : ctx.Received (ctx.slotOf m.bthGetPsn)) : arrive (some ctx) m = (some ctx, []) := by
  rw [arrive, accept_some, if_pos hrec, release, hwaits]
  rfl

/-- An ONLY packet that opens a context is released. -/
theorem arrive_only {m : Mbuf} (hop : m.bthOpcode = roceOpcodeWriteOnly) :
    arrive none m = (none, [m]) := by
  have hty : getSegmentType m.bthOpcode = .only := by
    rw [hop]
    rfl
  have hself := jbStoreSeg_get_slotOf (.opened m.bthGetQpn m.bthGetPsn) m.bthGetPsn .only m
  rw [show (JbWriteContext.opened m.bthGetQpn m.bthGetPsn : JbWriteContext Mbuf).slotOf m.bthGetPsn =
    0 from slotOf_self] at hself
  have hscan : jbScan (accept none m.bthGetQpn m.bthGetPsn .only m).segments jbMaxSegments 0 =
      some [m] := by
    rw [jbScan, accept, hself]
    rfl
  rw [arrive, hty, release, if_pos (by simp [accept, WriteSegmentType.isFinal]), hscan]

/-- The FIRST of one flow takes the slot of the ONLY packet of the other. -/
theorem not_isolated_of_qpn_eq {f f' : FlowId} (hqpn : f.qpn = f'.qpn) (hdst : f.dstIp ≠ f'.dstIp) :
    ¬ Isolated f f' := by
  intro hiso
  obtain ⟨hwx, hx, hopx, hpx⟩ := f'.frame_spec roceOpcodeWriteFirst 0 (by decide) (by decide)
  obtain ⟨hwy, hy, hopy, hpy⟩ := f.frame_spec roceOpcodeWriteOnly 0 (by decide) (by decide)
  replace hwx := hwx.mpr rfl
  replace hwy := hwy.mpr rfl
  generalize f'.frame roceOpcodeWriteFirst 0 = x at hwx hx hopx hpx
  generalize f.frame roceOpcodeWriteOnly 0 = y at hwy hy hopy hpy
  have hnot : ¬ f.Has x := fun h => hdst (h.1.symm.trans hx.1)
  have hsame : x.bthGetQpn = y.bthGetQpn := by rw [hx.2, hy.2, hqpn]
  have hqy : y.bthGetQpn ≠ 0 := by
    rw [hy.2]
    exact f.qpn_ne
  have hqx : x.bthGetQpn ≠ 0 := hsame ▸ hqy
  have hxs : ∀ m ∈ [x, y], m.isRoceWrite ∧ (f.Has m ∨ f'.Has m) := by
    intro m hm
    simp only [List.mem_cons, List.not_mem_nil, or_false] at hm
    rcases hm with rfl | rfl
    · exact ⟨hwx, Or.inr hx⟩
    · exact ⟨hwy, Or.inl hy⟩
  have hclaim := hiso .unloaded 1 [] [x, y]
    ⟨0, 1, by decide, Or.inr ⟨rfl, rfl⟩, Or.inr ⟨rfl, rfl⟩⟩ hxs
  rw [FlowId.part_cons_of_not hnot, FlowId.part_cons_of_has hy,
    show f.part ([] : List Mbuf) = [] from rfl] at hclaim
  simp only [run_cons, run_nil] at hclaim
  -- alone, the packet is handed over
  have halone := (handed_first hwy hqy).1
  rw [arrive_only hopy] at halone
  -- after the FIRST it is taken for a duplicate
  obtain ⟨ctx, harr, hwaits, hrec⟩ := arrive_first hopx
  obtain ⟨hhanded, hctx⟩ := handed_first hwx hqx
  rw [harr] at hhanded hctx
  rw [hsame] at hctx
  rw [hpx, ← hpy] at hrec
  obtain ⟨-, -, ev, hdel⟩ := wanStep_arrive hwy hqy fun hnone => by
    rw [hctx] at hnone
    cases hnone
  rw [hctx, arrive_taken hwaits hrec] at hdel
  rw [hdel.adds.trace, lanHanded_append, hdel.handed, hhanded, halone] at hclaim
  have hpart : f.part [setSrcAddr Host.unloaded.wanTunnelSrcIp y] =
      [setSrcAddr Host.unloaded.wanTunnelSrcIp y] :=
    FlowId.part_cons_of_has ((setSrcAddr_has f _ y).mpr hy)
  rw [List.map_singleton, hpart] at hclaim
  cases hclaim

/-- Two flows are isolated from each other, in every state and for every interleaving,
exactly when their QPNs differ. -/
theorem flows_isolated_iff (f f' : FlowId) (h : (f.dstIp, f.qpn) ≠ (f'.dstIp, f'.qpn)) :
    Isolated f f' ↔ f.qpn ≠ f'.qpn := by
  constructor
  · intro hiso hqpn
    refine not_isolated_of_qpn_eq hqpn (fun hdst => h ?_) hiso
    rw [hdst, hqpn]
  · intro hne host lcoreId ws xs hslots hxs
    have hcore := (coreInv_init host lcoreId).run ws
    have hsame : SameFor f f' (run wanStep (procInit host lcoreId false, host) ws)
        (run wanStep (procInit host lcoreId false, host) ws) :=
      ⟨hcore, hcore, hslots, hslots, rfl, rfl, rfl⟩
    exact (hsame.run hne hxs).handed

/-- QPN 7 of 10.2.0.1 and QPN 8 of 10.2.0.2. -/
theorem flows_isolated_iff_seven_eight :
    Isolated ⟨0x0100020A, 7, by decide, by decide, by decide⟩
      ⟨0x0200020A, 8, by decide, by decide, by decide⟩ :=
  (flows_isolated_iff _ _ (by decide)).mpr (by decide)

/-- QPN 7 of 10.2.0.1 and QPN 7 of 10.2.0.2: the ONLY packet of the first is lost when
the FIRST of the second, with the same PSN, arrives before it. -/
theorem flows_of_one_qpn_interfere :
    let f : FlowId := ⟨0x0100020A, 7, by decide, by decide, by decide⟩
    let f' : FlowId := ⟨0x0200020A, 7, by decide, by decide, by decide⟩
    let core := (procInit .unloaded 1 false, Host.unloaded)
    f.part (lanHanded (run wanStep core
        [f'.frame roceOpcodeWriteFirst 0, f.frame roceOpcodeWriteOnly 0]).2.io.trace) = [] ∧
      (f.part (lanHanded (run wanStep core [f.frame roceOpcodeWriteOnly 0]).2.io.trace)).length = 1 ∧
      ¬ Isolated f f' := by
  intro f f' core
  refine ⟨?_, by decide +kernel, not_isolated_of_qpn_eq rfl (by decide)⟩
  rw [← List.length_eq_zero_iff]
  decide +kernel

end RdmaGateway.Processor
