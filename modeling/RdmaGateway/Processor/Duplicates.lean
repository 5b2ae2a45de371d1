/-
  Processor/Duplicates.lean --- an extra copy of a packet at a WAN core.

  Two runs are compared: the arrivals `xs ++ ys`, and the same with one more
  packet `d` between the two parts.  When `d` arrives the flow must have a
  context, for otherwise `d` opens one and is delivered again.  With a context
  there are two harmless places for `d`: a slot that is taken, where
  `jb_add_seg` recognises a duplicate, and a slot behind the one at which the
  scan of the open message stops, where `d` is stored and later wiped.  In both
  cases the LAN is handed the same packets for ever after
  (`duplicate_unnoticed`).
-/
import RdmaGateway.Processor.Order
import RdmaGateway.Reassembly.Agreement

set_option autoImplicit false

namespace RdmaGateway.Processor

open RdmaGateway.Foundation
open RdmaGateway.Dpdk
open RdmaGateway.Wire
open RdmaGateway.Roce
open RdmaGateway.Tunnel
open RdmaGateway.Arq
open RdmaGateway.Reassembly

/-- A frame that carries a RoCE WRITE for the QPN. -/
def IsWriteOf (qpn : Nat) (m : Mbuf) : Prop := m.isRoceWrite ∧ m.bthGetQpn = qpn

section Arrivals

variable {qpn : Nat} {s t : ProcessorContext × Host} {m : Mbuf}

/-- One arrival on a core that serves this flow alone. -/
theorem arrival_spec (hq : qpn ≠ 0) (honly : s.1.jitterBuffer.OnlyFlow qpn)
    (hm : IsWriteOf qpn m) :
    (wanStep s m).1.jitterBuffer.OnlyFlow qpn ∧
      (wanStep s m).1.jitterBuffer.ctxOf qpn = (arrive (s.1.jitterBuffer.ctxOf qpn) m).1 ∧
      (wanStep s m).2.wanTunnelSrcIp = s.2.wanTunnelSrcIp ∧
      lanHanded (wanStep s m).2.io.trace = lanHanded s.2.io.trace ++
        (arrive (s.1.jitterBuffer.ctxOf qpn) m).2.map (setSrcAddr s.2.wanTunnelSrcIp) := by
  obtain ⟨hwrite, rfl⟩ := hm
  obtain ⟨hctx, hkeep, ev, hdel⟩ := wanStep_arrive hwrite hq fun hnone => honly.hasFreeSlot hnone
  refine ⟨hkeep honly, hctx (Or.inl honly.distinct), hdel.adds.wanTunnelSrcIp, ?_⟩
  rw [hdel.adds.trace, lanHanded_append, hdel.handed]

/-! ## The context between two arrivals -/

/-- The core serves this flow alone, and the test for a complete WRITE has failed
on an open context. -/
structure Waits (qpn : Nat) (s : ProcessorContext × Host) : Prop where
  only : s.1.jitterBuffer.OnlyFlow qpn
  settled : ∀ ctx, s.1.jitterBuffer.ctxOf qpn = some ctx → Settled ctx

theorem Waits.step (hq : qpn ≠ 0) (h : Waits qpn s) (hm : IsWriteOf qpn m) :
    Waits qpn (wanStep s m) := by
  obtain ⟨honly, hctx, -, -⟩ := arrival_spec hq h.only hm
  refine ⟨honly, fun ctx hfound => ?_⟩
  rw [hctx] at hfound
  exact settled_of_release (flagSet_accept (fun ctx hctx => (h.settled ctx hctx).flag) _ _ _ _)
    hfound

theorem waits_run (hq : qpn ≠ 0) (hjb : s.1.jitterBuffer = jbInit) {xs : List Mbuf}
    (hxs : ∀ m ∈ xs, IsWriteOf qpn m) : Waits qpn (run wanStep s xs) := by
  have hstart : Waits qpn s := by
    refine ⟨hjb ▸ onlyFlow_jbInit qpn, fun ctx hctx => ?_⟩
    rw [hjb, ctxOf_jbInit hq] at hctx
    cases hctx
  exact run_induction (fun s m hs hm => hs.step hq hm) hstart (stepsMeet_of_forall (fun _ => hxs) s)

/-! ## Two cores that hand over the same -/

/-- Both cores serve this flow alone and have handed the same packets to the LAN. -/
structure HandSame (qpn : Nat) (s t : ProcessorContext × Host) : Prop where
  onlyLeft : s.1.jitterBuffer.OnlyFlow qpn
  onlyRight : t.1.jitterBuffer.OnlyFlow qpn
  srcIp : s.2.wanTunnelSrcIp = t.2.wanTunnelSrcIp
  handed : lanHanded s.2.io.trace = lanHanded t.2.io.trace

/-- An arrival that delivers the same on both cores. -/
theorem HandSame.step (hq : qpn ≠ 0) (h : HandSame qpn s t) (hm : IsWriteOf qpn m)
    (hout : (arrive (s.1.jitterBuffer.ctxOf qpn) m).2 = (arrive (t.1.jitterBuffer.ctxOf qpn) m).2) :
    HandSame qpn (wanStep s m) (wanStep t m) := by
  obtain ⟨honlyS, -, hsrcS, hhandedS⟩ := arrival_spec hq h.onlyLeft hm
  obtain ⟨honlyT, -, hsrcT, hhandedT⟩ := arrival_spec hq h.onlyRight hm
  refine ⟨honlyS, honlyT, ?_, ?_⟩
  · rw [hsrcS, hsrcT, h.srcIp]
  · rw [hhandedS, hhandedT, hout, h.srcIp, h.handed]

/-- The flow has the same context on both cores. -/
def SameContext (qpn : Nat) (s t : ProcessorContext × Host) : Prop :=
  HandSame qpn s t ∧ s.1.jitterBuffer.ctxOf qpn = t.1.jitterBuffer.ctxOf qpn

theorem SameContext.step (hq : qpn ≠ 0) (h : SameContext qpn s t) (hm : IsWriteOf qpn m) :
    SameContext qpn (wanStep s m) (wanStep t m) := by
  obtain ⟨hsame, hctx⟩ := h
  refine ⟨hsame.step hq hm (by rw [hctx]), ?_⟩
  rw [(arrival_spec hq hsame.onlyLeft hm).2.1, (arrival_spec hq hsame.onlyRight hm).2.1, hctx]

/-- The flow has contexts on both cores that agree up to slot `k`, and `P` holds of
the right one. -/
def Agreeing (qpn k : Nat) (P : JbWriteContext Mbuf → Prop) (s t : ProcessorContext × Host) : Prop :=
  HandSame qpn s t ∧ ∃ a b, s.1.jitterBuffer.ctxOf qpn = some a ∧
    t.1.jitterBuffer.ctxOf qpn = some b ∧ AgreeTo k a b ∧ P b

/-- The flow has the same context on both cores, or two contexts that agree up to
slot `k`. -/
def AgreeingContexts (qpn k : Nat) (s t : ProcessorContext × Host) : Prop :=
  SameContext qpn s t ∨ Agreeing qpn k (fun _ => True) s t

/-- The flow has the same context on both cores, or two contexts that agree up to a
slot `k` that is taken. -/
def StoppedContexts (qpn k : Nat) (s t : ProcessorContext × Host) : Prop :=
  SameContext qpn s t ∨ Agreeing qpn k (fun b => b.taken k ≠ none) s t

/-- One arrival at contexts that agree: they still agree, or the message was
delivered by both cores. -/
theorem Agreeing.step {k : Nat} {P : JbWriteContext Mbuf → Prop} (hq : qpn ≠ 0)
    (h : Agreeing qpn k P s t) (hm : IsWriteOf qpn m)
    (hstops : ∀ b, t.1.jitterBuffer.ctxOf qpn = some b → P b → b.taken k = none →
      b.slotOf m.bthGetPsn = k → (getSegmentType m.bthOpcode).isFinal = true) :
    SameContext qpn (wanStep s m) (wanStep t m) ∨
      Agreeing qpn k (fun b => ∃ b₀, P b₀ ∧
        b = accept (some b₀) m.bthGetQpn m.bthGetPsn (getSegmentType m.bthOpcode) m)
        (wanStep s m) (wanStep t m) := by
  obtain ⟨hhand, a, b, ha, hb, hagree, hP⟩ := h
  have hctxS := (arrival_spec hq hhand.onlyLeft hm).2.1
  have hctxT := (arrival_spec hq hhand.onlyRight hm).2.1
  have hnext := hagree.accept m.bthGetQpn m.bthGetPsn (getSegmentType m.bthOpcode) m
    (hstops b hb hP)
  rcases hnext.release_eq with ⟨hrelA, hrelB⟩ | ⟨out, hrelA, hrelB⟩
  · exact Or.inr ⟨hhand.step hq hm (by rw [ha, hb, arrive, arrive, hrelA, hrelB]), _, _,
      by rw [hctxS, ha, arrive, hrelA], by rw [hctxT, hb, arrive, hrelB], hnext, b, hP, rfl⟩
  · refine Or.inl ⟨hhand.step hq hm (by rw [ha, hb, arrive, arrive, hrelA, hrelB]), ?_⟩
    rw [hctxS, hctxT, ha, hb, arrive, arrive, hrelA, hrelB]

/-- The flow has a context, and nothing is in its slot `k` yet. -/
def AwaitsSlot (qpn k : Nat) (s : ProcessorContext × Host) : Prop :=
  ∃ ctx, s.1.jitterBuffer.ctxOf qpn = some ctx ∧ ctx.taken k = none

/-- An arrival that falls in slot `k` of the open context is a final segment. -/
def StopsAt (qpn k : Nat) (s : ProcessorContext × Host) (m : Mbuf) : Prop :=
  ∀ ctx, s.1.jitterBuffer.ctxOf qpn = some ctx → ctx.slotOf m.bthGetPsn = k →
    (getSegmentType m.bthOpcode).isFinal = true

theorem AgreeingContexts.step {k : Nat} (hq : qpn ≠ 0) (h : AgreeingContexts qpn k s t)
    (hstops : StopsAt qpn k t m) (hm : IsWriteOf qpn m) :
    AgreeingContexts qpn k (wanStep s m) (wanStep t m) := by
  rcases h with hsame | hagree
  · exact Or.inl (hsame.step hq hm)
  · refine (hagree.step hq hm fun b hb _ _ => hstops b hb).imp_right ?_
    rintro ⟨hhand, a, b, ha, hb, hnext, -⟩
    exact ⟨hhand, a, b, ha, hb, hnext, trivial⟩

/-- Once the scan stops at slot `k`, nothing further is asked of the arrivals. -/
theorem StoppedContexts.step {k : Nat} (hq : qpn ≠ 0) (h : StoppedContexts qpn k s t)
    (hm : IsWriteOf qpn m) : StoppedContexts qpn k (wanStep s m) (wanStep t m) := by
  rcases h with hsame | hagree
  · exact Or.inl (hsame.step hq hm)
  · refine (hagree.step hq hm fun b _ htaken hopen => absurd hopen htaken).imp_right ?_
    rintro ⟨hhand, a, b, ha, hb, hnext, b₀, htaken, rfl⟩
    exact ⟨hhand, a, _, ha, hb, hnext, taken_accept_ne_none hnext.lt_max htaken⟩

theorem AgreeingContexts.stopped {k : Nat} (h : AgreeingContexts qpn k s t)
    (hnot : ¬ AwaitsSlot qpn k t) : StoppedContexts qpn k s t := by
  apply h.imp_right
  rintro ⟨hhand, a, b, ha, hb, hagree, -⟩
  exact ⟨hhand, a, b, ha, hb, hagree, fun hopen => hnot ⟨b, hb, hopen⟩⟩

theorem handSame_of_agreeing {k : Nat} {P : JbWriteContext Mbuf → Prop}
    (h : SameContext qpn s t ∨ Agreeing qpn k P s t) : HandSame qpn s t := by
  rcases h with hsame | hagree
  · exact hsame.1
  · exact hagree.1

/-! ## The extra copy -/

/-- The left core has handed `n` packets more to the LAN, and the flow has the
same context on both. -/
structure AheadBy (n qpn : Nat) (s t : ProcessorContext × Host) : Prop where
  onlyLeft : s.1.jitterBuffer.OnlyFlow qpn
  onlyRight : t.1.jitterBuffer.OnlyFlow qpn
  ctx : s.1.jitterBuffer.ctxOf qpn = t.1.jitterBuffer.ctxOf qpn
  handed : (lanHanded s.2.io.trace).length = (lanHanded t.2.io.trace).length + n

theorem AheadBy.step {n : Nat} (hq : qpn ≠ 0) (h : AheadBy n qpn s t) (hm : IsWriteOf qpn m) :
    AheadBy n qpn (wanStep s m) (wanStep t m) := by
  obtain ⟨honlyS, hctxS, -, hhandedS⟩ := arrival_spec hq h.onlyLeft hm
  obtain ⟨honlyT, hctxT, -, hhandedT⟩ := arrival_spec hq h.onlyRight hm
  refine ⟨honlyS, honlyT, by rw [hctxS, hctxT, h.ctx], ?_⟩
  have hlen := h.handed
  rw [hhandedS, hhandedT, h.ctx]
  simp only [List.length_append, List.length_map]
  omega

/-- The extra packet `d`, in the state before it arrives and with the arrivals
`ys` after it, stays unnoticed: the flow has a context, and the slot of `d` in it
is taken, or lies behind a slot `k` at which the scan stops, because slot `k`
holds a final segment, or is open and, as long as it is and the context is there,
can only receive one. -/
def Unnoticed (qpn : Nat) (d : Mbuf) (ys : List Mbuf) (s : ProcessorContext × Host) : Prop :=
  ∃ ctx, s.1.jitterBuffer.ctxOf qpn = some ctx ∧
    (ctx.Received (ctx.slotOf d.bthGetPsn) ∨
      ∃ k < ctx.slotOf d.bthGetPsn,
        (∀ seg, ctx.taken k = some seg → seg.segmentType.isFinal = true) ∧
        StepsMeetWhile wanStep (AwaitsSlot qpn k) (StopsAt qpn k) s ys)

/-- A packet that changes the context to one that is kept hands nothing over. -/
theorem handSame_of_kept {ctx : JbWriteContext Mbuf} (hq : qpn ≠ 0)
    (honly : s.1.jitterBuffer.OnlyFlow qpn) (hm : IsWriteOf qpn m)
    (hkept : arrive (s.1.jitterBuffer.ctxOf qpn) m = (some ctx, [])) :
    HandSame qpn (wanStep s m) s ∧ (wanStep s m).1.jitterBuffer.ctxOf qpn = some ctx := by
  obtain ⟨honly', hctx, hsrc, hhanded⟩ := arrival_spec hq honly hm
  rw [hkept] at hctx hhanded
  refine ⟨⟨honly', honly, hsrc, ?_⟩, hctx⟩
  rw [hhanded, List.map_nil, List.append_nil]

/-- A recognised duplicate changes nothing. -/
theorem sameContext_of_received {ctx : JbWriteContext Mbuf} (hq : qpn ≠ 0) (h : Waits qpn s)
    (hm : IsWriteOf qpn m) (hctx : s.1.jitterBuffer.ctxOf qpn = some ctx)
    (hdup : ctx.Received (ctx.slotOf m.bthGetPsn)) : SameContext qpn (wanStep s m) s := by
  have hkept : arrive (s.1.jitterBuffer.ctxOf qpn) m = (some ctx, []) := by
    rw [hctx, arrive, accept_some, if_pos hdup, (h.settled ctx hctx).kept]
  obtain ⟨hhand, hctx'⟩ := handSame_of_kept hq h.only hm hkept
  exact ⟨hhand, hctx'.trans hctx.symm⟩

/-- A packet behind the slot where the scan stops is stored and hands nothing
over. -/
theorem agreeingContexts_of_behind {ctx : JbWriteContext Mbuf} {k : Nat} (hq : qpn ≠ 0)
    (h : Waits qpn s) (hm : IsWriteOf qpn m) (hctx : s.1.jitterBuffer.ctxOf qpn = some ctx)
    (hk : k < ctx.slotOf m.bthGetPsn)
    (hstop : ∀ seg, ctx.taken k = some seg → seg.segmentType.isFinal = true) :
    AgreeingContexts qpn k (wanStep s m) s := by
  obtain ⟨hflag, hkept⟩ := h.settled ctx hctx
  have hagree := agreeTo_store hflag m.bthGetQpn m.bthGetPsn (getSegmentType m.bthOpcode) m hk hstop
  rcases hagree.release_eq with ⟨hrel, -⟩ | ⟨out, -, hwiped⟩
  · obtain ⟨hhand, hctx'⟩ := handSame_of_kept hq h.only hm (by rw [hctx, arrive, hrel])
    exact Or.inr ⟨hhand, _, _, hctx', hctx, hagree, trivial⟩
  · rw [hkept] at hwiped
    cases hwiped

/-- A final segment that finds no context is handed over. -/
theorem aheadBy_of_none (hq : qpn ≠ 0) (honly : s.1.jitterBuffer.OnlyFlow qpn)
    (hm : IsWriteOf qpn m) (hnone : s.1.jitterBuffer.ctxOf qpn = none)
    (hfinal : (getSegmentType m.bthOpcode).isFinal = true) : AheadBy 1 qpn (wanStep s m) s := by
  obtain ⟨honly', hctx, -, hhanded⟩ := arrival_spec hq honly hm
  rw [hnone, arrive, release_accept_none hfinal] at hctx hhanded
  refine ⟨honly', honly, hctx.trans hnone.symm, ?_⟩
  rw [hhanded, List.length_append]
  rfl

/-- Two runs of a WAN core on WRITE packets of one QPN, with and without an extra
packet `d` between `xs` and `ys`.  If `d` stays unnoticed, the LAN is handed the
same packets in both; if `d` is a final segment and finds no context, because its
message was delivered, it is not. -/
theorem duplicate_unnoticed (hq : qpn ≠ 0) (s : ProcessorContext × Host)
    (hjb : s.1.jitterBuffer = jbInit) (xs ys : List Mbuf) (d : Mbuf)
    (hxs : ∀ m ∈ xs, IsWriteOf qpn m) (hd : IsWriteOf qpn d) (hys : ∀ m ∈ ys, IsWriteOf qpn m) :
    (Unnoticed qpn d ys (run wanStep s xs) →
      lanHanded (run wanStep s (xs ++ d :: ys)).2.io.trace =
        lanHanded (run wanStep s (xs ++ ys)).2.io.trace) ∧
    ((run wanStep s xs).1.jitterBuffer.ctxOf qpn = none →
      (getSegmentType d.bthOpcode).isFinal = true →
      lanHanded (run wanStep s (xs ++ d :: ys)).2.io.trace ≠
        lanHanded (run wanStep s (xs ++ ys)).2.io.trace) := by
  have hwaits := waits_run hq hjb hxs
  have hmeet : ∀ t, StepsMeet wanStep (fun _ m => IsWriteOf qpn m) t ys :=
    stepsMeet_of_forall fun _ => hys
  rw [run_append, run_append, run_cons]
  refine ⟨?_, fun hnone hfinal heq => ?_⟩
  · rintro ⟨ctx, hctx, hdup | ⟨k, hk, hstop, hstops⟩⟩
    · have hsame := run_related (fun _ _ _ h hm => h.step hq hm)
        (sameContext_of_received hq hwaits hd hctx hdup) (hmeet _)
      exact hsame.1.handed
    · have hrun := run_related_while (fun _ _ _ h _ hC hm => h.step hq hC hm)
        (fun _ _ h hnot => h.stopped hnot) (fun _ _ _ h hm => h.step hq hm)
        (agreeingContexts_of_behind hq hwaits hd hctx hk hstop) hstops hys
      rcases hrun with hagree | hstopped
      · exact (handSame_of_agreeing hagree).handed
      · exact (handSame_of_agreeing hstopped).handed
  · have hahead := run_related (fun _ _ _ h hm => h.step hq hm)
      (aheadBy_of_none hq hwaits.only hd hnone hfinal) (hmeet _)
    have hlen := hahead.handed
    rw [heq] at hlen
    omega

end Arrivals

/-- The FIRST of a WRITE of two segments from PSN 0 on QPN 7. -/
def firstFrame : Mbuf := writeFrame 0 roceOpcodeWriteFirst 7 0

/-- The LAST of that WRITE. -/
def lastFrame : Mbuf := writeFrame 1 roceOpcodeWriteLast 7 1

/-- A WRITE of two segments whose FIRST arrives twice. -/
theorem duplicate_unnoticed_inContext :
    positions id
        (lanHanded (run wanStep wanCore ([firstFrame] ++ firstFrame :: [lastFrame])).2.io.trace) =
      [0, 1] ∧
    lanHanded (run wanStep wanCore ([firstFrame] ++ firstFrame :: [lastFrame])).2.io.trace =
      lanHanded (run wanStep wanCore ([firstFrame] ++ [lastFrame])).2.io.trace := by
  have hfirst : IsWriteOf 7 firstFrame := ⟨by decide +kernel, by decide +kernel⟩
  have hlast : IsWriteOf 7 lastFrame := ⟨by decide +kernel, by decide +kernel⟩
  have hopen : (((run wanStep wanCore [firstFrame]).1.jitterBuffer.ctxOf 7).any
      fun ctx => decide (ctx.Received (ctx.slotOf firstFrame.bthGetPsn))) = true := by
    decide +kernel
  rw [Option.any_eq_true] at hopen
  obtain ⟨ctx, hctx, hdup⟩ := hopen
  refine ⟨by decide +kernel, (duplicate_unnoticed (by decide) wanCore rfl [firstFrame] [lastFrame]
    firstFrame ?_ hfirst ?_).1 ⟨ctx, hctx, Or.inl (of_decide_eq_true hdup)⟩⟩
  · rintro m hm
    rw [List.mem_singleton.mp hm]
    exact hfirst
  · rintro m hm
    rw [List.mem_singleton.mp hm]
    exact hlast

/-- The packet of a delivered ONLY message arrives again: the LAN is handed it
twice. -/
theorem delivered_duplicate_handed_again :
    IsCopy twoOnly 7 id (onlyFrame 0) ∧ wanCore.1.jitterBuffer = jbInit ∧
    positions id (lanHanded (run wanStep wanCore [onlyFrame 0, onlyFrame 0]).2.io.trace) = [0, 0] ∧
    positions id (lanHanded (run wanStep wanCore [onlyFrame 0]).2.io.trace) = [0] ∧
    lanHanded (run wanStep wanCore [onlyFrame 0, onlyFrame 0]).2.io.trace ≠
      lanHanded (run wanStep wanCore [onlyFrame 0]).2.io.trace := by
  have htwice : positions id
      (lanHanded (run wanStep wanCore [onlyFrame 0, onlyFrame 0]).2.io.trace) = [0, 0] := by
    decide +kernel
  have honce : positions id (lanHanded (run wanStep wanCore [onlyFrame 0]).2.io.trace) = [0] := by
    decide +kernel
  refine ⟨onlyFrame_isCopy (by decide), rfl, htwice, honce, fun heq => ?_⟩
  rw [heq, honce] at htwice
  cases htwice

end RdmaGateway.Processor
