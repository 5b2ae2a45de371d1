/-
  Processor/Reassembler.lean --- a WAN core as a reassembler.

  `reassemble` takes a WRITE into the jitter buffer and gives out the message that this
  completes.  It knows neither ports nor pools nor clocks.  For every WRITE a WAN core moves
  its buffer as `reassemble` does and hands to the LAN what `reassemble` gives out
  (`wanStep_reassembles`), whatever the environment answers meanwhile.
-/
import RdmaGateway.Processor.InOrder

set_option autoImplicit false

namespace RdmaGateway.Processor

open RdmaGateway.Foundation
open RdmaGateway.Dpdk
open RdmaGateway.Wire
open RdmaGateway.Roce
open RdmaGateway.Tunnel
open RdmaGateway.Reassembly

/-! ## The reassembler -/

/-- An environment for the functions that only free. -/
def noPool : Io Mbuf := .start (.accepting none)

/-- `jb_add_seg` of a packet: the return code, and the buffer after. -/
def takeSegment (jb : JitterBuffer Mbuf) (m : Mbuf) : Int × JitterBuffer Mbuf :=
  let (added, jb, _) := jbAddSeg jb m.bthGetQpn m.bthGetPsn (getSegmentType m.bthOpcode) m noPool
  (added, jb)

/-- The context of the QPN is complete and has packets to give out. -/
def IsDeliverable (jb : JitterBuffer Mbuf) (qpn : Nat) : Prop :=
  jbIsWriteComplete jb qpn = true ∧ (jbGetOrderedSegs jb qpn).1 = 0 ∧
    0 < (jbGetOrderedSegs jb qpn).2.length

instance (jb : JitterBuffer Mbuf) (qpn : Nat) : Decidable (IsDeliverable jb qpn) :=
  inferInstanceAs (Decidable (_ ∧ _))

/-- Give out a context that is complete, and remove it. -/
def giveOut (jb : JitterBuffer Mbuf) (qpn : Nat) : JitterBuffer Mbuf × List Mbuf :=
  if IsDeliverable jb qpn then ((jbRemoveWrite jb qpn noPool).1, (jbGetOrderedSegs jb qpn).2)
  else (jb, [])

/-- One WRITE. -/
def reassemble (jb : JitterBuffer Mbuf) (m : Mbuf) : JitterBuffer Mbuf × List Mbuf :=
  let taken := takeSegment jb m
  if taken.1 < 0 then (taken.2, []) else giveOut taken.2 m.bthGetQpn

/-- The buffer after the WRITEs, in order. -/
def reassembled (jb : JitterBuffer Mbuf) (ms : List Mbuf) : JitterBuffer Mbuf :=
  run (fun jb m => (reassemble jb m).1) jb ms

/-- What is given out for them. -/
def givenOut (jb : JitterBuffer Mbuf) (ms : List Mbuf) : List Mbuf :=
  outputs (fun jb m => (reassemble jb m).1) (fun jb m => (reassemble jb m).2) jb ms

/-- A WRITE that there is no slot for. -/
theorem reassemble_full {jb : JitterBuffer Mbuf} {m : Mbuf} (hfull : ¬ jb.HasFreeSlot)
    (hnew : jb.ctxOf m.bthGetQpn = none) : reassemble jb m = (jb, []) := by
  have htake : takeSegment jb m = (-1, jb) := by
    rw [takeSegment, jbAddSeg_full hnew hfull]
  rw [reassemble, htake]
  rfl

/-! ## The core -/

/-- What `jb_add_seg` answers and stores does not depend on the environment. -/
theorem addSegOf_eq_takeSegment (proc : ProcessorContext) (host : Host) (m : Mbuf) :
    (addSegOf proc host m).1 = (takeSegment proc.jitterBuffer m).1 ∧
      (addSegOf proc host m).2.1 = (takeSegment proc.jitterBuffer m).2 := by
  rw [addSegOf, takeSegment, jbAddSeg, jbAddSeg]
  split
  rename_i found jb _
  cases found with
  | none => exact ⟨rfl, rfl⟩
  | some i =>
    dsimp only
    split <;> exact ⟨rfl, rfl⟩

theorem jbRemoveWrite_noPool (jb : JitterBuffer Mbuf) (qpn : Nat) (io : Io Mbuf) :
    (jbRemoveWrite jb qpn io).1 = (jbRemoveWrite jb qpn noPool).1 := by
  rw [jbRemoveWrite, jbRemoveWrite]
  split <;> rfl

theorem HandsOver.handed {srcIp : Nat} {segs : List Mbuf} {ev : List (Event Mbuf)}
    (h : HandsOver srcIp segs ev) : lanHanded ev = segs.map (setSrcAddr srcIp) := by
  induction h with
  | nil => rfl
  | @cons seg segs ev accepted _ ih =>
    rw [lanHanded_append, (txEvents_lan (setSrcAddr srcIp seg) accepted).1, ih]
    rfl

/-- Control messages go to the WAN. -/
theorem ctrlTraffic_handed {host : Host} {m : Mbuf} {type : Nat} {ev : List (Event Mbuf)}
    (h : OwnTraffic (IsCtrlFor host m type) ev) : lanHanded ev = [] :=
  h.lanHanded_nil fun _ _ ⟨_, hctrl⟩ => hctrl.1

/-- The delivery part of the WAN path gives out what is complete. -/
theorem DeliverOutcome.givesOut {proc : ProcessorContext} {host : Host} {m : Mbuf}
    {r : ProcessorContext × Host} (h : DeliverOutcome proc host m r) :
    r.1.jitterBuffer = (giveOut proc.jitterBuffer m.bthGetQpn).1 ∧
      ∃ ev, Adds host r.2 ev ∧
        lanHanded ev =
          (giveOut proc.jitterBuffer m.bthGetQpn).2.map (setSrcAddr host.wanTunnelSrcIp) := by
  cases h with
  | waits hsame hno =>
    have hwaits : ¬ IsDeliverable proc.jitterBuffer m.bthGetQpn := hno
    rw [hsame, giveOut, if_neg hwaits]
    exact ⟨rfl, [], .refl host, rfl⟩
  | @delivers out evHand evAck io hcomplete hout hpos hjb hhands hown hadds _ =>
    have hready : IsDeliverable proc.jitterBuffer m.bthGetQpn :=
      ⟨hcomplete, by rw [hout], by rw [hout]; exact hpos⟩
    rw [giveOut, if_pos hready, hjb]
    refine ⟨jbRemoveWrite_noPool _ _ io, _, hadds, ?_⟩
    rw [lanHanded_append, lanHanded_append, hhands.handed, (silent_frees _).handed,
      ctrlTraffic_handed hown, List.append_nil, List.append_nil, hout]

/-- A WRITE does to the buffer of a WAN core what `reassemble` does, and the LAN is handed
what `reassemble` gives out. -/
theorem wanStep_reassembles {s : ProcessorContext × Host} {m : Mbuf} (hwrite : m.isRoceWrite) :
    (wanStep s m).1.jitterBuffer = (reassemble s.1.jitterBuffer m).1 ∧
      ∃ ev, Adds s.2 (wanStep s m).2 ev ∧
        lanHanded ev =
          (reassemble s.1.jitterBuffer m).2.map (setSrcAddr s.2.wanTunnelSrcIp) := by
  obtain ⟨hrc, hjb⟩ := addSegOf_eq_takeSegment s.1 s.2 m
  rw [wanStep, procProcessWanRx_write hwrite]
  cases wanWrite_outcome s.1 m s.2 with
  | refused hneg hsame hadds =>
    have hfull : (takeSegment s.1.jitterBuffer m).2 = s.1.jitterBuffer := by
      rw [← hjb]
      cases jbAddSeg_outcome s.1.jitterBuffer m.bthGetQpn m.bthGetPsn (getSegmentType m.bthOpcode)
          m s.2.io with
      | full _ _ hr => rw [addSegOf, hr]
      | duplicate _ _ hr => rw [addSegOf, hr]
      | stored _ _ _ hr => rw [addSegOf, hr] at hneg; cases hneg
      | opened _ _ hr => rw [addSegOf, hr] at hneg; cases hneg
    rw [reassemble, if_pos (by rw [← hrc, hneg]; decide), hsame, hfull]
    exact ⟨rfl, _, hadds, rfl⟩
  | @taken proc₁ host₁ evAdd evNack hadd hjb₁ hown hadds hdel =>
    have hnot : ¬ (takeSegment s.1.jitterBuffer m).1 < 0 := by
      rw [← hrc]
      rcases hadd with ⟨hzero, -⟩ | ⟨hone, -⟩
      · rw [hzero]; decide
      · rw [hone]; decide
    have hquiet : lanHanded (evAdd ++ evNack) = [] := by
      rw [lanHanded_append, ctrlTraffic_handed hown, List.append_nil]
      rcases hadd with ⟨-, rfl⟩ | ⟨-, rfl⟩ <;> rfl
    obtain ⟨hjb', ev, hadds', hhanded⟩ := hdel.givesOut
    rw [hjb₁, hjb] at hjb' hhanded
    rw [reassemble, if_neg hnot]
    refine ⟨hjb', _, hadds.trans hadds', ?_⟩
    rw [lanHanded_append, hquiet, List.nil_append, hhanded, hadds.wanTunnelSrcIp]

/-! ## What is not given out stays -/

/-- Every packet of the one context is in the other, in its place. -/
structure Retains (ctx ctx' : JbWriteContext Mbuf) : Prop where
  firstPsn : ctx'.firstPsn = ctx.firstPsn
  taken : ∀ i < jbMaxSegments, ∀ seg, ctx.taken i = some seg → ctx'.taken i = some seg

section Retains

variable {ctx ctx' : JbWriteContext Mbuf} {jb : JitterBuffer Mbuf} {m : Mbuf} {q : Nat}

theorem Retains.refl (ctx : JbWriteContext Mbuf) : Retains ctx ctx := ⟨rfl, fun _ _ _ h => h⟩

theorem Retains.trans {ctx'' : JbWriteContext Mbuf} (h : Retains ctx ctx')
    (h' : Retains ctx' ctx'') : Retains ctx ctx'' :=
  ⟨h'.firstPsn.trans h.firstPsn, fun i hi seg hseg => h'.taken i hi seg (h.taken i hi seg hseg)⟩

theorem retains_accept (ctx : JbWriteContext Mbuf) (qpn psn : Nat) (ty : WriteSegmentType)
    (m : Mbuf) : Retains ctx (accept (some ctx) qpn psn ty m) where
  firstPsn := accept_firstPsn ctx qpn psn ty m
  taken i hi seg hseg := by
    rw [taken_accept ctx qpn psn ty m hi, hseg]
    split <;> rfl

/-- What the reassembler does to the buffer. -/
theorem reassemble_cases (jb : JitterBuffer Mbuf) (m : Mbuf) :
    reassemble jb m = ((takeSegment jb m).2, []) ∨
      0 < (jbGetOrderedSegs (takeSegment jb m).2 m.bthGetQpn).2.length ∧
        reassemble jb m = ((jbRemoveWrite (takeSegment jb m).2 m.bthGetQpn noPool).1,
          (jbGetOrderedSegs (takeSegment jb m).2 m.bthGetQpn).2) := by
  rw [reassemble]
  split
  · exact .inl rfl
  · rw [giveOut]
    split
    · rename_i hready
      exact .inr ⟨hready.2.2, rfl⟩
    · exact .inl rfl

theorem HoldsOwn.reassemble (h : HoldsOwn jb) (m : Mbuf) : HoldsOwn (reassemble jb m).1 := by
  have hadd : HoldsOwn (takeSegment jb m).2 := h.addSeg _ _ m _
  rcases reassemble_cases jb m with hsame | ⟨-, hgone⟩
  · rw [hsame]
    exact hadd
  · rw [hgone]
    exact hadd.removeWrite _ _

/-- One WRITE, for which nothing of the queue pair is given out. -/
theorem reassemble_retains (hown : HoldsOwn jb) (hq : q ≠ 0) (hctx : jb.ctxOf q = some ctx)
    (hnone : ∀ x ∈ (reassemble jb m).2, x.bthGetQpn ≠ q) :
    ∃ ctx', (reassemble jb m).1.ctxOf q = some ctx' ∧ Retains ctx ctx' := by
  have hadd : HoldsOwn (takeSegment jb m).2 := hown.addSeg _ _ m _
  by_cases hself : m.bthGetQpn = q
  · subst hself
    rcases reassemble_cases jb m with hsame | ⟨hpos, hgone⟩
    · rw [hsame]
      refine ⟨_, (jbAddSeg_accept m.bthGetPsn (getSegmentType m.bthOpcode) m noPool
        fun hno => ?_).2, ?_⟩
      · rw [hctx] at hno
        cases hno
      · rw [hctx]
        exact retains_accept ctx _ _ _ m
    · -- what is given out is of the queue pair
      obtain ⟨x, hx⟩ := List.exists_mem_of_length_pos hpos
      obtain ⟨i, j, hfind, -, hmbuf⟩ := jbGetOrderedSegs_subset hx
      rw [hgone] at hnone
      exact absurd ((hadd i j x hmbuf).trans (jbFind_some hfind)) (hnone x hx)
  · have htake : (takeSegment jb m).2.ctxOf q = some ctx :=
      (jbAddSeg_ctxOf_of_ne (Ne.symm hself) hq).trans hctx
    refine ⟨ctx, ?_, .refl ctx⟩
    rcases reassemble_cases jb m with hsame | ⟨-, hgone⟩
    · rw [hsame]
      exact htake
    · rw [hgone]
      exact (jbRemoveWrite_ctxOf_of_ne (Ne.symm hself) hq).trans htake

/-- Any number of WRITEs. -/
theorem reassembled_retains (hown : HoldsOwn jb) (hq : q ≠ 0) (hctx : jb.ctxOf q = some ctx)
    {ms : List Mbuf} (hnone : ∀ x ∈ givenOut jb ms, x.bthGetQpn ≠ q) :
    ∃ ctx', (reassembled jb ms).ctxOf q = some ctx' ∧ Retains ctx ctx' := by
  induction ms generalizing jb ctx with
  | nil => exact ⟨ctx, hctx, .refl ctx⟩
  | cons m ms ih =>
    rw [givenOut, outputs] at hnone
    obtain ⟨ctx₁, hctx₁, hkept⟩ := reassemble_retains hown hq hctx
      fun x hx => hnone x (List.mem_append_left _ hx)
    obtain ⟨ctx₂, hctx₂, hkept'⟩ := ih (hown.reassemble m) hctx₁
      fun x hx => hnone x (List.mem_append_right _ hx)
    exact ⟨ctx₂, hctx₂, hkept.trans hkept'⟩

theorem HoldsOwn.reassembled (h : HoldsOwn jb) (ms : List Mbuf) : HoldsOwn (reassembled jb ms) :=
  run_induction (fun _ m h _ => h.reassemble m) h
    (stepsMeet_of_forall (C := fun _ _ => True) (fun _ _ _ => trivial) _)

end Retains

end RdmaGateway.Processor
