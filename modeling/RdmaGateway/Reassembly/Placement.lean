/-
  Reassembly/Placement.lean --- where a segment sits, and when it counts as a
  duplicate.

  `jb_add_seg` looks at the state of the slot a PSN falls in and not at the PSN
  stored there.  Every PSN that is a multiple of 256 away falls in the same slot:
  a segment that finds the slot taken is dropped as a duplicate whatever the slot
  holds.  In every reachable state a received segment sits where its own PSN puts
  it (`placed_run`), so the drop is right exactly when the slot holds no other PSN.
-/
import RdmaGateway.Reassembly.Messages

set_option autoImplicit false

namespace RdmaGateway.Reassembly

open RdmaGateway.Foundation
open RdmaGateway.Dpdk
open RdmaGateway.Roce

variable {μ : Type}

/-! ## A property of every context -/

section EveryContext

variable {P : JbWriteContext μ → Prop}

/-- Replacing one context by one that has the property. -/
theorem forall_writes_update {jb jb' : JitterBuffer μ} {i : Fin jbMaxPendingWrites}
    {ctx : JbWriteContext μ} (h : ∀ i, P (jb.writes i))
    (hw : jb'.writes = Function.update jb.writes i ctx) (hctx : P ctx) :
    ∀ i, P (jb'.writes i) := by
  intro j
  rw [hw]
  by_cases hj : j = i
  · subst hj
    rwa [Function.update_self]
  · rw [Function.update_of_ne hj]
    exact h j

/-- A property of the newly opened context that a store into an open slot keeps. -/
theorem forall_writes_addSeg {jb : JitterBuffer μ} {qpn psn : Nat} {ty : WriteSegmentType} {m : μ}
    (h : ∀ i, P (jb.writes i)) (hopened : P (.opened qpn psn))
    (hstore : ∀ ctx, P ctx → ¬ ctx.Received (ctx.slotOf psn) → P (jbStoreSeg ctx psn ty m))
    (io : Io μ) : ∀ i, P ((jbAddSeg jb qpn psn ty m io).2.1.writes i) := by
  cases jbAddSeg_outcome jb qpn psn ty m io with
  | full _ _ hr =>
    rw [hr]
    exact h
  | duplicate _ _ hr =>
    rw [hr]
    exact h
  | @stored i ctx _ hctx hmiss hr =>
    rw [hr]
    exact forall_writes_update h rfl (hstore ctx (hctx ▸ h i) hmiss)
  | opened _ _ hr =>
    rw [hr]
    exact forall_writes_update h rfl (hstore _ hopened (opened_not_received qpn psn _))

/-- A property of the wiped context. -/
theorem forall_writes_removeWrite {jb : JitterBuffer μ} (h : ∀ i, P (jb.writes i)) (hzero : P .zero)
    (qpn : Nat) (io : Io μ) : ∀ i, P ((jbRemoveWrite jb qpn io).1.writes i) := by
  cases hfind : jbFind jb qpn with
  | none =>
    rw [jbRemoveWrite_of_none (by simp [JitterBuffer.ctxOf, hfind])]
    exact h
  | some i => exact forall_writes_update h (jbRemoveWrite_writes hfind) hzero

/-- A property of the wiped and of the newly opened context that every store into
an open slot keeps holds of every context in every run. -/
theorem forall_writes_run (hzero : P .zero) (hopened : ∀ qpn psn, P (.opened qpn psn))
    (hstore : ∀ ctx psn ty m, P ctx → ¬ ctx.Received (ctx.slotOf psn) →
      P (jbStoreSeg ctx psn ty m)) (ops : List (JbOp μ)) :
    ∀ s : JitterBuffer μ × Io μ, (∀ i, P (s.1.writes i)) →
      ∀ i, P ((run jbStep s ops).1.writes i) := by
  induction ops with
  | nil => intro s h; exact h
  | cons op ops ih =>
    intro s h
    refine ih (jbStep s op) ?_
    cases op with
    | addSeg qpn psn ty m =>
      exact forall_writes_addSeg h (hopened qpn psn) (fun ctx => hstore ctx psn ty m) s.2
    | removeWrite qpn => exact forall_writes_removeWrite h hzero qpn s.2

end EveryContext

/-! ## Placement -/

/-- Every received segment sits in the slot of its own PSN. -/
def JbWriteContext.Placed (ctx : JbWriteContext μ) : Prop :=
  ∀ i < jbMaxSegments, ctx.Received i → ctx.slotOf (ctx.segments.get i).psn = i

theorem placed_zero : (JbWriteContext.zero : JbWriteContext μ).Placed := by
  intro i _ hrec
  cases hrec

theorem placed_opened (qpn psn : Nat) : (JbWriteContext.opened qpn psn : JbWriteContext μ).Placed :=
  fun i _ hrec => absurd hrec (opened_not_received qpn psn i)

theorem JbWriteContext.Placed.store {ctx : JbWriteContext μ} (h : ctx.Placed) (psn : Nat)
    (ty : WriteSegmentType) (m : μ) : (jbStoreSeg ctx psn ty m).Placed := by
  intro i hi hrec
  by_cases hslot : i = ctx.slotOf psn
  · subst hslot
    rw [jbStoreSeg_get_slotOf]
    rfl
  · have hne : i % jbMaxSegments ≠ ctx.slotOf psn := by rwa [Nat.mod_eq_of_lt hi]
    have hold := (jbStoreSeg_received_of_ne ctx psn ty m hne).mp hrec
    rw [jbStoreSeg_get_of_received ctx psn ty m hne hold]
    exact h i hi hold

theorem placed_run (io : Io μ) (ops : List (JbOp μ)) (i : Fin jbMaxPendingWrites) :
    ((run jbStep (jbInit, io) ops).1.writes i).Placed :=
  forall_writes_run placed_zero placed_opened (fun _ psn ty m h _ => h.store psn ty m) ops _
    (fun _ => placed_zero) i

theorem placed_ctxOf {io : Io μ} {ops : List (JbOp μ)} {qpn : Nat} {ctx : JbWriteContext μ}
    (h : (run jbStep (jbInit, io) ops).1.ctxOf qpn = some ctx) : ctx.Placed := by
  obtain ⟨i, -, rfl⟩ := ctxOf_eq_some h
  exact placed_run io ops i

/-! ## Duplicates -/

/-- The context of the QPN holds a received segment with the PSN. -/
def HoldsPsn (jb : JitterBuffer μ) (qpn psn : Nat) : Prop :=
  ∃ ctx, jb.ctxOf qpn = some ctx ∧
    ∃ i < jbMaxSegments, ctx.Received i ∧ (ctx.segments.get i).psn = psn

/-- No received segment of the context has another PSN that falls in the slot of
this one. -/
def NoCollision (jb : JitterBuffer μ) (qpn psn : Nat) : Prop :=
  ∀ ctx, jb.ctxOf qpn = some ctx → ∀ i < jbMaxSegments, ctx.Received i →
    ctx.slotOf (ctx.segments.get i).psn = ctx.slotOf psn → (ctx.segments.get i).psn = psn

/-- `jb_add_seg` answers 0 exactly when the slot of the PSN is received. -/
theorem jbAddSeg_eq_zero_iff (jb : JitterBuffer μ) (qpn psn : Nat) (ty : WriteSegmentType) (m : μ)
    (io : Io μ) : (jbAddSeg jb qpn psn ty m io).1 = 0 ↔
      ∃ ctx, jb.ctxOf qpn = some ctx ∧ ctx.Received (ctx.slotOf psn) := by
  cases jbAddSeg_outcome jb qpn psn ty m io with
  | full hnone _ hr => simp [hr, hnone]
  | duplicate hctx hrec hr => simp [hr, hctx, hrec]
  | @stored i ctx hfind hctx hmiss hr =>
    have hfound : jb.ctxOf qpn = some ctx := by
      rw [JitterBuffer.ctxOf, hfind, Option.map_some, hctx]
    simp [hr, hfound, hmiss]
  | opened hnone _ hr => simp [hr, hnone]

/-- In every reachable state, a segment is dropped only when it is a duplicate
exactly if no other PSN sits in its slot. -/
theorem drops_only_duplicates_iff (io io' : Io μ) (ops : List (JbOp μ)) (qpn psn : Nat)
    (ty : WriteSegmentType) (m : μ) :
    let jb := (run jbStep (jbInit, io) ops).1
    ((jbAddSeg jb qpn psn ty m io').1 = 0 → HoldsPsn jb qpn psn) ↔ NoCollision jb qpn psn := by
  intro jb
  rw [jbAddSeg_eq_zero_iff]
  constructor
  · intro hright ctx hctx i hi hrec hslot
    have hplaced := placed_ctxOf hctx
    -- the slot is taken by segment `i`, so the arrival would be dropped
    have hself := hplaced i hi hrec
    have htaken : ctx.Received (ctx.slotOf psn) := by rwa [← hslot, hself]
    obtain ⟨ctx', hctx', j, hj, hrecj, hpsn⟩ := hright ⟨ctx, hctx, htaken⟩
    rw [hctx] at hctx'
    cases hctx'
    have hji : j = i := by rw [← hplaced j hj hrecj, hpsn, ← hslot, hself]
    rw [← hji, hpsn]
  · rintro hcol ⟨ctx, hctx, htaken⟩
    have hself := placed_ctxOf hctx _ (ctx.slotOf_lt psn) htaken
    exact ⟨ctx, hctx, _, ctx.slotOf_lt psn, htaken, hcol ctx hctx _ (ctx.slotOf_lt psn) htaken hself⟩

/-- A message of more than 256 segments: after PSN 0, PSN 256 is dropped unseen. -/
theorem drops_psn_256 :
    (jbAddSeg (run jbStep (jbInit, .start (.accepting none)) [.addSeg 7 0 .first 0]).1 7 256 .middle
      1 (.start (.accepting none))).1 = 0 ∧
    ¬ HoldsPsn (run jbStep (jbInit, .start (.accepting none)) [.addSeg 7 0 .first 0]).1 7 256 := by
  refine ⟨by decide +kernel, ?_⟩
  rintro ⟨ctx, hctx, i, hi, -, hpsn⟩
  have hother : ∀ i < jbMaxSegments, ∀ ctx ∈ (run jbStep (jbInit, .start (.accepting none))
      [.addSeg 7 0 .first 0]).1.ctxOf 7, (ctx.segments.get i).psn ≠ 256 := by
    decide +kernel
  exact hother i hi ctx hctx hpsn

end RdmaGateway.Reassembly
