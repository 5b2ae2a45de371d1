/-
  Reassembly/Buffer.lean --- the table of write contexts, seen one QPN at a time.

  Every query of the jitter buffer goes through `jb_find`, so all that a QPN can
  observe is the context found for it: `ctxOf`.  The lemmas below give each
  operation its effect on `ctxOf` of its own QPN and show that it leaves `ctxOf`
  of every other nonzero QPN alone.
-/
import RdmaGateway.Reassembly.Context

set_option autoImplicit false

namespace RdmaGateway.Reassembly

open RdmaGateway.Foundation
open RdmaGateway.Dpdk
open RdmaGateway.Roce

variable {μ : Type}

/-- The context `jb_find` returns for a QPN. -/
def JitterBuffer.ctxOf (jb : JitterBuffer μ) (qpn : Nat) : Option (JbWriteContext μ) :=
  (jbFind jb qpn).map jb.writes

/-- A slot that `jb_get_or_create_write` may set up a new context in. -/
def JitterBuffer.HasFreeSlot (jb : JitterBuffer μ) : Prop :=
  ∃ i, (jb.writes i).segmentCount = 0 ∧ (jb.writes i).qpn = 0

/-- No two slots hold one nonzero QPN. -/
def JitterBuffer.QpnsDistinct (jb : JitterBuffer μ) : Prop :=
  ∀ i j, (jb.writes i).qpn = (jb.writes j).qpn → (jb.writes i).qpn ≠ 0 → i = j

variable {jb jb' : JitterBuffer μ} {qpn psn : Nat} {ty : WriteSegmentType} {m : μ} {io : Io μ}

theorem ctxOf_eq_none : jb.ctxOf qpn = none ↔ ∀ i, (jb.writes i).qpn ≠ qpn := by
  simp only [JitterBuffer.ctxOf, Option.map_eq_none_iff, jbFind_none]

theorem ctxOf_eq_some {ctx : JbWriteContext μ} (h : jb.ctxOf qpn = some ctx) :
    ∃ i, jbFind jb qpn = some i ∧ jb.writes i = ctx := by
  simpa [JitterBuffer.ctxOf] using h

theorem ctxOf_qpn {ctx : JbWriteContext μ} (h : jb.ctxOf qpn = some ctx) : ctx.qpn = qpn := by
  obtain ⟨i, hfind, rfl⟩ := ctxOf_eq_some h
  exact jbFind_some hfind

/-- What `jb_check_missing` answers, read off the context. -/
theorem jbCheckMissing_eq {ctx : JbWriteContext μ} (h : jb.ctxOf qpn = some ctx) :
    jbCheckMissing jb qpn =
      if ctx.Received (ctx.slotOf ctx.expectedPsn) then 0 else ctx.expectedPsn := by
  obtain ⟨i, hfind, rfl⟩ := ctxOf_eq_some h
  simp only [jbCheckMissing, hfind, JbWriteContext.received_slotOf, ne_eq, ite_not]

theorem jbIsWriteComplete_eq :
    jbIsWriteComplete jb qpn = (jb.ctxOf qpn).elim false JbWriteContext.writeComplete := by
  unfold jbIsWriteComplete JitterBuffer.ctxOf
  cases jbFind jb qpn <;> rfl

theorem jbGetOrderedSegs_of_scan {ctx : JbWriteContext μ} {out : List μ}
    (h : jb.ctxOf qpn = some ctx) (hscan : jbScan ctx.segments jbMaxSegments 0 = some out) :
    jbGetOrderedSegs jb qpn = (0, out) := by
  obtain ⟨i, hfind, rfl⟩ := ctxOf_eq_some h
  simp [jbGetOrderedSegs, hfind, hscan]

theorem jbGetOrderedSegs_of_scan_none {ctx : JbWriteContext μ}
    (h : jb.ctxOf qpn = some ctx) (hscan : jbScan ctx.segments jbMaxSegments 0 = none) :
    jbGetOrderedSegs jb qpn = (-1, []) := by
  obtain ⟨i, hfind, rfl⟩ := ctxOf_eq_some h
  simp [jbGetOrderedSegs, hfind, hscan]

theorem jbGetOrderedSegs_of_none (h : jb.ctxOf qpn = none) :
    jbGetOrderedSegs jb qpn = (-1, []) := by
  rw [JitterBuffer.ctxOf, Option.map_eq_none_iff] at h
  simp [jbGetOrderedSegs, h]

/-- What is put out in order, the context of the QPN points to. -/
theorem jbGetOrderedSegs_subset {seg : μ} (h : seg ∈ (jbGetOrderedSegs jb qpn).2) :
    ∃ i j, jbFind jb qpn = some i ∧ j < jbMaxSegments ∧
      ((jb.writes i).segments.get j).mbuf = some seg := by
  unfold jbGetOrderedSegs at h
  split at h
  · cases h
  · rename_i i hfind
    split at h
    · rename_i hscan
      obtain ⟨j, hj, hmbuf⟩ := jbScan_subset hscan seg h
      exact ⟨i, j, hfind, by omega, hmbuf⟩
    · cases h

/-- Replacing a context by another is invisible to a QPN that neither of the two
carries. -/
theorem ctxOf_update_of_ne {i : Fin jbMaxPendingWrites} {ctx : JbWriteContext μ}
    (hw : jb'.writes = Function.update jb.writes i ctx)
    (hold : (jb.writes i).qpn ≠ qpn) (hnew : ctx.qpn ≠ qpn) :
    jb'.ctxOf qpn = jb.ctxOf qpn := by
  have hfind : jbFind jb' qpn = jbFind jb qpn := by
    refine Table.findSlot_congr fun j => ?_
    rw [hw]
    by_cases hj : j = i
    · subst hj; simp [hold, hnew]
    · simp [hj]
  simp only [JitterBuffer.ctxOf, hfind]
  cases h : jbFind jb qpn with
  | none => rfl
  | some j =>
    have hj : j ≠ i := by
      rintro rfl
      exact hold (jbFind_some h)
    simp [hw, hj]

/-- Replacing the context of a QPN by one that carries the same QPN. -/
theorem ctxOf_update_self {i : Fin jbMaxPendingWrites} {ctx : JbWriteContext μ}
    (hw : jb'.writes = Function.update jb.writes i ctx)
    (hfind : jbFind jb qpn = some i) (hnew : ctx.qpn = qpn) :
    jb'.ctxOf qpn = some ctx := by
  have hfind' : jbFind jb' qpn = some i := by
    rw [← hfind]
    refine Table.findSlot_congr fun j => ?_
    rw [hw]
    by_cases hj : j = i
    · subst hj; simp [hnew, jbFind_some hfind]
    · simp [hj]
  simp [JitterBuffer.ctxOf, hfind', hw]

/-- Setting up a context for a QPN that had none. -/
theorem ctxOf_update_fresh {i : Fin jbMaxPendingWrites} {ctx : JbWriteContext μ}
    (hw : jb'.writes = Function.update jb.writes i ctx)
    (hnone : ∀ j, (jb.writes j).qpn ≠ qpn) (hnew : ctx.qpn = qpn) :
    jb'.ctxOf qpn = some ctx := by
  have hfind' : jbFind jb' qpn = some i := by
    refine Table.findSlot_eq_some_of_unique (by simp [hw, hnew]) fun j hj => ?_
    by_contra hne
    simp only [hw, Function.update_of_ne hne, beq_iff_eq] at hj
    exact hnone j hj
  simp [JitterBuffer.ctxOf, hfind', hw]

/-! ## `jb_add_seg` -/

/-- The duplicate branch. -/
theorem jbAddSeg_duplicate {ctx : JbWriteContext μ} (h : jb.ctxOf qpn = some ctx)
    (hrec : ctx.Received (ctx.slotOf psn)) :
    jbAddSeg jb qpn psn ty m io = (0, jb, rtePktmbufFree m io) := by
  obtain ⟨i, hfind, rfl⟩ := ctxOf_eq_some h
  rw [JbWriteContext.received_slotOf] at hrec
  simp [jbAddSeg, hfind, hrec]

variable (psn ty m io) in
/-- The branch that stores into the context found. -/
theorem jbAddSeg_store {ctx : JbWriteContext μ} (h : jb.ctxOf qpn = some ctx)
    (hmiss : ¬ ctx.Received (ctx.slotOf psn)) :
    ∃ i, jbFind jb qpn = some i ∧
      jbAddSeg jb qpn psn ty m io = (1, jb.setWrite i (jbStoreSeg ctx psn ty m), io) := by
  obtain ⟨i, hfind, rfl⟩ := ctxOf_eq_some h
  rw [JbWriteContext.received_slotOf] at hmiss
  exact ⟨i, hfind, by simp [jbAddSeg, hfind, hmiss]⟩

/-- No context and no slot of the QPN in use, as `jb_get_or_create_write` asks. -/
theorem findSlot_used_eq_none (h : jb.ctxOf qpn = none) :
    jb.writes.findSlot (fun ctx => ctx.qpn == qpn && decide (0 < ctx.segmentCount)) = none := by
  rw [ctxOf_eq_none] at h
  rw [Table.findSlot_eq_none]
  intro i
  simp [h i]

variable (psn ty m io) in
/-- The branch that opens a context in the first free slot. -/
theorem jbAddSeg_open_eq (h : jb.ctxOf qpn = none) (hfree : jb.HasFreeSlot) :
    ∃ i, ((jb.writes i).qpn = 0 ∧ (jb.writes i).segmentCount = 0) ∧
      jbAddSeg jb qpn psn ty m io =
        (1, { jb.setWrite i (jbStoreSeg (.opened qpn psn) psn ty m) with
          activeWriteCount := add32 jb.activeWriteCount 1 }, io) := by
  have hfind : jbFind jb qpn = none := by
    rwa [JitterBuffer.ctxOf, Option.map_eq_none_iff] at h
  have hused := findSlot_used_eq_none h
  obtain ⟨j, hcount, hqpn⟩ := hfree
  obtain ⟨i, hslot⟩ := Table.exists_findSlot (t := jb.writes) (i := j)
    (p := fun ctx => ctx.segmentCount == 0 && ctx.qpn == 0) (by simp [hcount, hqpn])
  have hi := Table.findSlot_some hslot
  simp only [Bool.and_eq_true, beq_iff_eq] at hi
  have hnot : ∀ k, ((JbWriteContext.opened qpn psn : JbWriteContext μ).segments.get k).state ≠
      .received := opened_not_received qpn psn
  refine ⟨i, hi.symm, ?_⟩
  simp only [jbAddSeg, hfind, jbGetOrCreateWrite, hused, hslot, setWrite_writes_self]
  rw [if_neg (hnot _)]
  simp [JitterBuffer.setWrite]

variable (psn ty m io) in
theorem jbAddSeg_open (h : jb.ctxOf qpn = none) (hfree : jb.HasFreeSlot) :
    ∃ i, (jb.writes i).qpn = 0 ∧
      (jbAddSeg jb qpn psn ty m io).1 = 1 ∧ (jbAddSeg jb qpn psn ty m io).2.2 = io ∧
      (jbAddSeg jb qpn psn ty m io).2.1.writes =
        Function.update jb.writes i (jbStoreSeg (.opened qpn psn) psn ty m) := by
  obtain ⟨i, hi, hadd⟩ := jbAddSeg_open_eq psn ty m io h hfree
  exact ⟨i, hi.1, by rw [hadd], by rw [hadd], by rw [hadd]; rfl⟩

/-- The branch that finds no slot for a new context. -/
theorem jbAddSeg_full (h : jb.ctxOf qpn = none) (hfull : ¬ jb.HasFreeSlot) :
    jbAddSeg jb qpn psn ty m io = (-1, jb, io) := by
  have hfind : jbFind jb qpn = none := by
    rwa [JitterBuffer.ctxOf, Option.map_eq_none_iff] at h
  have hused := findSlot_used_eq_none h
  have hslot : jb.writes.findSlot
      (fun ctx => ctx.segmentCount == 0 && ctx.qpn == 0) = none := by
    rw [Table.findSlot_eq_none]
    intro i
    by_contra hi
    simp only [Bool.not_eq_false, Bool.and_eq_true, beq_iff_eq] at hi
    exact hfull ⟨i, hi⟩
  simp [jbAddSeg, hfind, jbGetOrCreateWrite, hused, hslot]

/-- Everything `jb_add_seg` can do.  `-1`: no slot for a new context.  `0`: the slot
is received already and the segment is freed.  `1`: the segment is stored, in the
context found or in one opened in a free slot. -/
inductive AddOutcome (jb : JitterBuffer μ) (qpn psn : Nat) (ty : WriteSegmentType) (m : μ)
    (io : Io μ) (r : Int × JitterBuffer μ × Io μ) : Prop
  | full (hnone : jb.ctxOf qpn = none) (hfull : ¬ jb.HasFreeSlot) (hr : r = (-1, jb, io))
  | duplicate {ctx : JbWriteContext μ} (hctx : jb.ctxOf qpn = some ctx)
      (hrec : ctx.Received (ctx.slotOf psn)) (hr : r = (0, jb, rtePktmbufFree m io))
  | stored {i : Fin jbMaxPendingWrites} {ctx : JbWriteContext μ} (hfind : jbFind jb qpn = some i)
      (hctx : jb.writes i = ctx) (hmiss : ¬ ctx.Received (ctx.slotOf psn))
      (hr : r = (1, jb.setWrite i (jbStoreSeg ctx psn ty m), io))
  | opened {i : Fin jbMaxPendingWrites} (hnone : jb.ctxOf qpn = none)
      (hfree : (jb.writes i).qpn = 0 ∧ (jb.writes i).segmentCount = 0)
      (hr : r = (1, { jb.setWrite i (jbStoreSeg (.opened qpn psn) psn ty m) with
        activeWriteCount := add32 jb.activeWriteCount 1 }, io))

theorem jbAddSeg_outcome (jb : JitterBuffer μ) (qpn psn : Nat) (ty : WriteSegmentType) (m : μ)
    (io : Io μ) : AddOutcome jb qpn psn ty m io (jbAddSeg jb qpn psn ty m io) := by
  cases h : jb.ctxOf qpn with
  | none =>
    by_cases hfree : jb.HasFreeSlot
    · obtain ⟨i, hi, hadd⟩ := jbAddSeg_open_eq psn ty m io h hfree
      exact .opened h hi hadd
    · exact .full h hfree (jbAddSeg_full h hfree)
  | some ctx =>
    by_cases hrec : ctx.Received (ctx.slotOf psn)
    · exact .duplicate h hrec (jbAddSeg_duplicate h hrec)
    · obtain ⟨i, hfind, hadd⟩ := jbAddSeg_store psn ty m io h hrec
      obtain ⟨j, hfind', hctx⟩ := ctxOf_eq_some h
      rw [hfind] at hfind'
      cases hfind'
      exact .stored hfind hctx hrec hadd

/-- Everything `jb_add_seg` can do: leave the buffer as it is, or replace one
context by one that carries the QPN of the call, the replaced one having carried
that QPN or none. -/
theorem jbAddSeg_writes (jb : JitterBuffer μ) (qpn psn : Nat) (ty : WriteSegmentType) (m : μ)
    (io : Io μ) :
    (jbAddSeg jb qpn psn ty m io).2.1 = jb ∨
      ∃ i ctx, (jbAddSeg jb qpn psn ty m io).2.1.writes = Function.update jb.writes i ctx ∧
        ctx.qpn = qpn ∧ (jbFind jb qpn = some i ∨
          (jb.ctxOf qpn = none ∧ (jb.writes i).qpn = 0)) := by
  cases jbAddSeg_outcome jb qpn psn ty m io with
  | full _ _ hr => exact Or.inl (by rw [hr])
  | duplicate _ _ hr => exact Or.inl (by rw [hr])
  | @stored i ctx hfind hctx _ hr =>
    have hqpn : ctx.qpn = qpn := hctx ▸ jbFind_some hfind
    exact Or.inr ⟨i, jbStoreSeg ctx psn ty m, by rw [hr]; rfl, hqpn, Or.inl hfind⟩
  | @opened i hnone hfree hr =>
    exact Or.inr ⟨i, jbStoreSeg (.opened qpn psn) psn ty m, by rw [hr]; rfl, rfl,
      Or.inr ⟨hnone, hfree.1⟩⟩

/-- A call for one QPN leaves the context of every other nonzero QPN alone. -/
theorem jbAddSeg_ctxOf_of_ne {other : Nat} (hother : other ≠ qpn) (hpos : other ≠ 0) :
    (jbAddSeg jb qpn psn ty m io).2.1.ctxOf other = jb.ctxOf other := by
  rcases jbAddSeg_writes jb qpn psn ty m io with h | ⟨i, ctx, hw, hctx, hi⟩
  · rw [h]
  · refine ctxOf_update_of_ne hw ?_ (by rw [hctx]; exact hother.symm)
    rcases hi with hfind | ⟨_, hzero⟩
    · rw [jbFind_some hfind]; exact hother.symm
    · rw [hzero]; exact hpos.symm

/-! ## `jb_remove_write` -/

theorem jbRemoveWrite_of_none (h : jb.ctxOf qpn = none) : jbRemoveWrite jb qpn io = (jb, io) := by
  rw [JitterBuffer.ctxOf, Option.map_eq_none_iff] at h
  simp [jbRemoveWrite, h]

theorem jbRemoveWrite_writes {i : Fin jbMaxPendingWrites} (h : jbFind jb qpn = some i) :
    (jbRemoveWrite jb qpn io).1.writes = Function.update jb.writes i .zero := by
  simp [jbRemoveWrite, h, JitterBuffer.setWrite]

theorem jbRemoveWrite_ctxOf_of_ne {other : Nat} (hother : other ≠ qpn) (hpos : other ≠ 0) :
    (jbRemoveWrite jb qpn io).1.ctxOf other = jb.ctxOf other := by
  cases h : jbFind jb qpn with
  | none => simp [jbRemoveWrite, h]
  | some i =>
    refine ctxOf_update_of_ne (jbRemoveWrite_writes h) ?_ hpos.symm
    rw [jbFind_some h]
    exact hother.symm

/-- With distinct QPNs, removing a write leaves its QPN without a context. -/
theorem jbRemoveWrite_ctxOf_self (hdist : jb.QpnsDistinct) (hpos : qpn ≠ 0) :
    (jbRemoveWrite jb qpn io).1.ctxOf qpn = none := by
  cases h : jbFind jb qpn with
  | none =>
    rw [jbRemoveWrite_of_none (by simp [JitterBuffer.ctxOf, h])]
    simp [JitterBuffer.ctxOf, h]
  | some i =>
    rw [ctxOf_eq_none, jbRemoveWrite_writes h]
    intro j
    by_cases hj : j = i
    · subst hj
      simpa [JbWriteContext.zero] using hpos.symm
    · rw [Function.update_of_ne hj]
      intro hqpn
      exact hj (hdist j i (by rw [hqpn, jbFind_some h]) (by rw [hqpn]; exact hpos))

/-- The effects of `jb_remove_write` are frees only. -/
theorem jbRemoveWrite_trace (jb : JitterBuffer μ) (qpn : Nat) (io : Io μ) :
    (jbRemoveWrite jb qpn io).2.trace =
      io.trace ++ ((jb.ctxOf qpn).elim [] fun ctx => ctx.held.map .free) := by
  unfold jbRemoveWrite JitterBuffer.ctxOf
  cases jbFind jb qpn with
  | none => simp
  | some i =>
    have hfold : ∀ (ms : List μ) (io : Io μ),
        (ms.foldl (fun io m => rtePktmbufFree m io) io).trace = io.trace ++ ms.map .free := by
      intro ms
      induction ms with
      | nil => intro io; simp
      | cons m ms ih => intro io; simp [ih]
    simp [hfold]

@[simp] theorem jbRemoveWrite_oracle (jb : JitterBuffer μ) (qpn : Nat) (io : Io μ) :
    (jbRemoveWrite jb qpn io).2.oracle = io.oracle := by
  unfold jbRemoveWrite
  cases jbFind jb qpn with
  | none => rfl
  | some i =>
    have hfold : ∀ (ms : List μ) (io : Io μ),
        (ms.foldl (fun io m => rtePktmbufFree m io) io).oracle = io.oracle := by
      intro ms
      induction ms with
      | nil => intro io; rfl
      | cons m ms ih => intro io; simp [ih]
    exact hfold _ io

/-- The effects of `jb_add_seg`: the duplicate is freed. -/
theorem jbAddSeg_io (jb : JitterBuffer μ) (qpn psn : Nat) (ty : WriteSegmentType) (m : μ)
    (io : Io μ) :
    (jbAddSeg jb qpn psn ty m io).2.2 = io ∨
      (jbAddSeg jb qpn psn ty m io).2.2 = rtePktmbufFree m io := by
  cases jbAddSeg_outcome jb qpn psn ty m io with
  | full _ _ hr => exact Or.inl (by rw [hr])
  | duplicate _ _ hr => exact Or.inr (by rw [hr])
  | stored _ _ _ hr => exact Or.inl (by rw [hr])
  | opened _ _ hr => exact Or.inl (by rw [hr])

/-! ## Distinct QPNs -/

theorem qpnsDistinct_jbInit : (jbInit : JitterBuffer μ).QpnsDistinct := by
  intro i j _ hne
  simp [jbInit, JbWriteContext.zero] at hne

theorem QpnsDistinct_update {i : Fin jbMaxPendingWrites} {ctx : JbWriteContext μ}
    (hw : jb'.writes = Function.update jb.writes i ctx) (hdist : jb.QpnsDistinct)
    (huniq : ∀ j, j ≠ i → (jb.writes j).qpn = ctx.qpn → ctx.qpn = 0) : jb'.QpnsDistinct := by
  intro a b hab hne
  simp only [hw, Function.update_apply] at hab hne
  by_cases ha : a = i <;> by_cases hb : b = i
  · rw [ha, hb]
  · simp only [ha, hb, if_true, if_false] at hab hne
    exact absurd (huniq b hb hab.symm) hne
  · simp only [ha, hb, if_true, if_false] at hab hne
    rw [hab] at hne
    exact absurd (huniq a ha hab) hne
  · simp only [ha, hb, if_false] at hab hne
    exact hdist a b hab hne

theorem jbAddSeg_qpnsDistinct (hdist : jb.QpnsDistinct) :
    (jbAddSeg jb qpn psn ty m io).2.1.QpnsDistinct := by
  rcases jbAddSeg_writes jb qpn psn ty m io with h | ⟨i, ctx, hw, hctx, hi⟩
  · rwa [h]
  · refine QpnsDistinct_update hw hdist fun j hj hqpn => ?_
    rw [hctx] at hqpn ⊢
    rcases hi with hfind | ⟨hnone, _⟩
    · by_contra hne
      exact hj (hdist j i (by rw [hqpn, jbFind_some hfind]) (by rw [hqpn]; exact hne))
    · exact absurd hqpn (ctxOf_eq_none.mp hnone j)

theorem jbRemoveWrite_qpnsDistinct (hdist : jb.QpnsDistinct) :
    (jbRemoveWrite jb qpn io).1.QpnsDistinct := by
  cases h : jbFind jb qpn with
  | none => simpa [jbRemoveWrite, h] using hdist
  | some i => exact QpnsDistinct_update (jbRemoveWrite_writes h) hdist fun _ _ _ => rfl

/-! ## What the stored buffers have in common -/

/-- `P` holds of every stored buffer and the QPN of its context. -/
def Holds (P : Nat → μ → Prop) (jb : JitterBuffer μ) : Prop :=
  ∀ i j m, ((jb.writes i).segments.get j).mbuf = some m → P (jb.writes i).qpn m

section Holds

variable {P : Nat → μ → Prop}

theorem holds_jbInit : Holds P (jbInit : JitterBuffer μ) := by
  intro i j m h
  cases h

theorem Holds.update (h : Holds P jb) {k : Fin jbMaxPendingWrites} {ctx : JbWriteContext μ}
    {jb' : JitterBuffer μ} (hw : jb'.writes = Function.update jb.writes k ctx)
    (hctx : ∀ j m, (ctx.segments.get j).mbuf = some m → P ctx.qpn m) : Holds P jb' := by
  intro i j m
  rw [hw]
  by_cases hi : i = k
  · subst hi
    rw [Function.update_self]
    exact hctx j m
  · rw [Function.update_of_ne hi]
    exact h i j m

/-- Storing a packet. -/
theorem holds_store {ctx : JbWriteContext μ} (psn : Nat) (ty : WriteSegmentType) {m : μ}
    (hm : P ctx.qpn m) (h : ∀ j m', (ctx.segments.get j).mbuf = some m' → P ctx.qpn m') :
    ∀ j m', ((jbStoreSeg ctx psn ty m).segments.get j).mbuf = some m' →
      P (jbStoreSeg ctx psn ty m).qpn m' := by
  intro j m' hm'
  rw [jbStoreSeg_qpn]
  by_cases hj : j % jbMaxSegments = ctx.slotOf psn
  · have hself := jbStoreSeg_get_slotOf ctx psn ty m
    rw [← hj, Ring.get_mod] at hself
    rw [hself, Option.some.injEq] at hm'
    rwa [← hm']
  · rcases jbStoreSeg_get_of_ne ctx psn ty m hj with hsame | ⟨-, hwaits⟩
    · rw [hsame] at hm'
      exact h j m' hm'
    · rw [hwaits] at hm'
      exact h j m' hm'

theorem Holds.addSeg (h : Holds P jb) (psn : Nat) (ty : WriteSegmentType) {m : μ}
    (hm : P qpn m) (io : Io μ) : Holds P (jbAddSeg jb qpn psn ty m io).2.1 := by
  cases jbAddSeg_outcome jb qpn psn ty m io with
  | full _ _ hr => rwa [hr]
  | duplicate _ _ hr => rwa [hr]
  | @stored i ctx hfind hctx _ hr =>
    rw [hr]
    subst hctx
    exact h.update rfl (holds_store psn ty ((jbFind_some hfind).symm ▸ hm) (h i))
  | opened _ _ hr =>
    rw [hr]
    exact h.update rfl (holds_store psn ty hm fun j m' hm' => nomatch hm')

theorem Holds.removeWrite (h : Holds P jb) (qpn : Nat) (io : Io μ) :
    Holds P (jbRemoveWrite jb qpn io).1 := by
  cases hfind : jbFind jb qpn with
  | none =>
    rw [jbRemoveWrite_of_none (by simp [JitterBuffer.ctxOf, hfind])]
    exact h
  | some i => exact h.update (jbRemoveWrite_writes hfind) fun j m hm => nomatch hm

end Holds

/-! ## A buffer that serves one flow -/

/-- Every slot is free or belongs to the QPN, and at most one does. -/
structure JitterBuffer.OnlyFlow (jb : JitterBuffer μ) (qpn : Nat) : Prop where
  distinct : jb.QpnsDistinct
  free : ∀ i, (jb.writes i).qpn ≠ qpn → (jb.writes i).qpn = 0 ∧ (jb.writes i).segmentCount = 0

theorem onlyFlow_jbInit (qpn : Nat) : (jbInit : JitterBuffer μ).OnlyFlow qpn :=
  ⟨qpnsDistinct_jbInit, fun _ _ => ⟨rfl, rfl⟩⟩

theorem JitterBuffer.OnlyFlow.hasFreeSlot (h : jb.OnlyFlow qpn) (hnone : jb.ctxOf qpn = none) :
    jb.HasFreeSlot := by
  obtain ⟨hqpn, hcount⟩ := h.free 0 (ctxOf_eq_none.mp hnone 0)
  exact ⟨0, hcount, hqpn⟩

theorem JitterBuffer.OnlyFlow.addSeg (h : jb.OnlyFlow qpn) :
    (jbAddSeg jb qpn psn ty m io).2.1.OnlyFlow qpn := by
  refine ⟨jbAddSeg_qpnsDistinct h.distinct, fun i hi => ?_⟩
  rcases jbAddSeg_writes jb qpn psn ty m io with hsame | ⟨j, ctx, hw, hctx, _⟩
  · rw [hsame] at hi ⊢
    exact h.free i hi
  · rw [hw] at hi ⊢
    by_cases hij : i = j
    · subst hij
      rw [Function.update_self] at hi
      exact absurd hctx hi
    · rw [Function.update_of_ne hij] at hi ⊢
      exact h.free i hi

theorem JitterBuffer.OnlyFlow.removeWrite (h : jb.OnlyFlow qpn) :
    (jbRemoveWrite jb qpn io).1.OnlyFlow qpn := by
  refine ⟨jbRemoveWrite_qpnsDistinct h.distinct, fun i hi => ?_⟩
  cases hfind : jbFind jb qpn with
  | none =>
    simp only [jbRemoveWrite, hfind] at hi ⊢
    exact h.free i hi
  | some j =>
    rw [jbRemoveWrite_writes hfind] at hi ⊢
    by_cases hij : i = j
    · subst hij
      rw [Function.update_self]
      exact ⟨rfl, rfl⟩
    · rw [Function.update_of_ne hij] at hi ⊢
      exact h.free i hi

end RdmaGateway.Reassembly
