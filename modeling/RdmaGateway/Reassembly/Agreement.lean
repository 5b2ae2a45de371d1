/-
  Reassembly/Agreement.lean --- two contexts that the scan cannot tell apart.

  The scan of `jb_get_ordered_segs` reads slots from 0 upwards and stops at the
  first final segment, so a slot behind a final segment is never delivered: it is
  wiped with the context.  `AgreeTo k a b` states that two contexts hold the same
  segments in slots 0 to `k` and that slot `k` is where the scan stops at the
  latest; `AgreeTo.release_eq` says that both then deliver the same, and
  `AgreeTo.accept` that an arrival keeps it so.
-/
import RdmaGateway.Reassembly.Flow

set_option autoImplicit false

namespace RdmaGateway.Reassembly

open RdmaGateway.Foundation
open RdmaGateway.Roce

variable {μ : Type}

/-- The segment received in slot `i`, if any. -/
def JbWriteContext.taken (ctx : JbWriteContext μ) (i : Nat) : Option (JbSegment μ) :=
  if ctx.Received i then some (ctx.segments.get i) else none

section Taken

variable {ctx : JbWriteContext μ} {qpn psn i : Nat} {ty : WriteSegmentType} {m : μ}

theorem taken_eq_none : ctx.taken i = none ↔ ¬ ctx.Received i := by
  rw [JbWriteContext.taken]
  split <;> simp_all

theorem accept_firstPsn (ctx : JbWriteContext μ) (qpn psn : Nat) (ty : WriteSegmentType) (m : μ) :
    (accept (some ctx) qpn psn ty m).firstPsn = ctx.firstPsn := by
  rw [accept_some]
  split <;> rfl

variable (ctx qpn psn ty m) in
/-- An arrival fills the slot of its PSN, unless the slot is taken. -/
theorem taken_accept (hi : i < jbMaxSegments) :
    (accept (some ctx) qpn psn ty m).taken i =
      if i = ctx.slotOf psn then some ((ctx.taken i).getD ⟨psn, some m, .received, ty⟩)
      else ctx.taken i := by
  rw [accept_some]
  split
  · rename_i hdup
    split
    · rename_i hslot
      rw [← hslot] at hdup
      rw [JbWriteContext.taken, if_pos hdup]
      rfl
    · rfl
  · rename_i hopen
    split
    · rename_i hslot
      subst hslot
      have hget := jbStoreSeg_get_slotOf ctx psn ty m
      have hrec : (jbStoreSeg ctx psn ty m).Received (ctx.slotOf psn) := by
        rw [JbWriteContext.Received, hget]
      rw [taken_eq_none.mpr hopen, JbWriteContext.taken, if_pos hrec, hget]
      rfl
    · rename_i hslot
      have hne : i % jbMaxSegments ≠ ctx.slotOf psn := by rwa [Nat.mod_eq_of_lt hi]
      have hiff := jbStoreSeg_received_of_ne ctx psn ty m hne
      by_cases hrec : ctx.Received i
      · rw [JbWriteContext.taken, JbWriteContext.taken, if_pos hrec, if_pos (hiff.mpr hrec),
          jbStoreSeg_get_of_received ctx psn ty m hne hrec]
      · rw [taken_eq_none.mpr hrec, taken_eq_none.mpr fun h => hrec (hiff.mp h)]

/-- One round of the scan reads the slot only through `taken`. -/
theorem jbScan_taken (ctx : JbWriteContext μ) (fuel i : Nat) :
    jbScan ctx.segments (fuel + 1) i =
      match ctx.taken i with
      | none => none
      | some seg =>
        if seg.segmentType.isFinal then some seg.mbuf.toList
        else (jbScan ctx.segments fuel (i + 1)).map (seg.mbuf.toList ++ ·) := by
  cases hstate : (ctx.segments.get i).state with
  | free => simp [jbScan, JbWriteContext.taken, JbWriteContext.Received, hstate]
  | waiting => simp [jbScan, JbWriteContext.taken, JbWriteContext.Received, hstate]
  | received => simp [jbScan, JbWriteContext.taken, JbWriteContext.Received, hstate]

/-- A slot that is taken stays taken. -/
theorem taken_accept_ne_none (hi : i < jbMaxSegments) (htaken : ctx.taken i ≠ none) :
    (accept (some ctx) qpn psn ty m).taken i ≠ none := by
  rw [taken_accept ctx qpn psn ty m hi]
  split
  · exact Option.some_ne_none _
  · exact htaken

end Taken

/-! ## The completion flag -/

/-- A received final segment has set the flag that `jb_is_write_complete` reads. -/
def FlagSet (ctx : JbWriteContext μ) : Prop :=
  ∀ i < jbMaxSegments, ∀ seg, ctx.taken i = some seg → seg.segmentType.isFinal = true →
    ctx.writeComplete = true

theorem flagSet_store {ctx : JbWriteContext μ} {psn : Nat} {ty : WriteSegmentType} {m : μ}
    (h : FlagSet ctx) (hopen : ¬ ctx.Received (ctx.slotOf psn)) :
    FlagSet (jbStoreSeg ctx psn ty m) := by
  intro i hi seg htaken hfinal
  have hacc : accept (some ctx) 0 psn ty m = jbStoreSeg ctx psn ty m := if_neg hopen
  rw [← hacc, taken_accept ctx 0 psn ty m hi] at htaken
  rw [jbStoreSeg_writeComplete, Bool.or_eq_true]
  split at htaken
  · rename_i hslot
    rw [hslot, taken_eq_none.mpr hopen] at htaken
    cases htaken
    exact Or.inl hfinal
  · exact Or.inr (h i hi seg htaken hfinal)

theorem flagSet_accept {found : Option (JbWriteContext μ)} (h : ∀ ctx, found = some ctx → FlagSet ctx)
    (qpn psn : Nat) (ty : WriteSegmentType) (m : μ) : FlagSet (accept found qpn psn ty m) := by
  cases found with
  | none =>
    refine flagSet_store (fun i _ seg htaken => ?_) (opened_not_received qpn psn _)
    rw [taken_eq_none.mpr (opened_not_received qpn psn i)] at htaken
    cases htaken
  | some ctx =>
    rw [accept_some]
    split
    · exact h ctx rfl
    · rename_i hopen
      exact flagSet_store (h ctx rfl) hopen

/-- A context between two arrivals: the test for a complete WRITE has failed on
it. -/
structure Settled (ctx : JbWriteContext μ) : Prop where
  flag : FlagSet ctx
  kept : release ctx = (some ctx, [])

theorem release_cases (ctx : JbWriteContext μ) :
    release ctx = (some ctx, []) ∨ ((release ctx).1 = none ∧ (release ctx).2 ≠ []) := by
  unfold release
  split
  · split
    · exact Or.inr ⟨rfl, List.cons_ne_nil _ _⟩
    · exact Or.inl rfl
  · exact Or.inl rfl

theorem settled_of_release {ctx ctx' : JbWriteContext μ} (hflag : FlagSet ctx)
    (h : (release ctx).1 = some ctx') : Settled ctx' := by
  rcases release_cases ctx with hkept | ⟨hnone, -⟩
  · rw [hkept] at h
    cases h
    exact ⟨hflag, hkept⟩
  · rw [hnone] at h
    cases h

/-- A final segment that opens a context is delivered at once, alone. -/
theorem release_accept_none {qpn psn : Nat} {ty : WriteSegmentType} {m : μ}
    (hfinal : ty.isFinal = true) : release (accept none qpn psn ty m) = (none, [m]) := by
  have hslot : (JbWriteContext.opened qpn psn : JbWriteContext μ).slotOf psn = 0 := slotOf_self
  have hget := jbStoreSeg_get_slotOf (.opened qpn psn) psn ty m
  rw [hslot] at hget
  simp [release, accept, jbScan, hget, hfinal]

/-! ## Agreement up to a slot -/

/-- The two contexts hold the same segments in slots 0 to `k`, and slot `k` is
open or holds a final segment. -/
structure AgreeTo (k : Nat) (a b : JbWriteContext μ) : Prop where
  lt_max : k < jbMaxSegments
  firstPsn_eq : a.firstPsn = b.firstPsn
  same : ∀ i ≤ k, a.taken i = b.taken i
  stops : ∀ seg, b.taken k = some seg → seg.segmentType.isFinal = true
  flags : FlagSet a ∧ FlagSet b

section Agreement

variable {k : Nat} {a b : JbWriteContext μ}

/-- The scan goes the same way in both contexts, and when it succeeds it has met a
final segment. -/
theorem AgreeTo.scan_eq (h : AgreeTo k a b) : ∀ (fuel i : Nat), i ≤ k → k < i + fuel →
    jbScan a.segments fuel i = jbScan b.segments fuel i ∧
      ∀ out, jbScan b.segments fuel i = some out →
        ∃ j ≤ k, ∃ seg, b.taken j = some seg ∧ seg.segmentType.isFinal = true := by
  intro fuel
  induction fuel with
  | zero => intro i hi hk; omega
  | succ fuel ih =>
    intro i hi hk
    rw [jbScan_taken, jbScan_taken, h.same i hi]
    cases htaken : b.taken i with
    | none => exact ⟨rfl, nofun⟩
    | some seg =>
      dsimp only
      by_cases hfinal : seg.segmentType.isFinal = true
      · rw [if_pos hfinal, if_pos hfinal]
        exact ⟨rfl, fun _ _ => ⟨i, hi, seg, htaken, hfinal⟩⟩
      · -- slot `k` itself would be final, so the scan is still below it
        have hlt : i < k := by
          rcases Nat.lt_or_eq_of_le hi with hlt | rfl
          · exact hlt
          · exact absurd (h.stops seg htaken) hfinal
        obtain ⟨heq, hfound⟩ := ih (i + 1) hlt (by omega)
        rw [if_neg hfinal, if_neg hfinal, heq]
        refine ⟨rfl, fun out hout => ?_⟩
        obtain ⟨rest, hrest, -⟩ := Option.map_eq_some_iff.mp hout
        exact hfound rest hrest

/-- Both contexts deliver the same, and are both kept or both wiped. -/
theorem AgreeTo.release_eq (h : AgreeTo k a b) :
    (release a = (some a, []) ∧ release b = (some b, [])) ∨
      ∃ out, release a = (none, out) ∧ release b = (none, out) := by
  have hk := h.lt_max
  obtain ⟨heq, hfound⟩ := h.scan_eq jbMaxSegments 0 (Nat.zero_le k) (by omega)
  cases hscan : jbScan b.segments jbMaxSegments 0 with
  | none =>
    rw [hscan] at heq
    exact Or.inl ⟨by simp [release, heq], by simp [release, hscan]⟩
  | some out =>
    rw [hscan] at heq
    obtain ⟨j, hj, seg, htaken, hfinal⟩ := hfound out hscan
    have hflagB : b.writeComplete = true := h.flags.2 j (by omega) seg htaken hfinal
    have hflagA : a.writeComplete = true :=
      h.flags.1 j (by omega) seg ((h.same j hj).trans htaken) hfinal
    cases out with
    | nil => exact Or.inl ⟨by simp [release, heq], by simp [release, hscan]⟩
    | cons m out =>
      exact Or.inr ⟨m :: out, by simp [release, heq, hflagA], by simp [release, hscan, hflagB]⟩

/-- The same arrival at both contexts, final if it takes slot `k`. -/
theorem AgreeTo.accept (h : AgreeTo k a b) (qpn psn : Nat) (ty : WriteSegmentType) (m : μ)
    (hstop : b.taken k = none → b.slotOf psn = k → ty.isFinal = true) :
    AgreeTo k (accept (some a) qpn psn ty m) (accept (some b) qpn psn ty m) := by
  have hk := h.lt_max
  have hslot : a.slotOf psn = b.slotOf psn := by
    rw [JbWriteContext.slotOf, JbWriteContext.slotOf, h.firstPsn_eq]
  refine ⟨hk, ?_, fun i hi => ?_, fun seg hseg => ?_, ?_⟩
  · rw [accept_firstPsn, accept_firstPsn, h.firstPsn_eq]
  · rw [taken_accept _ _ _ _ _ (by omega), taken_accept _ _ _ _ _ (by omega), hslot, h.same i hi]
  · rw [taken_accept _ _ _ _ _ hk] at hseg
    split at hseg
    · rename_i hself
      cases hseg
      cases htaken : b.taken k with
      | none => exact hstop htaken hself.symm
      | some seg => exact h.stops seg htaken
    · exact h.stops seg hseg
  · refine ⟨flagSet_accept ?_ _ _ _ _, flagSet_accept ?_ _ _ _ _⟩
    · rintro _ ⟨rfl⟩
      exact h.flags.1
    · rintro _ ⟨rfl⟩
      exact h.flags.2

/-- A segment stored behind slot `k` leaves the context in agreement with itself. -/
theorem agreeTo_store {ctx : JbWriteContext μ} (hflag : FlagSet ctx) (qpn psn : Nat)
    (ty : WriteSegmentType) (m : μ) (hlt : k < ctx.slotOf psn)
    (hstop : ∀ seg, ctx.taken k = some seg → seg.segmentType.isFinal = true) :
    AgreeTo k (accept (some ctx) qpn psn ty m) ctx := by
  have hmax := ctx.slotOf_lt psn
  refine ⟨by omega, accept_firstPsn _ _ _ _ _, fun i hi => ?_, hstop,
    flagSet_accept ?_ _ _ _ _, hflag⟩
  · rw [taken_accept _ _ _ _ _ (by omega), if_neg (by omega)]
  · rintro _ ⟨rfl⟩
    exact hflag

end Agreement

end RdmaGateway.Reassembly
