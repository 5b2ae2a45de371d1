/-
  `Foundation.Pacing`: a flag with two thresholds, and events of one key that keep
  apart.

  The flag is a fold over the samples it saw; `latch_iff_raised` says what its value
  means without the fold.  Pacing is a property of a log in the order of time, and a
  log stays paced when an event is added late enough.  A timer that is looked at now and
  then goes off at the first look that finds its interval over: it is paced, and no look
  comes more than an interval after the last time it went off.  A machine that keeps a
  stamp, and puts a time out only when it moves the stamp on to it, is paced as well.
-/
import RdmaGateway.Foundation.Run
import Mathlib.Algebra.Order.Ring.Nat
import Mathlib.Data.List.Basic

set_option autoImplicit false

namespace RdmaGateway.Foundation

section Latch

variable {high low : Nat} {us : List Nat}

/-- The flag after one sample: set from `high` on, cleared down to `low`, kept in
between. -/
def latch (high low : Nat) (flag : Bool) (u : Nat) : Bool :=
  if high ≤ u then true else if u ≤ low then false else flag

/-- A flag that is set only while the samples are at `high` follows the next sample. -/
theorem latch_iff_of_le {flag : Bool} {u : Nat} (h : flag = true → high ≤ u) :
    latch high low flag u = true ↔ high ≤ u := by
  rw [latch]
  by_cases hhigh : high ≤ u
  · simp [hhigh]
  · have hflag : flag = false := by
      cases flag with
      | true => exact absurd (h rfl) hhigh
      | false => rfl
    simp [hhigh, hflag]

/-- Some sample reached `high`, and none after it went down to `low`. -/
def Raised (high low : Nat) (us : List Nat) : Prop :=
  ∃ before u after, us = before ++ u :: after ∧ high ≤ u ∧ ∀ v ∈ after, ¬ v ≤ low

theorem raised_concat (u : Nat) :
    Raised high low (us ++ [u]) ↔ high ≤ u ∨ ¬ u ≤ low ∧ Raised high low us := by
  constructor
  · rintro ⟨before, v, after, heq, hv, hafter⟩
    rcases List.eq_nil_or_concat after with rfl | ⟨after, w, rfl⟩
    · obtain ⟨-, heq⟩ := List.append_inj' heq rfl
      obtain rfl := List.head_eq_of_cons_eq heq
      exact .inl hv
    · have hsplit : us ++ [u] = (before ++ v :: after) ++ [w] := by simpa using heq
      obtain ⟨hus, hlast⟩ := List.append_inj' hsplit rfl
      obtain rfl := List.head_eq_of_cons_eq hlast
      exact .inr ⟨hafter u (by simp), before, v, after, hus, hv, fun x hx => hafter x (by simp [hx])⟩
  · rintro (hu | ⟨hu, before, v, after, rfl, hv, hafter⟩)
    · exact ⟨us, u, [], rfl, hu, by simp⟩
    · refine ⟨before, v, after ++ [u], by simp, hv, fun x hx => ?_⟩
      rcases List.mem_append.mp hx with hx | hx
      · exact hafter x hx
      · rwa [List.mem_singleton.mp hx]

/-- One more sample, from a flag that says whether it is raised. -/
theorem latch_iff_raised {flag : Bool} (h : flag = true ↔ Raised high low us) (u : Nat) :
    latch high low flag u = true ↔ Raised high low (us ++ [u]) := by
  rw [raised_concat, latch]
  by_cases hhigh : high ≤ u
  · simp [hhigh]
  · by_cases hlow : u ≤ low
    · simp [hhigh, hlow]
    · simp [hhigh, hlow, h]

theorem not_raised_nil : ¬ Raised high low [] := by
  rintro ⟨before, u, after, heq, -⟩
  simp at heq

end Latch

section Paced

variable {α κ : Type} {key : α → κ} {time : α → Nat} {gap : Nat} {log : List α}

/-- Of two events of one key the later one is at least `gap` after the earlier. -/
def Paced (key : α → κ) (time : α → Nat) (gap : Nat) (log : List α) : Prop :=
  log.Pairwise fun a b => key a = key b → time a + gap ≤ time b

theorem paced_nil : Paced key time gap [] := .nil

theorem Paced.concat (h : Paced key time gap log) {b : α}
    (hlate : ∀ a ∈ log, key a = key b → time a + gap ≤ time b) :
    Paced key time gap (log ++ [b]) := by
  refine List.pairwise_append.mpr ⟨h, List.pairwise_singleton _ b, fun a ha c hc => ?_⟩
  rw [List.mem_singleton.mp hc]
  exact hlate a ha

end Paced

section Timer

variable {interval : Nat}

/-- The looks at which a timer goes off that last did so at `last`. -/
def goesOff (interval : Nat) : Nat → List Nat → List Nat
  | _, [] => []
  | last, t :: ts =>
    if interval ≤ t - last then t :: goesOff interval t ts else goesOff interval last ts

theorem goesOff_subset (last : Nat) (ts : List Nat) : goesOff interval last ts ⊆ ts := by
  induction ts generalizing last with
  | nil => exact List.Subset.refl _
  | cons t ts ih =>
    rw [goesOff]
    split
    · exact List.cons_subset_cons t (ih t)
    · exact List.Subset.trans (ih last) (List.subset_cons_self t ts)

/-- Looks in the order of time: the timer never goes off before its interval is over. -/
theorem goesOff_paced {last : Nat} {ts : List Nat} (hts : (last :: ts).Pairwise (· ≤ ·)) :
    (last :: goesOff interval last ts).Pairwise fun a b => a + interval ≤ b := by
  induction ts generalizing last with
  | nil => exact List.pairwise_singleton _ last
  | cons t ts ih =>
    obtain ⟨hlast, ht⟩ := List.pairwise_cons.mp hts
    have hle := hlast t List.mem_cons_self
    rw [goesOff]
    split
    · rename_i hdue
      refine List.pairwise_cons.mpr ⟨fun u hu => ?_, ih ht⟩
      rcases List.mem_cons.mp hu with rfl | hu
      · omega
      · have htu := (List.pairwise_cons.mp ht).1 u (goesOff_subset t ts hu)
        omega
    · exact ih (List.pairwise_cons.mpr
        ⟨fun u hu => hlast u (List.mem_cons_of_mem t hu), (List.pairwise_cons.mp ht).2⟩)

/-- Every look finds the timer gone off less than an interval ago, or sees it go off. -/
theorem goesOff_recent {last : Nat} {ts : List Nat} (hts : (last :: ts).Pairwise (· ≤ ·)) {t : Nat}
    (ht : t ∈ ts) :
    ∃ u ∈ last :: goesOff interval last ts, u ≤ t ∧ (u = t ∨ t < u + interval) := by
  induction ts generalizing last with
  | nil => cases ht
  | cons v ts ih =>
    obtain ⟨hlast, hv⟩ := List.pairwise_cons.mp hts
    have hle := hlast v List.mem_cons_self
    rw [goesOff]
    split
    · rcases List.mem_cons.mp ht with rfl | ht
      · exact ⟨t, by simp, le_rfl, Or.inl rfl⟩
      · obtain ⟨u, hu, hrecent⟩ := ih hv ht
        exact ⟨u, List.mem_cons_of_mem last hu, hrecent⟩
    · rename_i hdue
      rcases List.mem_cons.mp ht with rfl | ht
      · exact ⟨last, List.mem_cons_self, hle, Or.inr (by omega)⟩
      · exact ih (List.pairwise_cons.mpr
          ⟨fun u hu => hlast u (List.mem_cons_of_mem v hu), (List.pairwise_cons.mp hv).2⟩) ht

end Timer

section Stamp

variable {σ ι : Type} {step : σ → ι → σ} {Inv : σ → Prop} {stamp : σ → Nat}
  {out : σ → ι → List Nat} {gap : Nat}

/-- A step leaves the stamp and puts nothing out, or it moves the stamp on by more than `gap`
and puts out the new stamp, if anything. -/
def MovesStamp (stamp : σ → Nat) (gap : Nat) (s s' : σ) (ts : List Nat) : Prop :=
  stamp s' = stamp s ∧ ts = [] ∨ stamp s + gap < stamp s' ∧ (ts = [] ∨ ts = [stamp s'])

theorem MovesStamp.le {s s' : σ} {ts : List Nat} (h : MovesStamp stamp gap s s' ts) :
    stamp s ≤ stamp s' := by
  rcases h with ⟨heq, -⟩ | ⟨hlt, -⟩ <;> omega

/-- The times put out keep apart, from each other and from the stamp at the start. -/
theorem outputs_apart (hinv : ∀ s x, Inv s → Inv (step s x))
    (hmoves : ∀ s x, Inv s → MovesStamp stamp gap s (step s x) (out s x)) {s : σ} (hs : Inv s)
    (xs : List ι) : (stamp s :: outputs step out s xs).Pairwise fun a b => a + gap < b := by
  induction xs generalizing s with
  | nil => exact List.pairwise_singleton _ _
  | cons x xs ih =>
    have hrest := ih (hinv s x hs)
    rw [outputs]
    rcases hmoves s x hs with ⟨hstamp, hnone⟩ | ⟨hlt, hout⟩
    · rw [hnone, List.nil_append, ← hstamp]
      exact hrest
    · have hlate : ∀ t ∈ outputs step out (step s x) xs, stamp s + gap < t := by
        intro t ht
        have := (List.pairwise_cons.mp hrest).1 t ht
        omega
      rcases hout with hnone | hone
      · rw [hnone, List.nil_append]
        exact List.pairwise_cons.mpr ⟨hlate, (List.pairwise_cons.mp hrest).2⟩
      · rw [hone, List.singleton_append]
        refine List.pairwise_cons.mpr ⟨fun t ht => ?_, hrest⟩
        rcases List.mem_cons.mp ht with rfl | ht
        · exact hlt
        · exact hlate t ht

/-- None of them is past the stamp at the end. -/
theorem outputs_le_stamp (hinv : ∀ s x, Inv s → Inv (step s x))
    (hmoves : ∀ s x, Inv s → MovesStamp stamp gap s (step s x) (out s x)) {s : σ} (hs : Inv s)
    (xs : List ι) : ∀ t ∈ stamp s :: outputs step out s xs, t ≤ stamp (run step s xs) := by
  induction xs generalizing s with
  | nil => simp [outputs]
  | cons x xs ih =>
    have hrest := ih (hinv s x hs)
    have hend : stamp (step s x) ≤ stamp (run step s (x :: xs)) := hrest _ List.mem_cons_self
    intro t ht
    rw [outputs, List.mem_cons, List.mem_append] at ht
    rcases ht with rfl | ht | ht
    · exact (hmoves s x hs).le.trans hend
    · rcases hmoves s x hs with ⟨-, hnone⟩ | ⟨-, hnone | hone⟩
      · rw [hnone] at ht
        cases ht
      · rw [hnone] at ht
        cases ht
      · rw [hone, List.mem_singleton] at ht
        rw [ht]
        exact hend
    · exact hrest t (List.mem_cons_of_mem _ ht)

/-- Times that keep apart, up to a last moment, are few. -/
theorem length_mul_le_of_apart {first last : Nat} {ts : List Nat}
    (hapart : (first :: ts).Pairwise fun a b => a + gap < b) (hle : ∀ t ∈ first :: ts, t ≤ last) :
    first + ts.length * (gap + 1) ≤ last := by
  induction ts generalizing first with
  | nil => simpa using hle first List.mem_cons_self
  | cons t ts ih =>
    obtain ⟨hfirst, hts⟩ := List.pairwise_cons.mp hapart
    have hrest := ih hts fun u hu => hle u (List.mem_cons_of_mem _ hu)
    have hnext := hfirst t List.mem_cons_self
    rw [List.length_cons, Nat.succ_mul]
    omega

end Stamp

end RdmaGateway.Foundation
