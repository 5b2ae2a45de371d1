/-
  `Foundation.Run`: finite runs of a step function, the condition a run meets at
  every step, and the two induction rules over runs.

  A run folds a step function over its inputs.  `StepsMeet C` says that a
  condition on the state before the step and on the input holds at every step of
  one run; `run_induction` then carries an invariant through such a run, and
  `run_related` carries a relation through two runs on the same inputs.
  `StepsMeetWhile p C` asks for the condition until `p` fails for the first time;
  `run_related_while` is the rule for two runs under it, and `costWhile` adds up
  what the steps cost until then.
-/
import Mathlib.Algebra.Order.Ring.Nat
import Mathlib.Data.List.Basic

set_option autoImplicit false

namespace RdmaGateway.Foundation

variable {σ τ ι : Type}

/-- The state after all inputs, taken in order. -/
def run (step : σ → ι → σ) (s : σ) (xs : List ι) : σ := xs.foldl step s

@[simp] theorem run_nil (step : σ → ι → σ) (s : σ) : run step s [] = s := rfl

@[simp] theorem run_cons (step : σ → ι → σ) (s : σ) (x : ι) (xs : List ι) :
    run step s (x :: xs) = run step (step s x) xs := rfl

theorem run_append (step : σ → ι → σ) (s : σ) (xs ys : List ι) :
    run step s (xs ++ ys) = run step (run step s xs) ys :=
  List.foldl_append

/-- `C` holds of the state before the step and of the input, at every step. -/
def StepsMeet (step : σ → ι → σ) (C : σ → ι → Prop) : σ → List ι → Prop
  | _, [] => True
  | s, x :: xs => C s x ∧ StepsMeet step C (step s x) xs

theorem stepsMeet_append {step : σ → ι → σ} {C : σ → ι → Prop} {s : σ} {xs ys : List ι} :
    StepsMeet step C s (xs ++ ys) ↔
      StepsMeet step C s xs ∧ StepsMeet step C (run step s xs) ys := by
  induction xs generalizing s with
  | nil => simp [StepsMeet]
  | cons x xs ih => simp [StepsMeet, ih, and_assoc]

/-- A condition met by every step of every run, stated pointwise. -/
theorem stepsMeet_of_forall {step : σ → ι → σ} {C : σ → ι → Prop} {xs : List ι}
    (h : ∀ s, ∀ x ∈ xs, C s x) (s : σ) : StepsMeet step C s xs := by
  induction xs generalizing s with
  | nil => trivial
  | cons x xs ih =>
    exact ⟨h s x (by simp), ih (fun s y hy => h s y (by simp [hy])) _⟩

/-- A condition of the inputs alone joins one that is met step by step. -/
theorem stepsMeet_and {step : σ → ι → σ} {C : σ → ι → Prop} {D : ι → Prop} {s : σ}
    {xs : List ι} (h : StepsMeet step C s xs) (hD : ∀ x ∈ xs, D x) :
    StepsMeet step (fun s x => C s x ∧ D x) s xs := by
  induction xs generalizing s with
  | nil => trivial
  | cons x xs ih =>
    exact ⟨⟨h.1, hD x (by simp)⟩, ih h.2 fun y hy => hD y (by simp [hy])⟩

/-- A run that does not meet the condition throughout has a first step that does not. -/
theorem exists_first_of_not_stepsMeet {step : σ → ι → σ} {C : σ → ι → Prop} {s : σ} {xs : List ι}
    (h : ¬ StepsMeet step C s xs) :
    ∃ ys x zs, xs = ys ++ x :: zs ∧ StepsMeet step C s ys ∧ ¬ C (run step s ys) x := by
  induction xs generalizing s with
  | nil => exact absurd trivial h
  | cons x xs ih =>
    by_cases hx : C s x
    · obtain ⟨ys, y, zs, rfl, hys, hy⟩ := ih fun hxs => h ⟨hx, hxs⟩
      exact ⟨x :: ys, y, zs, rfl, ⟨hx, hys⟩, hy⟩
    · exact ⟨[], x, xs, rfl, trivial, hx⟩

/-- In a run of states that satisfy an invariant, one condition may be traded for
another that the invariant derives from it. -/
theorem StepsMeet.imp {step : σ → ι → σ} {C D : σ → ι → Prop} (Inv : σ → Prop)
    (hstep : ∀ s x, Inv s → Inv (step s x)) (himp : ∀ s x, Inv s → C s x → D s x) {s : σ}
    {xs : List ι} (hs : Inv s) (h : StepsMeet step C s xs) : StepsMeet step D s xs := by
  induction xs generalizing s with
  | nil => trivial
  | cons x xs ih => exact ⟨himp s x hs h.1, ih (hstep s x hs) h.2⟩

/-- An invariant that every condition-meeting step preserves holds after the run. -/
theorem run_induction {step : σ → ι → σ} {C : σ → ι → Prop} {Inv : σ → Prop}
    (hstep : ∀ s x, Inv s → C s x → Inv (step s x)) {s : σ} {xs : List ι}
    (hs : Inv s) (hmeet : StepsMeet step C s xs) : Inv (run step s xs) := by
  induction xs generalizing s with
  | nil => exact hs
  | cons x xs ih => exact ih (hstep s x hs hmeet.1) hmeet.2

/-- A relation between two machines that each input preserves, as long as the
second machine meets a condition, holds after both have taken the same inputs. -/
theorem run_related {step : σ → ι → σ} {step' : τ → ι → τ} {R : σ → τ → Prop}
    {C : τ → ι → Prop} (hstep : ∀ s t x, R s t → C t x → R (step s x) (step' t x)) {s : σ} {t : τ}
    {xs : List ι} (hst : R s t) (hmeet : StepsMeet step' C t xs) :
    R (run step s xs) (run step' t xs) := by
  induction xs generalizing s t with
  | nil => exact hst
  | cons x xs ih => exact ih (hstep s t x hst hmeet.1) hmeet.2

/-- What the steps of a run put out, in order. -/
def outputs {β : Type} (step : σ → ι → σ) (out : σ → ι → List β) : σ → List ι → List β
  | _, [] => []
  | s, x :: xs => out s x ++ outputs step out (step s x) xs

theorem outputs_concat {β : Type} (step : σ → ι → σ) (out : σ → ι → List β) (s : σ) (xs : List ι)
    (x : ι) : outputs step out s (xs ++ [x]) = outputs step out s xs ++ out (run step s xs) x := by
  induction xs generalizing s with
  | nil => simp [outputs]
  | cons y ys ih => simp [outputs, ih]

/-! ## Up to the first state that fails a test -/

section While

variable {step : σ → ι → σ} {p : σ → Prop}

/-- `C` holds at every step taken before the first state that fails `p`. -/
def StepsMeetWhile (step : σ → ι → σ) (p : σ → Prop) (C : σ → ι → Prop) : σ → List ι → Prop
  | _, [] => True
  | s, x :: xs => p s → C s x ∧ StepsMeetWhile step p C (step s x) xs

instance decidableStepsMeetWhile [DecidablePred p] {C : σ → ι → Prop} [∀ s x, Decidable (C s x)] :
    ∀ (s : σ) (xs : List ι), Decidable (StepsMeetWhile step p C s xs)
  | _, [] => inferInstanceAs (Decidable True)
  | s, x :: xs =>
    have : Decidable (StepsMeetWhile step p C (step s x) xs) := decidableStepsMeetWhile (step s x) xs
    inferInstanceAs (Decidable (p s → C s x ∧ StepsMeetWhile step p C (step s x) xs))

/-- Where an invariant makes two conditions agree, one may be traded for the other. -/
theorem stepsMeetWhile_congr {C D : σ → ι → Prop} (Inv : σ → Prop)
    (hstep : ∀ s x, p s → Inv s → Inv (step s x)) (hiff : ∀ s x, p s → Inv s → (C s x ↔ D s x))
    {s : σ} {xs : List ι} (hs : Inv s) :
    StepsMeetWhile step p C s xs ↔ StepsMeetWhile step p D s xs := by
  induction xs generalizing s with
  | nil => exact Iff.rfl
  | cons x xs ih =>
    refine forall_congr' fun hp => and_congr (hiff s x hp hs) ?_
    exact ih (hstep s x hp hs)

/-- Two machines on the same inputs.  While the second passes the test, its steps meet
`C` and keep `R`; from its first state that fails the test on, `R'` is kept without a
condition on the states. -/
theorem run_related_while {step' : τ → ι → τ} {q : τ → Prop} {R R' : σ → τ → Prop}
    {C : τ → ι → Prop} {D : ι → Prop}
    (hstep : ∀ s t x, R s t → q t → C t x → D x → R (step s x) (step' t x))
    (hleave : ∀ s t, R s t → ¬ q t → R' s t)
    (hstep' : ∀ s t x, R' s t → D x → R' (step s x) (step' t x)) {s : σ} {t : τ} {xs : List ι}
    (hst : R s t) (hmeet : StepsMeetWhile step' q C t xs) (hD : ∀ x ∈ xs, D x) :
    R (run step s xs) (run step' t xs) ∨ R' (run step s xs) (run step' t xs) := by
  induction xs generalizing s t with
  | nil => exact Or.inl hst
  | cons x xs ih =>
    by_cases hq : q t
    · obtain ⟨hx, hxs⟩ := hmeet hq
      exact ih (hstep s t x hst hq hx (hD x (by simp))) hxs fun y hy => hD y (by simp [hy])
    · exact Or.inr (run_related hstep' (hleave s t hst hq) (stepsMeet_of_forall (fun _ => hD) t))

/-- The cost of the steps taken before the first state that fails `p`. -/
def costWhile (step : σ → ι → σ) (p : σ → Prop) [DecidablePred p] (cost : σ → ι → Nat) :
    σ → List ι → Nat
  | _, [] => 0
  | s, x :: xs => if p s then cost s x + costWhile step p cost (step s x) xs else 0

/-- Steps that pay for themselves out of a credit cost no more than the credit at the
start. -/
theorem costWhile_le [DecidablePred p] {cost : σ → ι → Nat} {C : σ → ι → Prop} (credit : σ → Nat)
    (hpay : ∀ s x, p s → C s x → cost s x ≤ credit s ∧
      (p (step s x) → cost s x + credit (step s x) ≤ credit s))
    {s : σ} {xs : List ι} (hmeet : StepsMeetWhile step p C s xs) :
    costWhile step p cost s xs ≤ credit s := by
  induction xs generalizing s with
  | nil => exact Nat.zero_le _
  | cons x xs ih =>
    rw [costWhile]
    split
    · rename_i hp
      obtain ⟨hx, hxs⟩ := hmeet hp
      obtain ⟨hcost, hrest⟩ := hpay s x hp hx
      have hih := ih hxs
      by_cases hp' : p (step s x)
      · have hpaid := hrest hp'
        omega
      · -- the cost stops here
        have hstop : costWhile step p cost (step s x) xs = 0 := by
          cases xs with
          | nil => rfl
          | cons y ys => exact if_neg hp'
        omega
    · exact Nat.zero_le _

end While

end RdmaGateway.Foundation
