/-
  `Foundation.Component`: a part of a machine that is a machine of its own.

  A component sees some of the state (`view`) and reads some of the inputs (`reads`).  If
  one input does to it what its own step does, or nothing when the input is not for it, then
  a run of the whole machine is, for the component, a run of its own on the inputs it reads
  (`IsComponent.run`, `IsComponent.outputs`).  What it does then depends on nothing else.
-/
import Mathlib.Algebra.BigOperators.Group.List.Basic
import RdmaGateway.Foundation.Run

set_option autoImplicit false

namespace RdmaGateway.Foundation

variable {σ τ ι κ β : Type}

/-- In states that satisfy `Inv` the machine `step`, with output `out`, moves its view as the
machine `step'`, with output `out'`, moves on the inputs that it reads. -/
structure IsComponent (Inv : σ → Prop) (step : σ → ι → σ) (out : σ → ι → List β) (view : σ → τ)
    (reads : ι → Option κ) (step' : τ → κ → τ) (out' : τ → κ → List β) : Prop where
  keeps : ∀ s x, Inv s → Inv (step s x)
  takes : ∀ s x y, Inv s → reads x = some y →
    view (step s x) = step' (view s) y ∧ out s x = out' (view s) y
  skips : ∀ s x, Inv s → reads x = none → view (step s x) = view s ∧ out s x = []

section IsComponent

variable {Inv : σ → Prop} {step : σ → ι → σ} {out : σ → ι → List β} {view : σ → τ}
  {reads : ι → Option κ} {step' : τ → κ → τ} {out' : τ → κ → List β}

/-- The view after a run. -/
theorem IsComponent.run (h : IsComponent Inv step out view reads step' out') {s : σ} (hs : Inv s)
    (xs : List ι) :
    view (Foundation.run step s xs) = Foundation.run step' (view s) (xs.filterMap reads) := by
  induction xs generalizing s with
  | nil => rfl
  | cons x xs ih =>
    rw [run_cons, ih (h.keeps s x hs), List.filterMap_cons]
    cases hread : reads x with
    | none => rw [(h.skips s x hs hread).1]
    | some y => rw [(h.takes s x y hs hread).1, run_cons]

/-- What a run puts out. -/
theorem IsComponent.outputs (h : IsComponent Inv step out view reads step' out') {s : σ}
    (hs : Inv s) (xs : List ι) :
    Foundation.outputs step out s xs =
      Foundation.outputs step' out' (view s) (xs.filterMap reads) := by
  induction xs generalizing s with
  | nil => rfl
  | cons x xs ih =>
    rw [Foundation.outputs, ih (h.keeps s x hs), List.filterMap_cons]
    cases hread : reads x with
    | none =>
      obtain ⟨hview, hout⟩ := h.skips s x hs hread
      rw [hview, hout, List.nil_append]
    | some y =>
      obtain ⟨hview, hout⟩ := h.takes s x y hs hread
      rw [hview, hout, Foundation.outputs]

end IsComponent

/-- Outputs that are renamed one by one are renamed all together. -/
theorem outputs_map {γ : Type} (step : σ → ι → σ) (out : σ → ι → List β) (f : β → γ) (s : σ)
    (xs : List ι) :
    outputs step (fun s x => (out s x).map f) s xs = (outputs step out s xs).map f := by
  induction xs generalizing s with
  | nil => rfl
  | cons x xs ih => rw [outputs, outputs, ih, List.map_append]

/-- A machine that the inputs do not move puts out what it puts out at the start. -/
theorem run_of_still {step : σ → ι → σ} {out : σ → ι → List β} {s : σ} {xs : List ι}
    (h : ∀ x ∈ xs, step s x = s ∧ out s x = []) :
    run step s xs = s ∧ outputs step out s xs = [] := by
  induction xs with
  | nil => exact ⟨rfl, rfl⟩
  | cons x xs ih =>
    obtain ⟨hstep, hout⟩ := h x List.mem_cons_self
    rw [run_cons, outputs, hstep, hout, List.nil_append]
    exact ih fun y hy => h y (List.mem_cons_of_mem x hy)

/-- A total to which every step adds what its output weighs. -/
theorem total_outputs {M : Type} [AddMonoid M] {Inv : σ → Prop} {step : σ → ι → σ}
    {out : σ → ι → List β} {f : σ → M} {weigh : β → M}
    (hkeeps : ∀ s x, Inv s → Inv (step s x))
    (hadds : ∀ s x, Inv s → f (step s x) = f s + ((out s x).map weigh).sum) {s : σ} (hs : Inv s)
    (xs : List ι) : f (run step s xs) = f s + ((outputs step out s xs).map weigh).sum := by
  induction xs generalizing s with
  | nil => rw [outputs, List.map_nil, List.sum_nil, add_zero, run_nil]
  | cons x xs ih =>
    rw [run_cons, ih (hkeeps s x hs), hadds s x hs, outputs, List.map_append, List.sum_append,
      add_assoc]

end RdmaGateway.Foundation
