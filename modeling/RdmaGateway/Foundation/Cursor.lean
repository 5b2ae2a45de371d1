/-
  `Foundation.Cursor`: a cursor over numbers that arrive in any order.

  The cursor starts at 0 and moves on by one when the number it stands at arrives
  for the first time.  It does not look at what arrived earlier, so a number that
  arrived before the cursor reached it holds the cursor up for good.
  `cursor_eq_iff` says when the cursor stands at the first gap: when what lies
  before the gap arrived in order.
-/
import Mathlib.Algebra.Order.Ring.Nat
import Mathlib.Data.List.Basic
import Mathlib.Data.List.Induction

set_option autoImplicit false

namespace RdmaGateway.Foundation

/-- One arrival: what has arrived, and where the cursor stands. -/
def cursorStep (s : List Nat × Nat) (x : Nat) : List Nat × Nat :=
  (s.1 ++ [x], if x = s.2 ∧ x ∉ s.1 then s.2 + 1 else s.2)

/-- Where the cursor stands after the arrivals. -/
def cursor (xs : List Nat) : Nat := (xs.foldl cursorStep ([], 0)).2

/-- The numbers below `g` arrived in order, each for the first time after the ones
before it. -/
def ArrivedInOrder (g : Nat) (xs : List Nat) : Prop :=
  ∀ i j, i < j → j < g → xs.idxOf i < xs.idxOf j

theorem foldl_cursorStep_fst (xs : List Nat) : ∀ s, (xs.foldl cursorStep s).1 = s.1 ++ xs := by
  induction xs with
  | nil => intro s; simp
  | cons x xs ih =>
    intro s
    rw [List.foldl_cons, ih]
    simp [cursorStep]

@[simp] theorem cursor_nil : cursor [] = 0 := rfl

theorem cursor_append (xs : List Nat) (x : Nat) :
    cursor (xs ++ [x]) = if x = cursor xs ∧ x ∉ xs then cursor xs + 1 else cursor xs := by
  have hseen : (xs.foldl cursorStep ([], 0)).1 = xs := by
    rw [foldl_cursorStep_fst]
    rfl
  rw [cursor, List.foldl_append, List.foldl_cons, List.foldl_nil, cursorStep, hseen]
  rfl

/-- A number arrives that had arrived, or one from `g` on: the order below `g` is
what it was. -/
theorem arrivedInOrder_append {g : Nat} {xs : List Nat} (h : ∀ i < g, i ∈ xs) (x : Nat) :
    ArrivedInOrder g (xs ++ [x]) ↔ ArrivedInOrder g xs := by
  refine forall_congr' fun i => forall_congr' fun j => forall_congr' fun hij =>
    forall_congr' fun hj => ?_
  rw [List.idxOf_append_of_mem (h i (hij.trans hj)), List.idxOf_append_of_mem (h j hj)]

theorem ArrivedInOrder.mono {g g' : Nat} {xs : List Nat} (h : ArrivedInOrder g' xs) (hle : g ≤ g') :
    ArrivedInOrder g xs :=
  fun i j hij hj => h i j hij (hj.trans_le hle)

/-- What the cursor has passed arrived in order; and if the number it stands at has
arrived, it arrived too early. -/
structure CursorAt (xs : List Nat) (e : Nat) : Prop where
  passed : ∀ i < e, i ∈ xs
  inOrder : ArrivedInOrder e xs
  held : e ∈ xs → ¬ ArrivedInOrder (e + 1) xs

/-- The number the cursor stands at arrives for the first time. -/
theorem CursorAt.hit {xs : List Nat} {e : Nat} (h : CursorAt xs e) (hnew : e ∉ xs) :
    CursorAt (xs ++ [e]) (e + 1) := by
  have hlast : (xs ++ [e]).idxOf e = xs.length := by
    rw [List.idxOf_append_of_notMem hnew]
    simp
  have hbefore : ∀ i ∈ xs, (xs ++ [e]).idxOf i < xs.length := by
    intro i hi
    rw [List.idxOf_append_of_mem hi]
    exact List.idxOf_lt_length_of_mem hi
  refine ⟨fun i hi => ?_, fun i j hij hj => ?_, fun hmem horder => ?_⟩
  · rcases Nat.lt_succ_iff_lt_or_eq.mp hi with hi | rfl
    · exact List.mem_append_left _ (h.passed i hi)
    · exact List.mem_append_right _ List.mem_cons_self
  · rcases Nat.lt_succ_iff_lt_or_eq.mp hj with hj | rfl
    · exact (arrivedInOrder_append h.passed e).mpr h.inOrder i j hij hj
    · rw [hlast]
      exact hbefore i (h.passed i hij)
  · -- `e + 1` had arrived, and `e` arrives last
    have hearly : e + 1 ∈ xs := by simpa using hmem
    have hlt := horder e (e + 1) (Nat.lt_succ_self e) (Nat.lt_succ_self _)
    rw [hlast] at hlt
    exact absurd (hbefore _ hearly) (Nat.lt_asymm hlt)

/-- Any other arrival leaves the cursor where it stands. -/
theorem CursorAt.stay {xs : List Nat} {e x : Nat} (h : CursorAt xs e)
    (hx : ¬ (x = e ∧ x ∉ xs)) : CursorAt (xs ++ [x]) e := by
  refine ⟨fun i hi => List.mem_append_left _ (h.passed i hi),
    (arrivedInOrder_append h.passed x).mpr h.inOrder, fun hmem horder => ?_⟩
  have hold : e ∈ xs := by
    rcases List.mem_append.mp hmem with hmem | hmem
    · exact hmem
    · have heq : e = x := List.mem_singleton.mp hmem
      by_contra hnew
      exact hx ⟨heq.symm, heq ▸ hnew⟩
  refine h.held hold ((arrivedInOrder_append (fun i hi => ?_) x).mp horder)
  rcases Nat.lt_succ_iff_lt_or_eq.mp hi with hi | rfl
  · exact h.passed i hi
  · exact hold

theorem cursorAt_cursor (xs : List Nat) : CursorAt xs (cursor xs) := by
  induction xs using List.reverseRecOn with
  | nil => exact ⟨fun i hi => absurd hi (Nat.not_lt_zero i),
      fun i j _ hj => absurd hj (Nat.not_lt_zero j), fun hmem => absurd hmem List.not_mem_nil⟩
  | append_singleton xs x ih =>
    rw [cursor_append]
    split
    · rename_i hx
      obtain ⟨rfl, hnew⟩ := hx
      exact ih.hit hnew
    · rename_i hx
      exact ih.stay hx

/-- The cursor stands at the first gap or before it. -/
theorem cursor_le_gap {xs : List Nat} {g : Nat} (hgap : g ∉ xs) : cursor xs ≤ g := by
  by_contra hpast
  exact hgap ((cursorAt_cursor xs).passed g (by omega))

/-- The cursor stands at the first gap exactly when the numbers before the gap
arrived in order. -/
theorem cursor_eq_iff {xs : List Nat} {g : Nat} (hgap : g ∉ xs) (hbefore : ∀ i < g, i ∈ xs) :
    cursor xs = g ↔ ArrivedInOrder g xs := by
  have hat := cursorAt_cursor xs
  constructor
  · intro heq
    exact heq ▸ hat.inOrder
  · intro horder
    by_contra hne
    have hlt : cursor xs < g := Nat.lt_of_le_of_ne (cursor_le_gap hgap) hne
    exact hat.held (hbefore _ hlt) (horder.mono hlt)

end RdmaGateway.Foundation
