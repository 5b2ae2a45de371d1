/-
  `Foundation.Circle`: forward distance on a circle of `N` points, and the
  half-range comparison built from it.

  A cyclic counter has no order of its own.  What it has is the number of steps
  needed to walk from one point to another in the direction the counter runs,
  and the convention that a point reached in fewer than half a turn lies at or
  after the start.  This file states both for an arbitrary `N` and proves the
  two facts a cumulative acknowledgement rests on: positions of one short run
  compare like natural numbers (`dist_advance_lt_half_iff`), and on a run
  shorter than half a turn the points at or before a mark form an initial part
  of the run (`atOrBefore_iff_of_arc`).
-/
import Mathlib.Algebra.Order.Ring.Nat
import Mathlib.Data.Nat.Basic
import Mathlib.Tactic.SplitIfs

set_option autoImplicit false

namespace RdmaGateway.Foundation.Circle

/-- Steps forward from `a` to `b` on a circle of `N` points. -/
def dist (N a b : Nat) : Nat :=
  if a ≤ b then b - a else N - a + b

/-- The point `k` steps forward of `a`. -/
def advance (N a k : Nat) : Nat := (a + k) % N

variable {N a b : Nat}

@[simp] theorem dist_self (N a : Nat) : dist N a a = 0 := by
  simp [dist]

/-- Walking `k` steps, fewer than a whole turn, is seen as the distance `k`. -/
theorem dist_advance {k : Nat} (ha : a < N) (hk : k < N) :
    dist N a (advance N a k) = k := by
  unfold dist advance
  rcases Nat.lt_or_ge (a + k) N with h | h
  · rw [Nat.mod_eq_of_lt h]
    split <;> omega
  · rw [Nat.mod_eq_sub_mod h, Nat.mod_eq_of_lt (by omega)]
    split <;> omega

/-- Two walks from one start compare by their lengths: the distance between
their ends is the difference when the first is the shorter, and wraps otherwise. -/
theorem dist_advance_advance {i k : Nat} (ha : a < N) (hi : i < N) (hk : k < N) :
    dist N (advance N a i) (advance N a k) = if i ≤ k then k - i else N - i + k := by
  unfold dist advance
  rcases Nat.lt_or_ge (a + i) N with h1 | h1 <;>
    rcases Nat.lt_or_ge (a + k) N with h2 | h2
  · rw [Nat.mod_eq_of_lt h1, Nat.mod_eq_of_lt h2]
    split <;> split <;> omega
  · rw [Nat.mod_eq_of_lt h1, Nat.mod_eq_sub_mod h2, Nat.mod_eq_of_lt (by omega)]
    split <;> split <;> omega
  · rw [Nat.mod_eq_sub_mod h1, Nat.mod_eq_of_lt (by omega : a + i - N < N),
      Nat.mod_eq_of_lt h2]
    split <;> split <;> omega
  · rw [Nat.mod_eq_sub_mod h1, Nat.mod_eq_of_lt (by omega : a + i - N < N),
      Nat.mod_eq_sub_mod h2, Nat.mod_eq_of_lt (by omega)]
    split <;> split <;> omega

/-- Every point is reached by walking its distance. -/
theorem advance_dist (ha : a < N) (hb : b < N) : advance N a (dist N a b) = b := by
  unfold dist advance
  split
  · rw [Nat.mod_eq_of_lt (by omega)]; omega
  · rw [Nat.mod_eq_sub_mod (by omega), Nat.mod_eq_of_lt (by omega)]; omega

/-! ## The half-range comparison

From here on the circle has an even number `2 * H` of points, and `a` counts as
at or before `b` when `b` is reached in fewer than `H` steps. -/

/-- Within one run shorter than half a turn the half-range comparison is the
order of the positions. -/
theorem dist_advance_lt_half_iff {H i k : Nat} (ha : a < 2 * H) (hi : i < H) (hk : k < H) :
    dist (2 * H) (advance (2 * H) a i) (advance (2 * H) a k) < H ↔ i ≤ k := by
  rw [dist_advance_advance ha (by omega) (by omega)]
  split <;> omega

/-- On an arc of less than half a turn from `oldest` to `newest`, and for a mark
less than half a turn ahead of `oldest` or at most half a turn behind `newest`,
the points of the arc at or before the mark are exactly those no farther from
`oldest` than the mark is.  In particular they are an initial part of the arc,
and there are none of them when the mark lies behind `oldest`. -/
theorem atOrBefore_iff_of_arc {H oldest newest x mark : Nat}
    (ho : oldest < 2 * H) (hx : x < 2 * H) (hm : mark < 2 * H)
    (harc : dist (2 * H) oldest newest < H)
    (hxarc : dist (2 * H) oldest x ≤ dist (2 * H) oldest newest)
    (hmark : dist (2 * H) oldest mark < H ∨ dist (2 * H) mark newest ≤ H) :
    dist (2 * H) x mark < H ↔
      dist (2 * H) oldest mark < H ∧
        dist (2 * H) oldest x ≤ dist (2 * H) oldest mark := by
  simp only [dist] at *
  split_ifs at * <;> omega

/-- Of two points less than half a turn ahead of `oldest`, the one from which
the other is reached in less than half a turn comes first on the arc. -/
theorem dist_le_of_forward {H oldest x y : Nat} (ho : oldest < 2 * H) (hx : x < 2 * H)
    (hox : dist (2 * H) oldest x < H) (hxy : dist (2 * H) x y < H) :
    dist (2 * H) oldest x ≤ dist (2 * H) oldest y := by
  simp only [dist] at *
  split_ifs at * <;> omega

end RdmaGateway.Foundation.Circle
