/-
  `Foundation.Ring`: a fixed-size array whose every index is taken modulo the
  size, and a fixed-size table searched from its first slot.

  `Ring n α` is the array a program indexes as `cells[i % n]`: an access at any
  natural index is meaningful, and two indices meet in one cell exactly when
  they agree modulo `n`.  `Table n α` is the array a program walks from slot `0`
  for the first entry that satisfies a test.
-/
import Mathlib.Algebra.Order.Ring.Nat
import Mathlib.Data.List.OfFn
import Mathlib.Logic.Function.Basic

set_option autoImplicit false

namespace RdmaGateway.Foundation

/-! ## Sizes

The sizes that occur, so that each has one proof that it is not zero. -/

instance neZero_one : NeZero 1 := ⟨Nat.one_ne_zero⟩
instance neZero_64 : NeZero 64 := ⟨by decide⟩
instance neZero_128 : NeZero 128 := ⟨by decide⟩
instance neZero_256 : NeZero 256 := ⟨by decide⟩
instance neZero_1024 : NeZero 1024 := ⟨by decide⟩

/-- An array of `n` cells indexed modulo `n`. -/
structure Ring (n : Nat) (α : Type) where
  cell : Fin n → α

namespace Ring

variable {n : Nat} [NeZero n] {α : Type}

/-- The cell an index falls in. -/
def slot (n : Nat) [NeZero n] (i : Nat) : Fin n := Fin.ofNat n i

/-- Read `cells[i % n]`. -/
def get (r : Ring n α) (i : Nat) : α := r.cell (slot n i)

/-- Write `cells[i % n]`. -/
def set (r : Ring n α) (i : Nat) (v : α) : Ring n α :=
  ⟨Function.update r.cell (slot n i) v⟩

/-- A ring that holds one value everywhere. -/
def const (n : Nat) (v : α) : Ring n α := ⟨fun _ => v⟩

theorem slot_eq_iff {i j : Nat} : slot n i = slot n j ↔ i % n = j % n := by
  simp [slot, Fin.ext_iff, Fin.ofNat]

@[simp] theorem get_const (v : α) (i : Nat) : (const n v).get i = v := rfl

theorem get_set (r : Ring n α) (i j : Nat) (v : α) :
    (r.set i v).get j = if j % n = i % n then v else r.get j := by
  simp only [get, set, Function.update_apply, slot_eq_iff]

@[simp] theorem get_set_self (r : Ring n α) (i : Nat) (v : α) : (r.set i v).get i = v := by
  simp [get_set]

theorem get_set_of_ne {r : Ring n α} {i j : Nat} {v : α} (h : j % n ≠ i % n) :
    (r.set i v).get j = r.get j := by
  simp [get_set, h]

/-- Indices that agree modulo the size read the same cell. -/
theorem get_congr {r : Ring n α} {i j : Nat} (h : i % n = j % n) : r.get i = r.get j := by
  simp only [get, slot_eq_iff.mpr h]

@[simp] theorem get_mod (r : Ring n α) (i : Nat) : r.get (i % n) = r.get i :=
  get_congr (Nat.mod_mod i n)

omit [NeZero n] in
/-- Fewer than `n` apart, distinct indices fall in distinct cells. -/
theorem mod_ne_of_lt_of_sub_lt {i j : Nat} (hlt : i < j) (hnear : j - i < n) :
    i % n ≠ j % n := by
  intro h
  have hdvd : n ∣ j - i :=
    Nat.dvd_of_mod_eq_zero (Nat.sub_mod_eq_zero_of_mod_eq h.symm)
  have := Nat.le_of_dvd (by omega) hdvd
  omega

end Ring

/-! ## Tables searched from the first slot -/

/-- An array of `n` entries. -/
abbrev Table (n : Nat) (α : Type) : Type := Fin n → α

namespace Table

variable {n : Nat} [NeZero n] {α : Type}

/-- The slots, first to last.  Unfolding it exposes one slot after the other, so
that a search over a large table unfolds no further than it looks. -/
def slots (n : Nat) [NeZero n] : List (Fin n) := (List.range' 0 n).map (Fin.ofNat n)

@[simp] theorem mem_slots (i : Fin n) : i ∈ slots n :=
  List.mem_map.mpr ⟨i, List.mem_range'_1.mpr ⟨Nat.zero_le _, by omega⟩, Fin.ofNat_val_eq_self i⟩

@[simp] theorem length_slots : (slots n).length = n := by
  simp [slots]

/-- The first slot whose entry passes the test. -/
def findSlot (t : Table n α) (p : α → Bool) : Option (Fin n) :=
  (slots n).find? fun i => p (t i)

/-- The first slot is looked at first. -/
theorem findSlot_zero {t : Table n α} {p : α → Bool} (h : p (t 0) = true) :
    t.findSlot p = some 0 := by
  obtain ⟨k, hk⟩ := Nat.exists_eq_succ_of_ne_zero (NeZero.ne n)
  subst hk
  simp only [findSlot, slots, List.range'_succ, List.map_cons]
  exact List.find?_cons_of_pos h

theorem findSlot_eq_none {t : Table n α} {p : α → Bool} :
    t.findSlot p = none ↔ ∀ i, p (t i) = false := by
  simp [findSlot, List.find?_eq_none]

theorem findSlot_some {t : Table n α} {p : α → Bool} {i : Fin n}
    (h : t.findSlot p = some i) : p (t i) = true := by
  have := List.find?_some h
  simpa using this

/-- A test that only slot `i` passes finds slot `i`. -/
theorem findSlot_eq_some_of_unique {t : Table n α} {p : α → Bool} {i : Fin n}
    (hi : p (t i) = true) (huniq : ∀ j, p (t j) = true → j = i) :
    t.findSlot p = some i := by
  cases h : t.findSlot p with
  | none => rw [findSlot_eq_none] at h; simp [h i] at hi
  | some j => rw [huniq j (findSlot_some h)]

/-- The search depends only on which slots pass. -/
theorem findSlot_congr {t u : Table n α} {p q : α → Bool} (h : ∀ i, p (t i) = q (u i)) :
    t.findSlot p = u.findSlot q := by
  simp only [findSlot, h]

theorem exists_findSlot {t : Table n α} {p : α → Bool} {i : Fin n} (hi : p (t i) = true) :
    ∃ j, t.findSlot p = some j := by
  cases h : t.findSlot p with
  | none => rw [findSlot_eq_none] at h; simp [h i] at hi
  | some j => exact ⟨j, rfl⟩

end Table

end RdmaGateway.Foundation
