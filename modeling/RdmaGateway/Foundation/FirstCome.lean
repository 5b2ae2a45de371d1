/-
  `Foundation.FirstCome`: a fixed-size table that gives each new key its first free
  slot and takes no slot back.

  What such a table holds is a function of the keys it was asked for: the first `n`
  distinct ones, in the order in which they came (`firstKeys`).  `Registers` says that
  the slots of a table are exactly these, and the two search lemmas say where a search
  for a key, or for a free slot, then ends.
-/
import Mathlib.Data.List.Induction
import RdmaGateway.Foundation.Ring

set_option autoImplicit false

namespace RdmaGateway.Foundation

/-! ## The keys -/

section Keys

variable {κ : Type} [DecidableEq κ] {n : Nat}

/-- The first `n` distinct keys, in the order of their first occurrence. -/
def firstKeys (n : Nat) (xs : List κ) : List κ := xs.eraseDups.take n

@[simp] theorem firstKeys_nil : firstKeys n ([] : List κ) = [] := List.take_nil

theorem length_firstKeys_le (xs : List κ) : (firstKeys n xs).length ≤ n :=
  List.length_take_le n _

theorem eraseDups_concat (xs : List κ) (k : κ) :
    (xs ++ [k]).eraseDups = if k ∈ xs then xs.eraseDups else xs.eraseDups ++ [k] := by
  rw [List.eraseDups_append]
  by_cases hk : k ∈ xs
  · simp [List.removeAll, hk]
  · simp [List.removeAll, hk, List.eraseDups_cons]

theorem nodup_eraseDups (xs : List κ) : xs.eraseDups.Nodup := by
  induction xs using List.reverseRecOn with
  | nil => exact List.nodup_nil
  | append_singleton xs k ih =>
    rw [eraseDups_concat]
    split
    · exact ih
    · rename_i hk
      refine List.nodup_append.mpr ⟨ih, by simp, fun a ha b hb hab => hk ?_⟩
      rw [← List.mem_singleton.mp hb, ← hab]
      exact List.mem_eraseDups.mp ha

theorem nodup_firstKeys (xs : List κ) : (firstKeys n xs).Nodup :=
  (nodup_eraseDups xs).sublist (List.take_sublist n _)

/-- One more key: it is there already, there is no room, or it comes last. -/
theorem firstKeys_concat (xs : List κ) (k : κ) :
    firstKeys n (xs ++ [k]) =
      if k ∈ firstKeys n xs ∨ n ≤ (firstKeys n xs).length then firstKeys n xs
      else firstKeys n xs ++ [k] := by
  rw [firstKeys, eraseDups_concat]
  by_cases hroom : n ≤ xs.eraseDups.length
  · have hfull : (firstKeys n xs).length = n := by
      rw [firstKeys, List.length_take, Nat.min_eq_left hroom]
    rw [if_pos (Or.inr hfull.ge)]
    split
    · rfl
    · exact List.take_append_of_le_length hroom
  · have hall : firstKeys n xs = xs.eraseDups := List.take_of_length_le (Nat.le_of_not_le hroom)
    rw [hall]
    by_cases hk : k ∈ xs
    · rw [if_pos hk, if_pos (Or.inl (List.mem_eraseDups.mpr hk))]
      exact hall
    · rw [if_neg hk, if_neg (by simp [hk, hroom])]
      refine List.take_of_length_le ?_
      rw [List.length_append, List.length_singleton]
      omega

/-- While there is room, every key that came is there. -/
theorem mem_firstKeys_of_room {xs : List κ} {k : κ} (hroom : (firstKeys n xs).length < n)
    (hk : k ∈ xs) : k ∈ firstKeys n xs := by
  rw [firstKeys, List.length_take] at hroom
  rw [firstKeys, List.take_of_length_le (by omega)]
  exact List.mem_eraseDups.mpr hk

/-- One more key changes nothing for those that came before. -/
theorem mem_firstKeys_concat {xs : List κ} {k k' : κ} (hk' : k' ∈ xs) :
    k' ∈ firstKeys n (xs ++ [k]) ↔ k' ∈ firstKeys n xs := by
  rw [firstKeys_concat]
  split
  · exact Iff.rfl
  · rename_i hnew
    rw [not_or] at hnew
    have hroom : (firstKeys n xs).length < n := by omega
    exact iff_of_true (List.mem_append_left _ (mem_firstKeys_of_room hroom hk'))
      (mem_firstKeys_of_room hroom hk')

end Keys

/-! ## The table -/

namespace Table

variable {n : Nat} {α : Type}

/-- The first slot that passes the test. -/
theorem findSlot_eq_some_of_first [NeZero n] {t : Table n α} {p : α → Bool} {i : Fin n}
    (hi : p (t i) = true) (hfirst : ∀ j, j < i → p (t j) = false) : t.findSlot p = some i := by
  rw [findSlot, slots, List.find?_map, Option.map_eq_some_iff]
  refine ⟨i.val, List.find?_range'_eq_some.mpr ⟨?_, ?_, fun j _ hj => ?_⟩, Fin.ofNat_val_eq_self i⟩
  · simpa using hi
  · exact List.mem_range'_1.mpr ⟨Nat.zero_le _, by omega⟩
  · have hlt : j < n := hj.trans i.isLt
    have hself : Fin.ofNat n j = ⟨j, hlt⟩ := Fin.ext (Nat.mod_eq_of_lt hlt)
    rw [Function.comp_apply, hself, hfirst ⟨j, hlt⟩ hj]
    rfl

variable {κ : Type} {keyOf : α → Option κ} {t : Table n α} {ks : List κ}

/-- The used slots of the table are the first ones, and hold the keys in order. -/
def Registers (keyOf : α → Option κ) (t : Table n α) (ks : List κ) : Prop :=
  ∀ i : Fin n, keyOf (t i) = ks[i.val]?

theorem registers_nil (h : ∀ i, keyOf (t i) = none) : Registers keyOf t [] :=
  fun i => (h i).trans List.getElem?_nil.symm

/-- A change that leaves the key of every slot. -/
theorem Registers.congr {u : Table n α} (h : Registers keyOf t ks)
    (heq : ∀ i, keyOf (u i) = keyOf (t i)) : Registers keyOf u ks :=
  fun i => (heq i).trans (h i)

/-- The next key takes the next slot. -/
theorem Registers.concat (h : Registers keyOf t ks) (hlt : ks.length < n) {a : α} {k : κ}
    (ha : keyOf a = some k) :
    Registers keyOf (Function.update t ⟨ks.length, hlt⟩ a) (ks ++ [k]) := by
  intro i
  by_cases hi : i = ⟨ks.length, hlt⟩
  · subst hi
    simp [ha]
  · have hne : i.val ≠ ks.length := fun hval => hi (Fin.ext hval)
    rw [Function.update_of_ne hi, h i]
    rcases Nat.lt_or_gt_of_ne hne with hbelow | habove
    · rw [List.getElem?_append_left hbelow]
    · rw [List.getElem?_eq_none (by omega), List.getElem?_eq_none (by simp; omega)]

theorem exists_slot (hlen : ks.length ≤ n) {k : κ} (hk : k ∈ ks) :
    ∃ i : Fin n, ks[i.val]? = some k := by
  obtain ⟨i, hi, hget⟩ := List.mem_iff_getElem.mp hk
  exact ⟨⟨i, by omega⟩, List.getElem?_eq_some_iff.mpr ⟨hi, hget⟩⟩

section Search

variable [NeZero n]

/-- A registered key is found in its slot. -/
theorem Registers.findSlot_key (h : Registers keyOf t ks) (hnodup : ks.Nodup) {p : α → Bool}
    {k : κ} (hp : ∀ a, p a = true ↔ keyOf a = some k) {i : Fin n} (hi : ks[i.val]? = some k) :
    t.findSlot p = some i := by
  refine findSlot_eq_some_of_unique ((hp _).mpr ((h i).trans hi)) fun j hj => ?_
  have hj' : ks[j.val]? = some k := (h j).symm.trans ((hp _).mp hj)
  obtain ⟨hlt, -⟩ := List.getElem?_eq_some_iff.mp hj'
  exact Fin.ext ((List.getElem?_inj hlt hnodup).mp (hj'.trans hi.symm))

theorem Registers.findSlot_key_none (h : Registers keyOf t ks) {p : α → Bool} {k : κ}
    (hp : ∀ a, p a = true ↔ keyOf a = some k) (hk : k ∉ ks) : t.findSlot p = none := by
  refine findSlot_eq_none.mpr fun i => Bool.eq_false_iff.mpr fun hi => hk ?_
  exact List.mem_of_getElem? ((h i).symm.trans ((hp _).mp hi))

/-- The first free slot is the next one. -/
theorem Registers.findSlot_free (h : Registers keyOf t ks) {p : α → Bool}
    (hp : ∀ a, p a = true ↔ keyOf a = none) (hlt : ks.length < n) :
    t.findSlot p = some ⟨ks.length, hlt⟩ := by
  refine findSlot_eq_some_of_first ((hp _).mpr ((h _).trans ?_)) fun j hj => ?_
  · exact List.getElem?_eq_none (le_refl _)
  · refine Bool.eq_false_iff.mpr fun hfree => ?_
    have hnone := (h j).symm.trans ((hp _).mp hfree)
    have hj' : j.val < ks.length := hj
    rw [List.getElem?_eq_none_iff] at hnone
    omega

theorem Registers.findSlot_free_none (h : Registers keyOf t ks) {p : α → Bool}
    (hp : ∀ a, p a = true ↔ keyOf a = none) (hfull : n ≤ ks.length) : t.findSlot p = none := by
  refine findSlot_eq_none.mpr fun i => Bool.eq_false_iff.mpr fun hi => ?_
  have hnone := (h i).symm.trans ((hp _).mp hi)
  rw [List.getElem?_eq_none_iff] at hnone
  omega

omit [NeZero n] in
theorem sum_range_getElem? {κ : Type} (f : κ → Nat) (ks : List κ) :
    ∀ n, ks.length ≤ n → ((List.range n).map fun j => ks[j]?.elim 0 f).sum = (ks.map f).sum := by
  induction ks with
  | nil => simp [List.map_const']
  | cons k ks ih =>
    intro n hlen
    obtain ⟨m, rfl⟩ := Nat.exists_eq_succ_of_ne_zero (by simp at hlen; omega : n ≠ 0)
    rw [List.range_succ_eq_map, List.map_cons, List.sum_cons, List.map_map, List.map_cons,
      List.sum_cons, ← ih m (by simpa using hlen)]
    rfl

/-- A sum over the slots is a sum over the keys. -/
theorem Registers.sum_slots (h : Registers keyOf t ks) (hlen : ks.length ≤ n) {f : α → Nat}
    {g : κ → Nat} (hfg : ∀ i, f (t i) = (keyOf (t i)).elim 0 g) :
    ((slots n).map fun i => f (t i)).sum = (ks.map g).sum := by
  rw [← sum_range_getElem? g ks n hlen, slots, List.map_map, List.range_eq_range']
  refine congrArg List.sum (List.map_congr_left fun j hj => ?_)
  have hlt : j < n := by simpa using hj
  have hval : (Fin.ofNat n j).val = j := Nat.mod_eq_of_lt hlt
  rw [Function.comp_apply, hfg, h, hval]

/-- Find the slot of a key, or write `a` into the first free one. -/
def firstCome (t : Table n α) (isKey isFree : α → Bool) (a : α) : Option (Fin n) × Table n α :=
  match t.findSlot isKey with
  | some i => (some i, t)
  | none =>
    match t.findSlot isFree with
    | some i => (some i, Function.update t i a)
    | none => (none, t)

section FirstCome

variable [DecidableEq κ] {isKey isFree : α → Bool} {xs : List κ} {a : α} {k : κ}

/-- The key has a slot, or takes the next one, or there is none left. -/
theorem Registers.firstCome_cases (h : Registers keyOf t (firstKeys n xs))
    (hkey : ∀ a, isKey a = true ↔ keyOf a = some k) (hfree : ∀ a, isFree a = true ↔ keyOf a = none) :
    (∃ i : Fin n, (firstKeys n xs)[i.val]? = some k ∧
        firstCome t isKey isFree a = (some i, t) ∧ firstKeys n (xs ++ [k]) = firstKeys n xs) ∨
      (∃ hlt : (firstKeys n xs).length < n, k ∉ xs ∧
        firstCome t isKey isFree a =
          (some ⟨(firstKeys n xs).length, hlt⟩,
            Function.update t ⟨(firstKeys n xs).length, hlt⟩ a) ∧
        firstKeys n (xs ++ [k]) = firstKeys n xs ++ [k]) ∨
      (k ∉ firstKeys n xs ∧ firstCome t isKey isFree a = (none, t) ∧
        firstKeys n (xs ++ [k]) = firstKeys n xs) := by
  rw [firstKeys_concat]
  by_cases hk : k ∈ firstKeys n xs
  · obtain ⟨i, hi⟩ := exists_slot (length_firstKeys_le xs) hk
    refine .inl ⟨i, hi, ?_, if_pos (Or.inl hk)⟩
    rw [firstCome, h.findSlot_key (nodup_firstKeys xs) hkey hi]
  · have hnone := h.findSlot_key_none hkey hk
    by_cases hlt : (firstKeys n xs).length < n
    · refine .inr (.inl ⟨hlt, fun hmem => hk (mem_firstKeys_of_room hlt hmem), ?_, ?_⟩)
      · rw [firstCome, hnone, h.findSlot_free hfree hlt]
      · rw [if_neg (by simp [hk, hlt])]
    · refine .inr (.inr ⟨hk, ?_, if_pos (Or.inr (by omega))⟩)
      rw [firstCome, hnone, h.findSlot_free_none hfree (by omega)]

/-- The table registers one more key, and the slot that is returned is the one it has. -/
theorem Registers.firstCome_spec (h : Registers keyOf t (firstKeys n xs))
    (hkey : ∀ a, isKey a = true ↔ keyOf a = some k) (hfree : ∀ a, isFree a = true ↔ keyOf a = none)
    (ha : keyOf a = some k) :
    Registers keyOf (t.firstCome isKey isFree a).2 (firstKeys n (xs ++ [k])) ∧
      ∀ i, (t.firstCome isKey isFree a).1 = some i ↔
        (firstKeys n (xs ++ [k]))[i.val]? = some k := by
  have hnodup := nodup_firstKeys (n := n) (xs ++ [k])
  rcases h.firstCome_cases (a := a) hkey hfree with
    ⟨i, hi, hcome, heq⟩ | ⟨hlt, -, hcome, heq⟩ | ⟨hk, hcome, heq⟩
  · rw [hcome, heq]
    refine ⟨h, fun j => ⟨fun hj => ?_, fun hj => ?_⟩⟩
    · cases hj
      exact hi
    · obtain ⟨hilt, -⟩ := List.getElem?_eq_some_iff.mp hi
      rw [heq] at hnodup
      exact congrArg some (Fin.ext ((List.getElem?_inj hilt hnodup).mp (hi.trans hj.symm)))
  · rw [hcome]
    refine ⟨heq ▸ h.concat hlt ha, fun j => ⟨fun hj => ?_, fun hj => ?_⟩⟩
    · cases hj
      simp [heq]
    · rw [heq] at hj hnodup
      have hlast : (firstKeys n xs ++ [k])[(firstKeys n xs).length]? = some k := by simp
      obtain ⟨hilt, -⟩ := List.getElem?_eq_some_iff.mp hlast
      exact congrArg some (Fin.ext ((List.getElem?_inj hilt hnodup).mp (hlast.trans hj.symm)))
  · rw [hcome, heq]
    refine ⟨h, fun j => ⟨fun hj => (by cases hj), fun hj => ?_⟩⟩
    exact absurd (List.mem_of_getElem? hj) hk

end FirstCome

end Search

end Table

end RdmaGateway.Foundation
