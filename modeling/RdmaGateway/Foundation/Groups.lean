/-
  `Foundation.Groups`: a list in which the groups of several keys are interleaved.

  Every item carries a key, and some items end a group.  Within the items of one key a group
  runs up to and including an item that ends it; `wholeGroups` are the groups that have
  ended, `openGroup` is what has come of the next one.  `openKeys` lists the keys of which a
  group is open.
-/
import Mathlib.Data.List.Dedup
import Mathlib.Data.List.DropRight
import Mathlib.Data.List.Forall2

set_option autoImplicit false

namespace RdmaGateway.Foundation

variable {α β κ : Type}

/-- Related item by item, by way of a third list. -/
theorem forall₂_comp {γ : Type} {R : α → β → Prop} {S : β → γ → Prop} {T : α → γ → Prop}
    (hcomp : ∀ x y z, R x y → S y z → T x z) {xs : List α} {ys : List β} {zs : List γ}
    (hxy : List.Forall₂ R xs ys) (hyz : List.Forall₂ S ys zs) : List.Forall₂ T xs zs := by
  induction hxy generalizing zs with
  | nil =>
    cases hyz
    exact .nil
  | @cons x y xs ys hhead _ ih =>
    obtain ⟨z, zs, hhead', htail', rfl⟩ := List.forall₂_cons_left_iff.mp hyz
    exact .cons (hcomp x y z hhead hhead') (ih htail')

/-! ## One key -/

section Groups

variable (isLast : α → Bool)

/-- What follows the last item that ends a group. -/
def openGroup (xs : List α) : List α := xs.rtakeWhile fun x => !isLast x

/-- Everything up to the last item that ends a group. -/
def wholeGroups (xs : List α) : List α := xs.rdropWhile fun x => !isLast x

theorem wholeGroups_append_openGroup (xs : List α) :
    wholeGroups isLast xs ++ openGroup isLast xs = xs :=
  List.rdropWhile_append_rtakeWhile ..

variable {isLast} {x : α}

theorem openGroup_concat_of_last (xs : List α) (h : isLast x = true) :
    openGroup isLast (xs ++ [x]) = [] :=
  List.rtakeWhile_concat_neg _ _ _ (by simp [h])

theorem wholeGroups_concat_of_last (xs : List α) (h : isLast x = true) :
    wholeGroups isLast (xs ++ [x]) = xs ++ [x] :=
  List.rdropWhile_concat_neg _ _ _ (by simp [h])

theorem openGroup_concat (xs : List α) (h : isLast x = false) :
    openGroup isLast (xs ++ [x]) = openGroup isLast xs ++ [x] :=
  List.rtakeWhile_concat_pos _ _ _ (by simp [h])

theorem wholeGroups_concat (xs : List α) (h : isLast x = false) :
    wholeGroups isLast (xs ++ [x]) = wholeGroups isLast xs :=
  List.rdropWhile_concat_pos _ _ _ (by simp [h])

theorem not_last_of_mem_openGroup {xs : List α} (h : x ∈ openGroup isLast xs) :
    isLast x = false := by
  simpa using List.mem_rtakeWhile_imp h

/-- Two lists that agree on where groups end agree on which groups have ended. -/
theorem forall₂_wholeGroups {R : α → β → Prop} {isLast' : β → Bool}
    (hlast : ∀ x y, R x y → isLast x = isLast' y) {xs : List α} {ys : List β}
    (h : List.Forall₂ R xs ys) :
    List.Forall₂ R (wholeGroups isLast xs) (wholeGroups isLast' ys) := by
  have hdrop : ∀ {xs ys}, List.Forall₂ R xs ys →
      List.Forall₂ R (xs.dropWhile fun x => !isLast x) (ys.dropWhile fun y => !isLast' y) := by
    intro xs ys h
    induction h with
    | nil => exact .nil
    | @cons x y xs ys hxy hrest ih =>
      rw [List.dropWhile_cons, List.dropWhile_cons, hlast x y hxy]
      split
      · exact ih
      · exact .cons hxy hrest
  exact List.forall₂_reverse_iff.mpr (hdrop (List.forall₂_reverse_iff.mpr h))

end Groups

/-! ## All keys -/

section Keys

variable [DecidableEq κ] (key : α → κ) (isLast : α → Bool)

/-- The items of one key, in order. -/
def ofKey (k : κ) (xs : List α) : List α := xs.filter fun x => key x = k

/-- The keys of which a group is open, each once. -/
def openKeys (xs : List α) : List κ :=
  (xs.map key).dedup.filter fun k => !(openGroup isLast (ofKey key k xs)).isEmpty

variable {key isLast}

theorem ofKey_concat_self (xs : List α) (x : α) :
    ofKey key (key x) (xs ++ [x]) = ofKey key (key x) xs ++ [x] := by
  simp [ofKey]

theorem ofKey_concat_of_ne {k : κ} {x : α} (xs : List α) (h : key x ≠ k) :
    ofKey key k (xs ++ [x]) = ofKey key k xs := by
  simp [ofKey, h]

theorem mem_openKeys {k : κ} {xs : List α} (h : openGroup isLast (ofKey key k xs) ≠ []) :
    k ∈ openKeys key isLast xs := by
  refine List.mem_filter.mpr ⟨List.mem_dedup.mpr ?_, by simp [h]⟩
  obtain ⟨x, hx⟩ := List.exists_mem_of_ne_nil _ h
  have hmem : x ∈ ofKey key k xs := (List.rtakeWhile_suffix _ _).subset hx
  obtain ⟨hxs, hkey⟩ := List.mem_filter.mp hmem
  exact of_decide_eq_true hkey ▸ List.mem_map_of_mem hxs

/-- Two lists whose items agree on their keys agree on the items of each key. -/
theorem forall₂_ofKey {R : α → β → Prop} {key' : β → κ} (hkey : ∀ x y, R x y → key x = key' y)
    {xs : List α} {ys : List β} (h : List.Forall₂ R xs ys) (k : κ) :
    List.Forall₂ R (ofKey key k xs) (ofKey key' k ys) :=
  List.rel_filter (fun x y hxy => by dsimp only; rw [hkey x y hxy]) h

end Keys

end RdmaGateway.Foundation
