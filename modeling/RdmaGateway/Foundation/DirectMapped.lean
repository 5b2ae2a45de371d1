/-
  `Foundation.DirectMapped`: what a direct-mapped cache knows.

  A key has one cell of the `n`, and a write for another key of that cell forgets it.
  `Remembers` says without the cells what is known of a key after a list of writes: the
  value last written for it, unless a key of the same cell was written later.  `cached`
  finds that value (`cached_eq_some_iff`), and a ring whose entries carry their keys finds
  the same, whatever else an entry carries (`Ring.Caches.set`).
-/
import Mathlib.Data.List.Induction
import RdmaGateway.Foundation.Ring

set_option autoImplicit false

namespace RdmaGateway.Foundation

section Cached

variable {β : Type} {n : Nat}

/-- After the writes `ws` the value of key `k` is `v`: a write said so, and no later one was
for a key of the same cell. -/
def Remembers (n : Nat) (ws : List (Nat × β)) (k : Nat) (v : β) : Prop :=
  ∃ before after, ws = before ++ (k, v) :: after ∧ ∀ w ∈ after, w.1 % n ≠ k % n

/-- The value of the last write to the cell of key `k`, if that write was for `k`. -/
def cached (n : Nat) (ws : List (Nat × β)) (k : Nat) : Option β :=
  (ws.reverse.find? fun w => w.1 % n == k % n).bind fun w => if w.1 = k then some w.2 else none

@[simp] theorem cached_nil (k : Nat) : cached n ([] : List (Nat × β)) k = none := rfl

/-- One more write. -/
theorem cached_concat (ws : List (Nat × β)) (w : Nat × β) (k : Nat) :
    cached n (ws ++ [w]) k =
      if w.1 % n = k % n then if w.1 = k then some w.2 else none else cached n ws k := by
  rw [cached, List.reverse_append, List.reverse_singleton, List.singleton_append, List.find?_cons]
  by_cases hcell : w.1 % n = k % n
  · simp [hcell]
  · rw [if_neg hcell, beq_false_of_ne hcell]
    rfl

theorem cached_eq_some_iff {ws : List (Nat × β)} {k : Nat} {v : β} :
    cached n ws k = some v ↔ Remembers n ws k v := by
  induction ws using List.reverseRecOn with
  | nil => simp [Remembers]
  | append_singleton ws w ih =>
    rw [cached_concat]
    constructor
    · intro h
      split at h
      · split at h
        · rename_i hkey
          have hw : w = (k, v) := Prod.ext hkey (Option.some.inj h)
          exact ⟨ws, [], by rw [hw], fun _ hx => absurd hx (by simp)⟩
        · cases h
      · rename_i hcell
        obtain ⟨before, after, rfl, hafter⟩ := ih.mp h
        refine ⟨before, after ++ [w], by simp, fun x hx => ?_⟩
        rcases List.mem_append.mp hx with hx | hx
        · exact hafter x hx
        · rw [List.mem_singleton.mp hx]
          exact hcell
    · rintro ⟨before, after, heq, hafter⟩
      rcases List.eq_nil_or_concat after with rfl | ⟨after, x, rfl⟩
      · obtain ⟨-, hw⟩ := List.append_inj' heq rfl
        obtain rfl := List.head_eq_of_cons_eq hw
        rw [if_pos rfl, if_pos rfl]
      · have hsplit : ws ++ [w] = (before ++ (k, v) :: after) ++ [x] := by simpa using heq
        obtain ⟨hws, hw⟩ := List.append_inj' hsplit rfl
        obtain rfl := List.head_eq_of_cons_eq hw
        rw [if_neg (hafter w (by simp))]
        exact ih.mpr ⟨before, after, hws, fun x hx => hafter x (by simp [hx])⟩

theorem not_remembers_of_cached_none {ws : List (Nat × β)} {k : Nat} (h : cached n ws k = none)
    (v : β) : ¬ Remembers n ws k v := by
  rw [← cached_eq_some_iff, h]
  exact Option.some_ne_none v ∘ Eq.symm

/-- A look with a value to fall back on. -/
theorem cached_getD (ws : List (Nat × β)) (k : Nat) (fallback : β) :
    Remembers n ws k ((cached n ws k).getD fallback) ∨
      (∀ v, ¬ Remembers n ws k v) ∧ (cached n ws k).getD fallback = fallback := by
  cases hcached : cached n ws k with
  | some v => exact Or.inl (cached_eq_some_iff.mp hcached)
  | none => exact Or.inr ⟨not_remembers_of_cached_none hcached, rfl⟩

end Cached

namespace Ring

variable {n : Nat} [NeZero n] {α β : Type} {entry : α → Option (Nat × β)} {r : Ring n α}

/-- What the cell of a key says of it. -/
def lookup (entry : α → Option (Nat × β)) (r : Ring n α) (k : Nat) : Option β :=
  (entry (r.get k)).bind fun e => if e.1 = k then some e.2 else none

/-- The ring knows what a cache knows after the writes `ws`. -/
def Caches (entry : α → Option (Nat × β)) (r : Ring n α) (ws : List (Nat × β)) : Prop :=
  ∀ k, r.lookup entry k = cached n ws k

theorem caches_const {a : α} (h : entry a = none) : (const n a).Caches entry [] := by
  intro k
  rw [lookup, get_const, h]
  rfl

theorem Caches.set {ws : List (Nat × β)} (h : r.Caches entry ws) {k : Nat} {v : β} {a : α}
    (ha : entry a = some (k, v)) : (r.set k a).Caches entry (ws ++ [(k, v)]) := by
  intro k'
  rw [cached_concat, lookup, get_set]
  by_cases hcell : k' % n = k % n
  · rw [if_pos hcell, if_pos hcell.symm, ha]
    rfl
  · rw [if_neg hcell, if_neg fun hsame => hcell hsame.symm]
    exact h k'

end Ring

end RdmaGateway.Foundation
