/-
  `Foundation.Ledger`: an account that events pay into and draw from.

  `delta e` is what event `e` adds to the account.  `Moves` says that a list of
  events takes the balance from one value to another without overdrawing the
  account on the way; it composes along the order of the events, so the balance
  after a whole run is known from what each step does, and so is that no step ever
  drew on an empty account.  Where the account is kept in the entries of a table,
  `sum_update` says what replacing one entry does to it, and `Ring.count_set` what it
  does to a number of entries.
-/
import Mathlib.Algebra.Order.Ring.Nat
import Mathlib.Algebra.BigOperators.Fin
import Mathlib.Algebra.Order.BigOperators.Group.Finset
import RdmaGateway.Foundation.Ring

set_option autoImplicit false

namespace RdmaGateway.Foundation

variable {ε : Type} (delta : ε → Int)

/-- What a list of events adds to the account. -/
def balance (ev : List ε) : Int := (ev.map delta).sum

@[simp] theorem balance_nil : balance delta [] = 0 := rfl

@[simp] theorem balance_cons (e : ε) (ev : List ε) :
    balance delta (e :: ev) = delta e + balance delta ev := by
  simp [balance]

@[simp] theorem balance_append (ev ev' : List ε) :
    balance delta (ev ++ ev') = balance delta ev + balance delta ev' := by
  simp [balance]

/-- From balance `b` the events lead to balance `b'`, and after no event is the
balance negative. -/
def Moves : Int → List ε → Int → Prop
  | b, [], b' => 0 ≤ b ∧ b' = b
  | b, e :: ev, b' => 0 ≤ b ∧ Moves (b + delta e) ev b'

variable {delta} {b b' b'' : Int} {ev ev' : List ε}

theorem Moves.nil (hb : 0 ≤ b) : Moves delta b [] b := ⟨hb, rfl⟩

theorem Moves.start (h : Moves delta b ev b') : 0 ≤ b := by
  cases ev <;> exact h.1

theorem Moves.eq (h : Moves delta b ev b') : b' = b + balance delta ev := by
  induction ev generalizing b with
  | nil => simpa using h.2
  | cons e ev ih =>
    rw [ih h.2, balance_cons]
    omega

theorem Moves.append (h : Moves delta b ev b') (h' : Moves delta b' ev' b'') :
    Moves delta b (ev ++ ev') b'' := by
  induction ev generalizing b with
  | nil =>
    obtain ⟨-, rfl⟩ := h
    exact h'
  | cons e ev ih => exact ⟨h.1, ih h.2⟩

/-- One event. -/
theorem Moves.single {e : ε} (hb : 0 ≤ b) (hb' : 0 ≤ b + delta e) :
    Moves delta b [e] (b + delta e) :=
  ⟨hb, hb', rfl⟩

/-- The balance is not negative after any initial part of the events. -/
theorem Moves.prefix_nonneg (h : Moves delta b ev b') {p : List ε} (hp : p <+: ev) :
    0 ≤ b + balance delta p := by
  induction p generalizing b ev with
  | nil => simpa using h.start
  | cons e p ih =>
    obtain ⟨rest, rfl⟩ := hp
    have hrest := ih h.2 ⟨rest, rfl⟩
    rw [balance_cons]
    omega

/-- Events that draw nothing lead somewhere. -/
theorem moves_of_nonneg (hb : 0 ≤ b) (hev : ∀ e ∈ ev, 0 ≤ delta e) : ∃ b', Moves delta b ev b' := by
  induction ev generalizing b with
  | nil => exact ⟨b, .nil hb⟩
  | cons e ev ih =>
    have he := hev e (by simp)
    obtain ⟨b', hmoves⟩ := ih (b := b + delta e) (by omega) fun e' he' => hev e' (by simp [he'])
    exact ⟨b', hb, hmoves⟩

theorem Moves.final (h : Moves delta b ev b') : 0 ≤ b' := by
  have hend := h.prefix_nonneg (List.prefix_refl ev)
  rwa [← h.eq] at hend

/-- Events that change nothing. -/
theorem balance_eq_zero (hev : ∀ e ∈ ev, delta e = 0) : balance delta ev = 0 := by
  induction ev with
  | nil => rfl
  | cons e ev ih =>
    rw [balance_cons, hev e (by simp), ih fun e' he' => hev e' (by simp [he'])]
    rfl

/-- Another account that sees the same changes under other names. -/
theorem Moves.map {η : Type} {delta' : η → Int} {f : ε → η} (hf : ∀ e, delta' (f e) = delta e)
    (h : Moves delta b ev b') : Moves delta' b (ev.map f) b' := by
  induction ev generalizing b with
  | nil => exact h
  | cons e ev ih =>
    refine ⟨h.1, ?_⟩
    rw [hf]
    exact ih h.2

/-- A sum over a table after one entry was replaced. -/
theorem sum_update {n : Nat} {α : Type} (f : α → Int) (t : Table n α) (i : Fin n) (v : α) :
    ∑ k, f (Function.update t i v k) + f (t i) = ∑ k, f (t k) + f v := by
  have hrest : ∑ k ∈ Finset.univ.erase i, f (Function.update t i v k) =
      ∑ k ∈ Finset.univ.erase i, f (t k) :=
    Finset.sum_congr rfl fun k hk => by rw [Function.update_of_ne (Finset.ne_of_mem_erase hk)]
  have hnew := Finset.add_sum_erase Finset.univ (fun k => f (Function.update t i v k))
    (Finset.mem_univ i)
  have hold := Finset.add_sum_erase Finset.univ (fun k => f (t k)) (Finset.mem_univ i)
  rw [hrest] at hnew
  rw [← hnew, ← hold, Function.update_self]
  omega

/-- The number of cells that pass a test. -/
def Ring.count {n : Nat} {α : Type} (r : Ring n α) (p : α → Bool) : Nat :=
  (Finset.univ.filter fun k => p (r.cell k) = true).card

/-- One cell more or less. -/
theorem Ring.count_set {n : Nat} [NeZero n] {α : Type} (r : Ring n α) (p : α → Bool) (i : Nat)
    (v : α) : (r.set i v).count p + (p (r.get i)).toNat = r.count p + (p v).toNat := by
  have hcard : ∀ r : Ring n α, (r.count p : Int) = ∑ k, ((p (r.cell k)).toNat : Int) := by
    intro r
    rw [Ring.count, Finset.card_filter, Nat.cast_sum]
    exact Finset.sum_congr rfl fun k _ => by cases p (r.cell k) <;> rfl
  have hsum := sum_update (fun c => ((p c).toNat : Int)) r.cell (Ring.slot n i) v
  have hset : ((r.set i v).count p : Int) =
      ∑ k, ((p (Function.update r.cell (Ring.slot n i) v k)).toNat : Int) := hcard _
  have hget : p (r.get i) = p (r.cell (Ring.slot n i)) := rfl
  rw [← hset, ← hcard r, ← hget] at hsum
  omega

end RdmaGateway.Foundation
