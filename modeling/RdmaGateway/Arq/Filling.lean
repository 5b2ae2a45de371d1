/-
  Arq/Filling.lean --- a window that is filled and never drained.

  As long as no feedback and no tick reaches a context, its base stays 0: the first
  256 sends are taken, one slot each, and every later one finds the slot of the
  first still in flight.  `FilledWith R` relates such a context to the list of what it
  was sent, through a relation between what was sent and the entry that holds it.
-/
import RdmaGateway.Arq.Slots

set_option autoImplicit false

namespace RdmaGateway.Arq

open RdmaGateway.Foundation
open RdmaGateway.Dpdk
open RdmaGateway.Roce

variable {μ α : Type} {R : α → ArqSendEntry μ → Prop} {arq : ArqContext μ} {xs : List α}

/-- The context was sent `xs` and nothing else happened to it. -/
structure FilledWith (R : α → ArqSendEntry μ → Prop) (arq : ArqContext μ) (xs : List α) : Prop where
  sendBase : arq.sendBase = 0
  sendNext : arq.sendNext = min windowSize xs.length
  held : ∀ (k : Nat) (h : k < xs.length), k < windowSize →
    (arq.entry k).inFlight = true ∧ R xs[k] (arq.entry k)
  free : ∀ k, xs.length ≤ k → k < windowSize → (arq.entry k).inFlight = false

theorem filledWith_fresh (qpn : Nat) : FilledWith R (.fresh qpn) [] :=
  ⟨rfl, rfl, fun _ h _ => absurd h (Nat.not_lt_zero _), fun _ _ _ => rfl⟩

theorem FilledWith.setPeerIp (h : FilledWith R arq xs) (peerIp : Nat) :
    FilledWith R (arqSetPeerIp arq peerIp) xs :=
  ⟨h.sendBase, h.sendNext, h.held, h.free⟩

/-- The slot of the next send is in flight from the 257th send on. -/
theorem FilledWith.inFlight_next (h : FilledWith R arq xs) :
    (arq.entry arq.sendNext).inFlight = true ↔ windowSize ≤ xs.length := by
  by_cases hfull : windowSize ≤ xs.length
  · have hslot : arq.entry arq.sendNext = arq.entry 0 := by
      rw [h.sendNext, Nat.min_eq_left hfull]
      exact entry_congr arq (by decide)
    rw [hslot]
    exact iff_of_true (h.held 0 (lt_of_lt_of_le (by decide) hfull) (by decide)).1 hfull
  · rw [h.sendNext, Nat.min_eq_right (by omega), h.free _ (le_refl _) (by omega)]
    simp [hfull]

theorem FilledWith.sent (h : FilledWith R arq xs) (hroom : xs.length < windowSize) {x : α} {m : μ}
    {psn now : Nat} {ty : WriteSegmentType} (hx : R x ⟨psn, some m, now, 0, ty, true⟩) :
    FilledWith R (arq.sent m psn ty now) (xs ++ [x]) := by
  have hnext : arq.sendNext = xs.length := by rw [h.sendNext, Nat.min_eq_right hroom.le]
  have hentry : ∀ k, k < windowSize → (arq.sent m psn ty now).entry k =
      if k = xs.length then ⟨psn, some m, now, 0, ty, true⟩ else arq.entry k := by
    intro k hk
    rw [sent_entry, hnext, Nat.mod_eq_of_lt hk, Nat.mod_eq_of_lt hroom]
  have hlen : (xs ++ [x]).length = xs.length + 1 := by simp
  refine ⟨h.sendBase, ?_, fun k hk hlt => ?_, fun k hk hlt => ?_⟩
  · have hadd : add32 arq.sendNext 1 = xs.length + 1 := by
      rw [hnext]
      exact add32_of_lt (by unfold windowSize at hroom; omega)
    rw [hlen, Nat.min_eq_right (by omega)]
    exact hadd
  · rw [hentry k hlt]
    split
    · rename_i hlast
      subst hlast
      exact ⟨rfl, by simpa using hx⟩
    · have hk' : k < xs.length := by omega
      rw [List.getElem_append_left hk']
      exact h.held k hk' hlt
  · rw [hentry k hlt, if_neg (by omega)]
    exact h.free k (by omega) hlt

/-- A window that is full stays as it is. -/
theorem FilledWith.refused (h : FilledWith R arq xs) (hfull : windowSize ≤ xs.length) (x : α) :
    FilledWith R arq (xs ++ [x]) := by
  have hlen : (xs ++ [x]).length = xs.length + 1 := by simp
  refine ⟨h.sendBase, ?_, fun k hk hlt => ?_, fun k hk hlt => by omega⟩
  · rw [h.sendNext, Nat.min_eq_left hfull, Nat.min_eq_left (by omega)]
  · rw [List.getElem_append_left (by omega)]
    exact h.held k (by omega) hlt

/-! ## The usage -/

/-- What `calculate_arq_window_usage` adds for a context. -/
def contextUsage (arq : ArqContext μ) : Nat :=
  if arq.qpn ≠ 0 then sub32 arq.sendNext arq.sendBase else 0

theorem FilledWith.usage (h : FilledWith R arq xs) :
    contextUsage arq = if arq.qpn ≠ 0 then min windowSize xs.length else 0 := by
  have hle : min windowSize xs.length ≤ windowSize := Nat.min_le_left _ _
  have hsub : sub32 arq.sendNext arq.sendBase = min windowSize xs.length := by
    rw [h.sendNext, h.sendBase]
    unfold sub32 windowSize at *
    omega
  rw [contextUsage, hsub]

theorem FilledWith.usage_le (h : FilledWith R arq xs) : contextUsage arq ≤ windowSize := by
  rw [h.usage]
  split
  · exact Nat.min_le_left _ _
  · exact Nat.zero_le _

/-- As long as no context exceeds its window, the 32-bit sum is the sum. -/
theorem calculateArqWindowUsage_eq_sum {mgr : ArqManager μ}
    (h : ∀ i, contextUsage (mgr.contexts i) ≤ windowSize) :
    calculateArqWindowUsage mgr =
      ((Table.slots maxQpCtx).map fun i => contextUsage (mgr.contexts i)).sum := by
  have hfold : ∀ (is : List (Fin maxQpCtx)) (used : Nat),
      used + is.length * windowSize < 4294967296 →
      is.foldl (fun used i =>
        if (mgr.contexts i).qpn ≠ 0
        then add32 used (sub32 (mgr.contexts i).sendNext (mgr.contexts i).sendBase)
        else used) used = used + (is.map fun i => contextUsage (mgr.contexts i)).sum := by
    intro is
    induction is with
    | nil => exact fun used _ => rfl
    | cons i is ih =>
      intro used hroom
      rw [List.length_cons, Nat.succ_mul] at hroom
      have hi := h i
      have hone : (if (mgr.contexts i).qpn ≠ 0
          then add32 used (sub32 (mgr.contexts i).sendNext (mgr.contexts i).sendBase)
          else used) = used + contextUsage (mgr.contexts i) := by
        unfold contextUsage at hi ⊢
        split
        · rename_i hused
          rw [if_pos hused] at hi
          exact add32_of_lt (by omega)
        · rfl
      rw [List.foldl_cons, hone, ih _ (by omega), List.map_cons, List.sum_cons, Nat.add_assoc]
  have htotal := hfold (Table.slots maxQpCtx) 0 (by rw [Table.length_slots]; decide)
  rw [Nat.zero_add] at htotal
  exact htotal

end RdmaGateway.Arq
