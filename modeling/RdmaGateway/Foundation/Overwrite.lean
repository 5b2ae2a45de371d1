/-
  `Foundation.Overwrite`: code that fills in a memory it did not clear.

  `Overwrites W f` says that `f` stores values of its own in the bytes of `W`, the same
  ones over every memory, and leaves the other bytes.  The footprint of a sequence of
  stores is the union of theirs, and a store may use a value computed from bytes stored
  before (`Overwrites.st32_of`).  Two runs over different memories then differ exactly
  where the memories did, outside of `W` (`Overwrites.eq_iff`).
-/
import RdmaGateway.Foundation.ByteMem

set_option autoImplicit false

namespace RdmaGateway.Foundation

/-- The footprint of `f` is `W`: bytes in it do not depend on the memory, the others stay. -/
structure Overwrites (W : Nat → Prop) (f : ByteMem → ByteMem) : Prop where
  written : ∀ b b' k, W k → f b k = f b' k
  kept : ∀ b k, ¬ W k → f b k = b k

section Compose

variable {W W' : Nat → Prop} {f g : ByteMem → ByteMem}

/-- One part after the other. -/
theorem Overwrites.comp (hf : Overwrites W f) (hg : Overwrites W' g) :
    Overwrites (fun k => W k ∨ W' k) (fun b => g (f b)) where
  written := by
    intro b b' k hk
    by_cases hlast : W' k
    · exact hg.written _ _ k hlast
    · rw [hg.kept _ k hlast, hg.kept _ k hlast]
      exact hf.written b b' k (hk.resolve_right hlast)
  kept := by
    intro b k hk
    rw [hg.kept _ k fun h => hk (Or.inr h), hf.kept b k fun h => hk (Or.inl h)]

/-- The same footprint in other words. -/
theorem Overwrites.congr (hf : Overwrites W f) (hW : ∀ k, W k ↔ W' k) : Overwrites W' f where
  written := fun b b' k hk => hf.written b b' k ((hW k).mpr hk)
  kept := fun b k hk => hf.kept b k fun h => hk ((hW k).mp h)

/-- Two runs agree on a byte that is written, and on another one if the memories do. -/
theorem Overwrites.eq_iff (hf : Overwrites W f) (b b' : ByteMem) (k : Nat) :
    f b k = f b' k ↔ (¬ W k → b k = b' k) := by
  by_cases hk : W k
  · exact iff_of_true (hf.written b b' k hk) fun h => absurd hk h
  · rw [hf.kept b k hk, hf.kept b' k hk]
    exact ⟨fun h _ => h, fun h => h hk⟩

end Compose

/-! ## Stores -/

theorem overwrites_update (off : Nat) (v : UInt8) :
    Overwrites (fun k => k = off) (fun b => Function.update b off v) where
  written := by
    rintro b b' k rfl
    rw [Function.update_self, Function.update_self]
  kept := fun b k hk => Function.update_of_ne hk v b

theorem overwrites_st8 (off v : Nat) :
    Overwrites (fun k => off ≤ k ∧ k < off + 1) (fun b => b.st8 off v) :=
  (overwrites_update off (UInt8.ofNat v)).congr fun k => by omega

theorem overwrites_st16 (off v : Nat) :
    Overwrites (fun k => off ≤ k ∧ k < off + 2) (fun b => b.st16 off v) :=
  ((overwrites_st8 off v).comp (overwrites_st8 (off + 1) (v / 256))).congr fun k => by omega

theorem overwrites_st32 (off v : Nat) :
    Overwrites (fun k => off ≤ k ∧ k < off + 4) (fun b => b.st32 off v) :=
  ((((overwrites_st8 off v).comp (overwrites_st8 (off + 1) (v / 256))).comp
    (overwrites_st8 (off + 2) (v / 65536))).comp
      (overwrites_st8 (off + 3) (v / 16777216))).congr fun k => by omega

theorem overwrites_stBytes (vs : List UInt8) : ∀ off,
    Overwrites (fun k => off ≤ k ∧ k < off + vs.length) (fun b => b.stBytes off vs) := by
  induction vs with
  | nil => exact fun off => ⟨fun _ _ k hk => absurd hk (by simp), fun _ _ _ => rfl⟩
  | cons v vs ih =>
    intro off
    refine ((overwrites_update off v).comp (ih (off + 1))).congr fun k => ?_
    rw [List.length_cons]
    omega

theorem overwrites_fill (off len : Nat) (v : UInt8) :
    Overwrites (fun k => off ≤ k ∧ k < off + len) (fun b => b.fill off len v) where
  written := by
    intro b b' k hk
    rw [ByteMem.fill, ByteMem.fill, if_pos hk, if_pos hk]
  kept := by
    intro b k hk
    rw [ByteMem.fill, if_neg hk]

/-- The store of a word computed from bytes that have been written. -/
theorem Overwrites.st32_of {W : Nat → Prop} {f : ByteMem → ByteMem} (hf : Overwrites W f)
    (off : Nat) {word : ByteMem → Nat}
    (hword : ∀ b b', (∀ k, W k → b k = b' k) → word b = word b') :
    Overwrites (fun k => W k ∨ off ≤ k ∧ k < off + 4) (fun b => (f b).st32 off (word (f b))) where
  written := by
    intro b b' k hk
    have hsame : word (f b) = word (f b') := hword _ _ (hf.written b b')
    rw [hsame]
    exact (hf.comp (overwrites_st32 off (word (f b')))).written b b' k hk
  kept := by
    intro b k hk
    exact (hf.comp (overwrites_st32 off (word (f b)))).kept b k hk

end RdmaGateway.Foundation
