/-
  `Foundation.ByteMem`: byte-addressed memory with little-endian loads and
  stores, and the byte swaps between host and network order.

  A little-endian machine that stores a byte-swapped word lays its bytes out in
  network order; reading it back takes a load and a second swap.  The lemmas
  here are the ones a header builder and a header reader need of each other:
  what a store leaves at its own offset, what it leaves everywhere else, and
  that swapping twice is the identity on a word of the right width.
-/
import Mathlib.Algebra.Order.Ring.Nat
import Mathlib.Data.Nat.Basic
import Mathlib.Logic.Function.Basic

set_option autoImplicit false

namespace RdmaGateway.Foundation

/-- Byte-addressed memory. -/
abbrev ByteMem : Type := Nat → UInt8

/-- Exchange the two bytes of a 16-bit word. -/
def bswap16 (v : Nat) : Nat := 256 * (v % 256) + v / 256 % 256

/-- Reverse the four bytes of a 32-bit word. -/
def bswap32 (v : Nat) : Nat :=
  16777216 * (v % 256) + 65536 * (v / 256 % 256) + 256 * (v / 65536 % 256) + v / 16777216 % 256

namespace ByteMem

/-- One byte. -/
def ld8 (b : ByteMem) (off : Nat) : Nat := (b off).toNat

/-- A little-endian 16-bit load. -/
def ld16 (b : ByteMem) (off : Nat) : Nat := b.ld8 off + 256 * b.ld8 (off + 1)

/-- A little-endian 32-bit load. -/
def ld32 (b : ByteMem) (off : Nat) : Nat :=
  b.ld8 off + 256 * b.ld8 (off + 1) + 65536 * b.ld8 (off + 2) + 16777216 * b.ld8 (off + 3)

/-- `len` consecutive bytes. -/
def ldBytes (b : ByteMem) (off len : Nat) : List UInt8 :=
  (List.range len).map fun i => b (off + i)

/-- Store the low byte of `v`. -/
def st8 (b : ByteMem) (off v : Nat) : ByteMem := Function.update b off (UInt8.ofNat v)

/-- A little-endian 16-bit store. -/
def st16 (b : ByteMem) (off v : Nat) : ByteMem := (b.st8 off v).st8 (off + 1) (v / 256)

/-- A little-endian 32-bit store. -/
def st32 (b : ByteMem) (off v : Nat) : ByteMem :=
  (((b.st8 off v).st8 (off + 1) (v / 256)).st8 (off + 2) (v / 65536)).st8 (off + 3)
    (v / 16777216)

/-- Copy a list of bytes to consecutive addresses. -/
def stBytes (b : ByteMem) (off : Nat) : List UInt8 → ByteMem
  | [] => b
  | v :: vs => stBytes (Function.update b off v) (off + 1) vs

/-- Set `len` consecutive bytes to one value. -/
def fill (b : ByteMem) (off len : Nat) (v : UInt8) : ByteMem := fun i =>
  if off ≤ i ∧ i < off + len then v else b i

theorem ld8_lt (b : ByteMem) (off : Nat) : b.ld8 off < 256 := (b off).toNat_lt

theorem ld8_st8 (b : ByteMem) (off v i : Nat) :
    (b.st8 off v).ld8 i = if i = off then v % 256 else b.ld8 i := by
  unfold st8 ld8
  by_cases h : i = off
  · subst h; simp
  · simp [h]

theorem ld8_st16 (b : ByteMem) (off v i : Nat) :
    (b.st16 off v).ld8 i =
      if i = off + 1 then v / 256 % 256 else if i = off then v % 256 else b.ld8 i := by
  simp only [st16, ld8_st8]

theorem ld8_st32 (b : ByteMem) (off v i : Nat) :
    (b.st32 off v).ld8 i =
      if i = off + 3 then v / 16777216 % 256
      else if i = off + 2 then v / 65536 % 256
      else if i = off + 1 then v / 256 % 256
      else if i = off then v % 256 else b.ld8 i := by
  simp only [st32, ld8_st8]

theorem ld8_stBytes_of_lt (vs : List UInt8) :
    ∀ (b : ByteMem) {off i : Nat}, i < off → (b.stBytes off vs).ld8 i = b.ld8 i := by
  induction vs with
  | nil => intro b off i _; rfl
  | cons v vs ih =>
    intro b off i hi
    rw [stBytes, ih _ (by omega)]
    simp [ld8, Function.update_of_ne (Nat.ne_of_lt hi)]

theorem ld8_stBytes_of_ge (vs : List UInt8) :
    ∀ (b : ByteMem) {off i : Nat}, off + vs.length ≤ i → (b.stBytes off vs).ld8 i = b.ld8 i := by
  induction vs with
  | nil => intro b off i _; rfl
  | cons v vs ih =>
    intro b off i hi
    simp only [List.length_cons] at hi
    rw [stBytes, ih _ (by omega)]
    simp [ld8, Function.update_of_ne (by omega : i ≠ off)]

theorem ld32_st32 (b : ByteMem) (off v : Nat) : (b.st32 off v).ld32 off = v % 4294967296 := by
  simp only [ld32, ld8_st32]
  simp
  omega

/-- A 32-bit load does not see a store to other bytes. -/
theorem ld32_st32_of_disjoint (b : ByteMem) {off i : Nat} (v : Nat)
    (h : i + 4 ≤ off ∨ off + 4 ≤ i) : (b.st32 off v).ld32 i = b.ld32 i := by
  simp only [ld32, ld8_st32]
  repeat rw [if_neg (by omega)]

theorem ld32_st8_of_disjoint (b : ByteMem) {off i : Nat} (v : Nat)
    (h : i + 4 ≤ off ∨ off < i) : (b.st8 off v).ld32 i = b.ld32 i := by
  simp only [ld32, ld8_st8]
  repeat rw [if_neg (by omega)]

theorem ld32_st16_of_disjoint (b : ByteMem) {off i : Nat} (v : Nat)
    (h : i + 4 ≤ off ∨ off + 2 ≤ i) : (b.st16 off v).ld32 i = b.ld32 i := by
  simp only [ld32, ld8_st16]
  repeat rw [if_neg (by omega)]

/-- A 32-bit load reads four bytes. -/
theorem ld32_congr {b b' : ByteMem} {i : Nat} (h : ∀ k, i ≤ k → b k = b' k) :
    b.ld32 i = b'.ld32 i := by
  simp only [ld32, ld8]
  rw [h i le_rfl, h (i + 1) (by omega), h (i + 2) (by omega), h (i + 3) (by omega)]

theorem ld16_lt (b : ByteMem) (off : Nat) : b.ld16 off < 65536 := by
  have h₀ := b.ld8_lt off
  have h₁ := b.ld8_lt (off + 1)
  unfold ld16
  omega

theorem bswap32_lt (v : Nat) : bswap32 v < 4294967296 := by
  unfold bswap32; omega

/-- The swap of a 32-bit word given by its bytes. -/
theorem bswap32_of_bytes {b₀ b₁ b₂ b₃ : Nat}
    (h₀ : b₀ < 256) (h₁ : b₁ < 256) (h₂ : b₂ < 256) (h₃ : b₃ < 256) :
    bswap32 (b₀ + b₁ * 256 + b₂ * 65536 + b₃ * 16777216) =
      b₃ + b₂ * 256 + b₁ * 65536 + b₀ * 16777216 := by
  have e₀ : (b₀ + b₁ * 256 + b₂ * 65536 + b₃ * 16777216) % 256 = b₀ := by omega
  have e₁ : (b₀ + b₁ * 256 + b₂ * 65536 + b₃ * 16777216) / 256 % 256 = b₁ := by omega
  have e₂ : (b₀ + b₁ * 256 + b₂ * 65536 + b₃ * 16777216) / 65536 % 256 = b₂ := by omega
  have e₃ : (b₀ + b₁ * 256 + b₂ * 65536 + b₃ * 16777216) / 16777216 % 256 = b₃ := by omega
  simp only [bswap32, e₀, e₁, e₂, e₃]
  omega

/-- Two swaps leave the low 32 bits. -/
theorem bswap32_bswap32 (v : Nat) : bswap32 (bswap32 v) = v % 4294967296 := by
  have hv : v % 4294967296 = v % 256 + v / 256 % 256 * 256 + v / 65536 % 256 * 65536 +
      v / 16777216 % 256 * 16777216 := by omega
  have hswap : bswap32 v = v / 16777216 % 256 + v / 65536 % 256 * 256 + v / 256 % 256 * 65536 +
      v % 256 * 16777216 := by
    unfold bswap32
    omega
  rw [hswap, bswap32_of_bytes (by omega) (by omega) (by omega) (by omega), hv]

end ByteMem

end RdmaGateway.Foundation
