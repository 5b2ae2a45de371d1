/-
  `Foundation.Crc`: a reflected CRC register as a linear map.

  Shifting the register by one bit is linear over exclusive or, and one-to-one when
  the polynomial has its top bit.  All else follows: eight shifts can be read from a
  table of the low octet, four octets can be fed as one word, and two messages that
  differ in one word only have different remainders.
-/
import Mathlib.Algebra.Order.Ring.Nat
import Mathlib.Data.List.Basic
import Mathlib.Logic.Function.Iterate

set_option autoImplicit false

namespace RdmaGateway.Foundation

section Shift

variable {w : Nat} (p : BitVec w)

/-- One shift of the register over the polynomial `p`. -/
def crcShift (c : BitVec w) : BitVec w := (c >>> 1) ^^^ bif c.getLsbD 0 then p else 0

theorem crcShift_xor (a b : BitVec w) : crcShift p (a ^^^ b) = crcShift p a ^^^ crcShift p b := by
  simp only [crcShift, BitVec.ushiftRight_xor_distrib, BitVec.getLsbD_xor]
  generalize a >>> 1 = x
  generalize b >>> 1 = y
  have hself : x ^^^ y = x ^^^ p ^^^ (y ^^^ p) := by
    rw [BitVec.xor_comm y p, BitVec.xor_assoc, ← BitVec.xor_assoc p p y, BitVec.xor_self,
      BitVec.zero_xor]
  cases a.getLsbD 0 <;> cases b.getLsbD 0
  · simp
  · simp [BitVec.xor_assoc]
  · simp only [Bool.xor_false, cond_true, cond_false, BitVec.ofNat_eq_ofNat, BitVec.xor_zero]
    rw [BitVec.xor_assoc, BitVec.xor_comm y p, ← BitVec.xor_assoc]
  · simpa using hself

/-- A register whose lowest bit is clear only moves. -/
theorem crcShift_of_even {c : BitVec w} (h : c.getLsbD 0 = false) : crcShift p c = c >>> 1 := by
  simp [crcShift, h]

theorem iterate_crcShift_of_low {k : Nat} {c : BitVec w} (h : ∀ i < k, c.getLsbD i = false) :
    (crcShift p)^[k] c = c >>> k := by
  induction k generalizing c with
  | zero => simp
  | succ k ih =>
    rw [Function.iterate_succ_apply, crcShift_of_even p (h 0 (Nat.succ_pos k)), ih,
      ← BitVec.shiftRight_add, Nat.add_comm]
    intro i hi
    rw [BitVec.getLsbD_ushiftRight, Nat.add_comm]
    exact h (i + 1) (by omega)

/-- The bit that is shifted out can be read from the top bit of the result. -/
theorem crcShift_injective {p : BitVec w} (hp : p.getLsbD (w - 1) = true) :
    Function.Injective (crcShift p) := by
  have hw : 0 < w := by
    by_contra hw
    rw [BitVec.getLsbD_of_ge p _ (by omega)] at hp
    cases hp
  have htop : ∀ c : BitVec w, (crcShift p c).getLsbD (w - 1) = c.getLsbD 0 := by
    intro c
    rw [crcShift, BitVec.getLsbD_xor, BitVec.getLsbD_ushiftRight,
      BitVec.getLsbD_of_ge c _ (by omega), Bool.false_xor]
    cases c.getLsbD 0 <;> simp [hp]
  intro a b hab
  have hlow : a.getLsbD 0 = b.getLsbD 0 := by rw [← htop a, ← htop b, hab]
  have hrest : a >>> 1 = b >>> 1 := by
    rw [crcShift, crcShift, hlow] at hab
    exact (BitVec.xor_left_inj _).mp hab
  refine BitVec.eq_of_getLsbD_eq fun i hi => ?_
  cases i with
  | zero => exact hlow
  | succ i =>
    have hbit := congrArg (BitVec.getLsbD · i) hrest
    simpa [Nat.add_comm] using hbit

theorem iterate_xor {f : BitVec w → BitVec w} (hf : ∀ a b, f (a ^^^ b) = f a ^^^ f b) (n : Nat)
    (a b : BitVec w) : f^[n] (a ^^^ b) = f^[n] a ^^^ f^[n] b := by
  induction n generalizing a b with
  | zero => rfl
  | succ n ih => rw [Function.iterate_succ_apply, hf, ih]; rfl

end Shift

section Octets

variable (p : BitVec 32)

/-- Eight shifts of the register. -/
def crcOctet (c : BitVec 32) : BitVec 32 := (crcShift p)^[8] c

theorem crcOctet_xor (a b : BitVec 32) : crcOctet p (a ^^^ b) = crcOctet p a ^^^ crcOctet p b :=
  iterate_xor (crcShift_xor p) 8 a b

theorem crcOctet_injective {p : BitVec 32} (hp : p.getLsbD 31 = true) :
    Function.Injective (crcOctet p) :=
  (crcShift_injective hp).iterate 8

/-- An octet that stands in a higher place moves down to the next one. -/
theorem crcOctet_shiftLeft {c : BitVec 32} (hc : c.toNat < 16777216) :
    crcOctet p (c <<< 8) = c := by
  have hlow : ∀ i < 8, (c <<< 8).getLsbD i = false := by
    intro i hi
    simp [BitVec.getLsbD_shiftLeft, hi]
  rw [crcOctet, iterate_crcShift_of_low p hlow]
  apply BitVec.eq_of_toNat_eq
  rw [BitVec.toNat_ushiftRight, BitVec.toNat_shiftLeft, Nat.shiftLeft_eq, Nat.shiftRight_eq_div_pow]
  omega

theorem crcOctet_zero : crcOctet p 0#32 = 0#32 :=
  crcOctet_shiftLeft p (c := 0#32) (by decide)

/-- The low octet of a word and the rest of it. -/
theorem split_low_octet (c : BitVec 32) : c = (c &&& 255#32) ^^^ ((c >>> 8) <<< 8) := by
  refine BitVec.eq_of_getLsbD_eq fun i hi => ?_
  have hmask : (255#32).getLsbD i = decide (i < 8) := by
    have hbit : Nat.testBit 255 i = decide (i < 8) := Nat.testBit_two_pow_sub_one 8 i
    rw [BitVec.getLsbD_ofNat, hbit, decide_eq_true hi, Bool.true_and]
  rw [BitVec.getLsbD_xor, BitVec.getLsbD_and, hmask, BitVec.getLsbD_shiftLeft,
    BitVec.getLsbD_ushiftRight]
  by_cases hlow : i < 8
  · simp [hlow]
  · rw [Nat.add_sub_cancel' (by omega : 8 ≤ i)]
    simp [hlow, hi]

/-- Eight shifts, from a table of the low octet. -/
theorem crcOctet_low (c : BitVec 32) : crcOctet p c = crcOctet p (c &&& 255#32) ^^^ (c >>> 8) := by
  have hrest : (c >>> 8).toNat < 16777216 := by
    have hlt := c.isLt
    rw [BitVec.toNat_ushiftRight, Nat.shiftRight_eq_div_pow]
    omega
  conv => lhs; rw [split_low_octet c, crcOctet_xor, crcOctet_shiftLeft p hrest]

theorem iterate_crcOctet_zero (n : Nat) : (crcOctet p)^[n] 0#32 = 0#32 := by
  induction n with
  | zero => rfl
  | succ n ih => rw [Function.iterate_succ_apply, crcOctet_zero, ih]

theorem iterate_crcOctet_low (n : Nat) (c : BitVec 32) :
    (crcOctet p)^[n + 1] c = (crcOctet p)^[n + 1] (c &&& 255#32) ^^^ (crcOctet p)^[n] (c >>> 8) := by
  rw [Function.iterate_succ_apply, crcOctet_low, iterate_xor (crcOctet_xor p)]
  rfl

/-- Four octets and more, each from the table of its distance to the end. -/
theorem iterate_crcOctet_octets (n : Nat) (c : BitVec 32) :
    (crcOctet p)^[n + 4] c =
      (crcOctet p)^[n + 4] (c &&& 255#32) ^^^ (crcOctet p)^[n + 3] (c >>> 8 &&& 255#32) ^^^
        (crcOctet p)^[n + 2] (c >>> 16 &&& 255#32) ^^^
        (crcOctet p)^[n + 1] (c >>> 24 &&& 255#32) := by
  have hshift : ∀ i j, c >>> i >>> j = c >>> (i + j) := fun i j => (BitVec.shiftRight_add c i j).symm
  have hend : c >>> 32 = 0#32 := BitVec.ushiftRight_eq_zero (Nat.le_refl 32)
  rw [iterate_crcOctet_low p (n + 3), iterate_crcOctet_low p (n + 2) (c >>> 8),
    iterate_crcOctet_low p (n + 1) (c >>> 8 >>> 8), iterate_crcOctet_low p n (c >>> 8 >>> 8 >>> 8)]
  simp only [hshift, Nat.reduceAdd, hend, iterate_crcOctet_zero, BitVec.xor_zero, BitVec.xor_assoc]

/-- An octet that is fed after eight shifts could have been fed before them, one place
higher. -/
theorem crcOctet_feed (c : BitVec 32) {d : BitVec 32} (hd : d.toNat < 16777216) :
    crcOctet p c ^^^ d = crcOctet p (c ^^^ d <<< 8) := by
  rw [crcOctet_xor, crcOctet_shiftLeft p hd]

/-- Feed octets one after the other. -/
def crcFeed (c : BitVec 32) (ds : List (BitVec 32)) : BitVec 32 :=
  ds.foldl (fun c d => crcOctet p (c ^^^ d)) c

/-- Four octets can be fed at once. -/
theorem crcFeed_word (c : BitVec 32) {d₀ d₁ d₂ d₃ : BitVec 32} (h₁ : d₁.toNat < 256)
    (h₂ : d₂.toNat < 256) (h₃ : d₃.toNat < 256) :
    crcFeed p c [d₀, d₁, d₂, d₃] =
      (crcOctet p)^[4] (c ^^^ (d₀ ^^^ d₁ <<< 8 ^^^ d₂ <<< 16 ^^^ d₃ <<< 24)) := by
  have hup : ∀ {d : BitVec 32} (k : Nat), d.toNat < 256 → k ≤ 16 →
      (d <<< k).toNat < 16777216 := by
    intro d k hd hk
    rw [BitVec.toNat_shiftLeft, Nat.shiftLeft_eq]
    have hpow : 2 ^ k ≤ 2 ^ 16 := Nat.pow_le_pow_right (by decide) hk
    calc d.toNat * 2 ^ k % 2 ^ 32 ≤ d.toNat * 2 ^ k := Nat.mod_le _ _
      _ ≤ 255 * 2 ^ 16 := Nat.mul_le_mul (by omega) hpow
      _ < 16777216 := by decide
  have hd : ∀ {d : BitVec 32}, d.toNat < 256 → d.toNat < 16777216 := by
    intro d hd
    omega
  simp only [crcFeed, List.foldl_cons, List.foldl_nil]
  rw [crcOctet_feed p _ (hd h₁), crcOctet_feed p _ (hd h₂), crcOctet_feed p _ (hup 8 h₂ (by decide)),
    crcOctet_feed p _ (hd h₃), crcOctet_feed p _ (hup 8 h₃ (by decide)),
    ← BitVec.shiftLeft_add, ← BitVec.shiftLeft_add,
    crcOctet_feed p _ (hup 16 h₃ (by decide)), ← BitVec.shiftLeft_add]
  simp only [Function.iterate_succ_apply, Function.iterate_zero_apply, BitVec.xor_assoc]

/-- What is fed later does not hide a difference. -/
theorem crcFeed_injective {p : BitVec 32} (hp : p.getLsbD 31 = true) (ds : List (BitVec 32)) :
    Function.Injective (crcFeed p · ds) := by
  induction ds with
  | nil => exact fun _ _ h => h
  | cons d ds ih =>
    intro a b hab
    exact (BitVec.xor_left_inj d).mp (crcOctet_injective hp (ih hab))

end Octets

end RdmaGateway.Foundation
