/-
  `Foundation.Word`: unsigned machine arithmetic on natural numbers.

  A `w`-bit counter is a natural number below `2^w`; addition and subtraction
  wrap.  The operations are kept behind names so that a proof unfolds the wrap
  only where the value of the counter matters.
-/
import Mathlib.Algebra.Order.Ring.Nat
import Mathlib.Data.Nat.Basic

set_option autoImplicit false

namespace RdmaGateway.Foundation

/-- 32-bit addition. -/
def add32 (a b : Nat) : Nat := (a + b) % 4294967296

/-- 32-bit subtraction. -/
def sub32 (a b : Nat) : Nat := (a + (4294967296 - b % 4294967296)) % 4294967296

/-- 32-bit multiplication. -/
def mul32 (a b : Nat) : Nat := a * b % 4294967296

/-- 64-bit subtraction. -/
def sub64 (a b : Nat) : Nat :=
  (a + (18446744073709551616 - b % 18446744073709551616)) % 18446744073709551616

/-- 8-bit increment. -/
def inc8 (a : Nat) : Nat := (a + 1) % 256

theorem add32_of_lt {a b : Nat} (h : a + b < 4294967296) : add32 a b = a + b :=
  Nat.mod_eq_of_lt h

theorem sub32_of_le {a b : Nat} (ha : a < 4294967296) (h : b ≤ a) : sub32 a b = a - b := by
  unfold sub32
  omega

theorem sub64_of_le {a b : Nat} (ha : a < 18446744073709551616) (h : b ≤ a) : sub64 a b = a - b := by
  unfold sub64
  omega

end RdmaGateway.Foundation
