/-
  `Foundation.Reads`: programs that read bytes, and which bytes they read.

  A `Reads α` is the tree of a parser: at each node a byte is read, and what comes next
  may depend on it.  `value` runs it over a memory and `touched` lists the offsets it
  read on the way.  `Within b len p` says that no offset at or past `len` is touched, and
  `need` is the least such `len` (`within_iff`).  Over a sequence of steps it is the larger
  of the two (`need_bind`), so the need of a whole parser is computed branch by branch.
-/
import RdmaGateway.Foundation.ByteMem

set_option autoImplicit false

namespace RdmaGateway.Foundation

/-- A program that reads bytes one after the other. -/
inductive Reads (α : Type) where
  | done (a : α)
  | byte (off : Nat) (next : UInt8 → Reads α)

namespace Reads

variable {α β : Type}

/-- What the program computes. -/
def value : Reads α → ByteMem → α
  | done a, _ => a
  | byte off next, b => (next (b off)).value b

/-- The offsets it reads. -/
def touched : Reads α → ByteMem → List Nat
  | done _, _ => []
  | byte off next, b => off :: (next (b off)).touched b

/-- No offset that is read lies at or past `len`. -/
def Within (b : ByteMem) (len : Nat) (p : Reads α) : Prop := ∀ k ∈ p.touched b, k < len

/-- One past the highest offset it reads. -/
def need : Reads α → ByteMem → Nat
  | done _, _ => 0
  | byte off next, b => max (off + 1) ((next (b off)).need b)

/-- Another program with the result. -/
def bind : Reads α → (α → Reads β) → Reads β
  | done a, f => f a
  | byte off next, f => byte off fun v => (next v).bind f

instance : Monad Reads where
  pure := done
  bind := bind

section Laws

variable (b : ByteMem) (len : Nat) (p : Reads α) (f : α → Reads β)

@[simp] theorem value_pure (a : α) : (pure a : Reads α).value b = a := rfl

@[simp] theorem need_pure (a : α) : (pure a : Reads α).need b = 0 := rfl

theorem within_iff : p.Within b len ↔ p.need b ≤ len := by
  induction p with
  | done a => exact iff_of_true (fun _ hk => absurd hk List.not_mem_nil) (Nat.zero_le len)
  | byte off next ih =>
    rw [need, max_le_iff, ← ih (b off)]
    exact List.forall_mem_cons

@[simp] theorem value_bind : (p >>= f).value b = (f (p.value b)).value b := by
  induction p with
  | done a => rfl
  | byte off next ih => exact ih (b off)

@[simp] theorem need_bind : (p >>= f).need b = max (p.need b) ((f (p.value b)).need b) := by
  induction p with
  | done a => exact (Nat.zero_max _).symm
  | byte off next ih => exact (congrArg (max (off + 1)) (ih (b off))).trans (max_assoc _ _ _).symm

@[simp] theorem value_ite (c : Prop) [Decidable c] (p q : Reads α) :
    (if c then p else q).value b = if c then p.value b else q.value b := by
  split <;> rfl

@[simp] theorem need_ite (c : Prop) [Decidable c] (p q : Reads α) :
    (if c then p else q).need b = if c then p.need b else q.need b := by
  split <;> rfl

end Laws

/-! ## Words -/

/-- Read one byte. -/
def ld8 (off : Nat) : Reads Nat := byte off fun v => pure v.toNat

/-- Read a 16-bit word. -/
def ld16 (off : Nat) : Reads Nat := do
  let lo ← ld8 off
  let hi ← ld8 (off + 1)
  pure (lo + 256 * hi)

/-- Read a 32-bit word. -/
def ld32 (off : Nat) : Reads Nat := do
  let v₀ ← ld8 off
  let v₁ ← ld8 (off + 1)
  let v₂ ← ld8 (off + 2)
  let v₃ ← ld8 (off + 3)
  pure (v₀ + 256 * v₁ + 65536 * v₂ + 16777216 * v₃)

/-- Run the same program for each entry of a list. -/
def each (f : α → Reads β) : List α → Reads (List β)
  | [] => pure []
  | a :: as => do
    let v ← f a
    let vs ← each f as
    pure (v :: vs)

/-- Read `n` consecutive bytes. -/
def bytes (off n : Nat) : Reads (List UInt8) :=
  each (fun i => byte (off + i) pure) (List.range n)

section Words

variable (b : ByteMem) (len off : Nat)

@[simp] theorem value_ld8 : (ld8 off).value b = b.ld8 off := by
  rw [ld8, value, value_pure, ByteMem.ld8]

@[simp] theorem need_ld8 : (ld8 off).need b = off + 1 := Nat.max_zero _

@[simp] theorem value_ld16 : (ld16 off).value b = b.ld16 off := by
  simp only [ld16, value_bind, value_ld8, value_pure, ByteMem.ld16]

@[simp] theorem need_ld16 : (ld16 off).need b = off + 2 := by
  simp only [ld16, need_bind, need_ld8, need_pure]
  omega

@[simp] theorem value_ld32 : (ld32 off).value b = b.ld32 off := by
  simp only [ld32, value_bind, value_ld8, value_pure, ByteMem.ld32]

@[simp] theorem need_ld32 : (ld32 off).need b = off + 4 := by
  simp only [ld32, need_bind, need_ld8, need_pure]
  omega

@[simp] theorem value_each (f : α → Reads β) (as : List α) :
    (each f as).value b = as.map fun a => (f a).value b := by
  induction as with
  | nil => rfl
  | cons a as ih => rw [each, value_bind, value_bind, value_pure, ih, List.map_cons]

theorem need_each_le (f : α → Reads β) (as : List α) :
    (each f as).need b ≤ len ↔ ∀ a ∈ as, (f a).need b ≤ len := by
  induction as with
  | nil => exact iff_of_true (Nat.zero_le len) fun _ ha => absurd ha List.not_mem_nil
  | cons a as ih =>
    rw [each, need_bind, need_bind, need_pure, Nat.max_zero, max_le_iff, ih, List.forall_mem_cons]

/-- Words that follow one another: the last one counts. -/
theorem need_each_range (f : Nat → Reads α) (width n : Nat)
    (hf : ∀ i, (f i).need b = off + width * (i + 1)) :
    (each f (List.range n)).need b = if n = 0 then 0 else off + width * n := by
  refine eq_of_forall_ge_iff fun len => ?_
  simp only [need_each_le, List.mem_range, hf]
  cases n with
  | zero => exact iff_of_true (fun i hi => absurd hi (Nat.not_lt_zero i)) (Nat.zero_le len)
  | succ n =>
    rw [if_neg (Nat.succ_ne_zero n)]
    constructor
    · exact fun h => h n (Nat.lt_succ_self n)
    · intro h i hi
      have hle : width * (i + 1) ≤ width * (n + 1) := Nat.mul_le_mul_left width hi
      omega

theorem need_bytes (n : Nat) : (bytes off n).need b = if n = 0 then 0 else off + 1 * n :=
  need_each_range b off _ 1 n fun i => by
    rw [need, need_pure, Nat.max_zero]
    omega

end Words

end Reads

end RdmaGateway.Foundation
