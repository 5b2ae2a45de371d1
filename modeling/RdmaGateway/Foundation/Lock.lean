/-
  `Foundation.Lock`: programs of one thread over data guarded by locks that are
  not recursive.

  A lock is a bit.  Taking a lock whose bit is set blocks the thread for ever,
  since the only thread that could clear it is the one that waits.  A program is
  a state transformer that may fail to come back: it blocks, or a loop is not
  done within the rounds it is given.  Both are `none`, so a run that ends in
  `some` has taken no lock it held already and has left every loop.  A program
  that comes back comes back in the same way with more rounds (`Grows`).
-/
import Mathlib.Algebra.Order.Ring.Nat
import Mathlib.Logic.Function.Basic

set_option autoImplicit false

namespace RdmaGateway.Foundation

/-- Data together with the bits of the locks that guard it. -/
structure Guarded (ι σ : Type) where
  held : ι → Bool
  data : σ

namespace Guarded

variable {ι σ : Type}

/-- Data whose locks are all free. -/
def free (ι : Type) {σ : Type} (d : σ) : Guarded ι σ := ⟨fun _ => false, d⟩

/-- No lock is held. -/
def AllFree (g : Guarded ι σ) : Prop := ∀ l, g.held l = false

/-- The same locks over other data. -/
def put (g : Guarded ι σ) (d : σ) : Guarded ι σ := { g with data := d }

theorem AllFree.eq_free {g : Guarded ι σ} (h : g.AllFree) : g = free ι g.data := by
  obtain ⟨held, d⟩ := g
  have hheld : held = fun _ => false := funext h
  subst hheld
  rfl

theorem free_allFree (d : σ) : (free ι d).AllFree := fun _ => rfl

@[simp] theorem free_held (d : σ) (l : ι) : (free ι d).held l = false := rfl
@[simp] theorem free_data (d : σ) : (free ι d).data = d := rfl
@[simp] theorem free_put (d d' : σ) : (free ι d).put d' = free ι d' := rfl

variable [DecidableEq ι]

/-- Set the bit of one lock. -/
def lock (g : Guarded ι σ) (l : ι) : Guarded ι σ :=
  { g with held := Function.update g.held l true }

/-- Clear the bit of one lock. -/
def unlock (g : Guarded ι σ) (l : ι) : Guarded ι σ :=
  { g with held := Function.update g.held l false }

@[simp] theorem lock_data (g : Guarded ι σ) (l : ι) : (g.lock l).data = g.data := rfl

@[simp] theorem lock_put (g : Guarded ι σ) (l : ι) (d : σ) :
    (g.lock l).put d = (g.put d).lock l := rfl

theorem lock_held_self (g : Guarded ι σ) (l : ι) : (g.lock l).held l = true := by
  simp [lock]

theorem lock_held_of_ne (g : Guarded ι σ) {l k : ι} (h : l ≠ k) :
    (g.lock k).held l = g.held l := by
  simp [lock, h]

@[simp] theorem free_unlock (d : σ) (l : ι) : (free ι d).unlock l = free ι d := by
  simp [unlock, free]

@[simp] theorem lock_unlock_self (g : Guarded ι σ) (l : ι) :
    (g.lock l).unlock l = g.unlock l := by
  simp [lock, unlock]

/-- Clearing one bit passes a set bit of another lock. -/
theorem lock_unlock_of_ne (g : Guarded ι σ) {l k : ι} (h : l ≠ k) :
    (g.lock k).unlock l = (g.unlock l).lock k := by
  simp [lock, unlock, Function.update_comm h]

end Guarded

/-- A program of one thread: what it returns and leaves, or `none` when it never
comes back. -/
abbrev Thread (ι σ α : Type) : Type := StateT (Guarded ι σ) Option α

namespace Thread

variable {ι σ α β : Type}

/-- Read the data. -/
def read : Thread ι σ σ := fun g => some (g.data, g)

/-- Write the data. -/
def write (d : σ) : Thread ι σ Unit := fun g => some ((), g.put d)

/-- Repeat `body` on the value it hands on until it gives a result, in at most `fuel`
rounds. -/
def loop (body : α → Thread ι σ (α ⊕ β)) : Nat → α → Thread ι σ β
  | 0, _ => fun _ => none
  | fuel + 1, a => do
    match ← body a with
    | .inl a => loop body fuel a
    | .inr b => pure b

variable [DecidableEq ι]

/-- Take a lock. -/
def acquire (l : ι) : Thread ι σ Unit := fun g =>
  if g.held l then none else some ((), g.lock l)

/-- Give a lock back. -/
def release (l : ι) : Thread ι σ Unit := fun g => some ((), g.unlock l)

/-! ## Running a program step by step -/

section Run

variable {g : Guarded ι σ}

omit [DecidableEq ι] in
@[simp] theorem run_read : (read : Thread ι σ σ).run g = some (g.data, g) := rfl

omit [DecidableEq ι] in
@[simp] theorem run_write (d : σ) : (write d : Thread ι σ Unit).run g = some ((), g.put d) := rfl

@[simp] theorem run_release (l : ι) :
    (release l : Thread ι σ Unit).run g = some ((), g.unlock l) := rfl

omit [DecidableEq ι] in
theorem run_read_bind (f : σ → Thread ι σ α) : (read >>= f).run g = (f g.data).run g := rfl

theorem run_release_bind (l : ι) (f : Unit → Thread ι σ α) :
    (release l >>= f).run g = (f ()).run (g.unlock l) := rfl

/-- A free lock is taken. -/
theorem run_acquire_bind {l : ι} (h : g.held l = false) (f : Unit → Thread ι σ α) :
    (acquire l >>= f).run g = (f ()).run (g.lock l) := by
  simp [acquire, StateT.run, bind, StateT.bind, h]

/-- A thread that asks for a lock it holds never comes back. -/
theorem run_acquire_bind_of_held {l : ι} (h : g.held l = true) (f : Unit → Thread ι σ α) :
    (acquire l >>= f).run g = none := by
  simp [acquire, StateT.run, bind, StateT.bind, h]

omit [DecidableEq ι] in
/-- A program that comes back hands its result to the next one. -/
theorem run_bind_of_some {p : Thread ι σ α} {a : α} {g' : Guarded ι σ}
    (h : p.run g = some (a, g')) (f : α → Thread ι σ β) :
    (p >>= f).run g = (f a).run g' := by
  rw [StateT.run_bind, h]
  rfl

omit [DecidableEq ι] in
/-- What follows a program that never comes back is not reached. -/
theorem run_bind_of_none {p : Thread ι σ α} (h : p.run g = none) (f : α → Thread ι σ β) :
    (p >>= f).run g = none := by
  rw [StateT.run_bind, h]
  rfl

omit [DecidableEq ι] in
/-- A round of a loop that hands a value on. -/
theorem run_loop_of_inl {body : α → Thread ι σ (α ⊕ β)} {a a' : α} {g' : Guarded ι σ}
    (h : (body a).run g = some (.inl a', g')) (fuel : Nat) :
    (loop body (fuel + 1) a).run g = (loop body fuel a').run g' := by
  rw [loop, run_bind_of_some h]

omit [DecidableEq ι] in
/-- A round of a loop that gives the result. -/
theorem run_loop_of_inr {body : α → Thread ι σ (α ⊕ β)} {a : α} {b : β} {g' : Guarded ι σ}
    (h : (body a).run g = some (.inr b, g')) (fuel : Nat) :
    (loop body (fuel + 1) a).run g = some (b, g') := by
  rw [loop, run_bind_of_some h]
  rfl

end Run

/-! ## More rounds -/

section Grows

/-- A program that comes back does so in the same way with more rounds. -/
def Grows (p : Nat → Thread ι σ α) : Prop :=
  ∀ fuel g r, (p fuel).run g = some r → (p (fuel + 1)).run g = some r

variable {p : Nat → Thread ι σ α}

omit [DecidableEq ι] in
theorem grows_const (q : Thread ι σ α) : Grows fun _ => q := fun _ _ _ h => h

omit [DecidableEq ι] in
theorem Grows.bind (h : Grows p) {f : Nat → α → Thread ι σ β} (hf : ∀ a, Grows fun n => f n a) :
    Grows fun n => p n >>= f n := by
  intro fuel g r hr
  rw [StateT.run_bind, Option.bind_eq_bind, Option.bind_eq_some_iff] at hr
  obtain ⟨⟨a, g'⟩, hp, hrest⟩ := hr
  rw [run_bind_of_some (h _ _ _ hp)]
  exact hf a _ _ _ hrest

omit [DecidableEq ι] in
theorem grows_loop (body : α → Thread ι σ (α ⊕ β)) (a : α) : Grows fun n => loop body n a := by
  intro fuel
  induction fuel generalizing a with
  | zero =>
    intro g r hr
    cases hr
  | succ fuel ih =>
    intro g r hr
    dsimp only at hr ⊢
    rw [loop, StateT.run_bind, Option.bind_eq_bind, Option.bind_eq_some_iff] at hr
    obtain ⟨⟨next, g'⟩, hbody, hrest⟩ := hr
    cases next with
    | inl a' =>
      rw [run_loop_of_inl hbody]
      exact ih a' _ _ hrest
    | inr b =>
      rw [run_loop_of_inr hbody]
      exact hrest

omit [DecidableEq ι] in
theorem Grows.of_le (h : Grows p) {fuel fuel' : Nat} (hle : fuel ≤ fuel') {g : Guarded ι σ}
    {r : α × Guarded ι σ} (hr : (p fuel).run g = some r) : (p fuel').run g = some r := by
  induction hle with
  | refl => exact hr
  | step _ ih => exact h _ _ _ ih

end Grows

end Thread

end RdmaGateway.Foundation
