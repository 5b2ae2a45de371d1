/-
  Reassembly/Locking.lean --- the locks of `src/jitter_buffer.c`.

  `jitter_buffer_t` holds one lock, and every write context one more.  Here the
  functions of the file run with the lock calls in the places the source has
  them; what they do to the data is the model of `Reassembly.JitterBuffer`.  A
  `memset` over a context and `rte_spinlock_init` both leave a free lock.
-/
import RdmaGateway.Foundation.Lock
import RdmaGateway.Reassembly.JitterBuffer

set_option autoImplicit false

namespace RdmaGateway.Reassembly.Locked

open RdmaGateway.Foundation
open RdmaGateway.Foundation.Thread
open RdmaGateway.Dpdk
open RdmaGateway.Roce

/-- The locks of one `jitter_buffer_t`. -/
inductive JbLock where
  /-- `jb->global_lock` -/
  | global
  /-- `jb->writes[i].lock` -/
  | write (i : Fin jbMaxPendingWrites)
  deriving DecidableEq

variable {μ α : Type}

/-- A program over one buffer. -/
abbrev JbThread (μ α : Type) : Type := Thread JbLock (JitterBuffer μ × Io μ) α

/-- `jb_init`: every lock of the buffer lies in the memory it clears. -/
def jbInit : JbThread μ Unit := fun g => some ((), .free JbLock (Reassembly.jbInit, g.data.2))

/-- `jb_get_or_create_write`. -/
def jbGetOrCreateWrite (qpn firstPsn : Nat) : JbThread μ (Option (Fin jbMaxPendingWrites)) := do
  acquire .global
  let (jb, io) ← read
  match jb.writes.findSlot fun ctx => ctx.qpn == qpn && decide (0 < ctx.segmentCount) with
  | some i =>
    release .global
    return some i
  | none =>
    match jb.writes.findSlot fun ctx => ctx.segmentCount == 0 && ctx.qpn == 0 with
    | some i =>
      write ({ jb.setWrite i (.opened qpn firstPsn) with
        activeWriteCount := add32 jb.activeWriteCount 1 }, io)
      release (.write i)
      release .global
      return some i
    | none =>
      release .global
      return none

/-- The rest of `jb_add_seg`, once it has a context. -/
def jbStore (i : Fin jbMaxPendingWrites) (psn : Nat) (segmentType : WriteSegmentType) (m : μ) :
    JbThread μ Int := do
  acquire (.write i)
  let (jb, io) ← read
  let ctx := jb.writes i
  if (ctx.segments.get (psnForwardDist ctx.firstPsn psn)).state = .received then
    release (.write i)
    release .global
    write (jb, rtePktmbufFree m io)
    return 0
  else
    write (jb.setWrite i (jbStoreSeg ctx psn segmentType m), io)
    release (.write i)
    release .global
    return 1

/-- `jb_add_seg`.  It calls `jb_get_or_create_write` with the global lock taken. -/
def jbAddSeg (qpn psn : Nat) (segmentType : WriteSegmentType) (m : μ) : JbThread μ Int := do
  acquire .global
  let (jb, _) ← read
  match jbFind jb qpn with
  | some i => jbStore i psn segmentType m
  | none =>
    match ← jbGetOrCreateWrite qpn psn with
    | none =>
      release .global
      return -1
    | some i => jbStore i psn segmentType m

/-- `jb_is_write_complete`. -/
def jbIsWriteComplete (qpn : Nat) : JbThread μ Bool := do
  acquire .global
  let (jb, _) ← read
  let complete :=
    match jbFind jb qpn with
    | some i => (jb.writes i).writeComplete
    | none => false
  release .global
  return complete

/-- `jb_get_ordered_segs`. -/
def jbGetOrderedSegs (qpn : Nat) : JbThread μ (Int × List μ) := do
  acquire .global
  let (jb, _) ← read
  match jbFind jb qpn with
  | none =>
    release .global
    return (-1, [])
  | some i =>
    acquire (.write i)
    let scanned := jbScan (jb.writes i).segments jbMaxSegments 0
    release (.write i)
    release .global
    return match scanned with
      | some out => (0, out)
      | none => (-1, [])

/-- `jb_remove_write`. -/
def jbRemoveWrite (qpn : Nat) : JbThread μ Unit := do
  acquire .global
  let (jb, io) ← read
  match jbFind jb qpn with
  | none => release .global
  | some i =>
    write ({ jb.setWrite i .zero with
        activeWriteCount := sub32 jb.activeWriteCount 1 },
      (jb.writes i).held.foldl (fun io m => rtePktmbufFree m io) io)
    release (.write i)
    release .global

/-- `jb_check_missing`. -/
def jbCheckMissing (qpn : Nat) : JbThread μ Nat := do
  acquire .global
  let (jb, _) ← read
  match jbFind jb qpn with
  | none =>
    release .global
    return 0
  | some i =>
    acquire (.write i)
    let ctx := jb.writes i
    let missingPsn :=
      if (ctx.segments.get (psnForwardDist ctx.firstPsn ctx.expectedPsn)).state ≠ .received
      then ctx.expectedPsn else 0
    release (.write i)
    release .global
    return missingPsn

/-! ## From free locks to free locks -/

section Free

variable (jb : JitterBuffer μ) (io : Io μ)

/-- A buffer with its locks free. -/
abbrev idle : Guarded JbLock (JitterBuffer μ × Io μ) := .free JbLock (jb, io)

variable {jb io}

theorem idle_global_held : (idle jb io).held .global = false := rfl

/-- Taking the global lock leaves the locks of the contexts free. -/
theorem global_write_held (i : Fin jbMaxPendingWrites) :
    ((idle jb io).lock .global).held (.write i) = false := by
  rw [Guarded.lock_held_of_ne _ (by simp)]
  rfl

/-- A context's lock that is free stays free when it is cleared under the global
one. -/
@[simp] theorem global_unlock_write (i : Fin jbMaxPendingWrites) :
    ((idle jb io).lock .global).unlock (.write i) = (idle jb io).lock .global := by
  rw [Guarded.lock_unlock_of_ne _ (by simp), Guarded.free_unlock]

variable (jb io)

theorem jbGetOrCreateWrite_run (qpn firstPsn : Nat) :
    (jbGetOrCreateWrite qpn firstPsn).run (idle jb io) =
      some ((Reassembly.jbGetOrCreateWrite jb qpn firstPsn).1,
        idle (Reassembly.jbGetOrCreateWrite jb qpn firstPsn).2 io) := by
  rw [jbGetOrCreateWrite, run_acquire_bind idle_global_held, Reassembly.jbGetOrCreateWrite]
  simp only [run_read_bind, Guarded.lock_data, Guarded.free_data]
  cases jb.writes.findSlot fun ctx => ctx.qpn == qpn && decide (0 < ctx.segmentCount) with
  | some i => simp
  | none =>
    cases jb.writes.findSlot fun ctx => ctx.segmentCount == 0 && ctx.qpn == 0 with
    | none => simp
    | some i =>
      -- the new context's lock is cleared while the global one is held
      simp

/-- The rest of `jb_add_seg` gives both locks back. -/
theorem jbStore_run (i : Fin jbMaxPendingWrites) (psn : Nat) (ty : WriteSegmentType) (m : μ) :
    (jbStore i psn ty m).run ((idle jb io).lock .global) =
      if ((jb.writes i).segments.get (psnForwardDist (jb.writes i).firstPsn psn)).state =
          .received
      then some (0, idle jb (rtePktmbufFree m io))
      else some (1, idle (jb.setWrite i (jbStoreSeg (jb.writes i) psn ty m)) io) := by
  rw [jbStore, run_acquire_bind (global_write_held i), run_read_bind, Guarded.lock_data,
    Guarded.lock_data, Guarded.free_data]
  dsimp only
  split
  · simp
  · simp

/-- With a context for the QPN, `jb_add_seg` runs to its end. -/
theorem jbAddSeg_run {qpn : Nat} {i : Fin jbMaxPendingWrites} (h : jbFind jb qpn = some i)
    (psn : Nat) (ty : WriteSegmentType) (m : μ) :
    (jbAddSeg qpn psn ty m).run (idle jb io) =
      some ((Reassembly.jbAddSeg jb qpn psn ty m io).1,
        idle (Reassembly.jbAddSeg jb qpn psn ty m io).2.1
          (Reassembly.jbAddSeg jb qpn psn ty m io).2.2) := by
  rw [jbAddSeg, run_acquire_bind idle_global_held, Reassembly.jbAddSeg]
  simp only [run_read_bind, Guarded.lock_data, Guarded.free_data, h, jbStore_run]
  split <;> rfl

/-- Without one, it takes the global lock a second time. -/
theorem jbAddSeg_blocks {qpn : Nat} (h : jbFind jb qpn = none) (psn : Nat)
    (ty : WriteSegmentType) (m : μ) : (jbAddSeg qpn psn ty m).run (idle jb io) = none := by
  rw [jbAddSeg, run_acquire_bind idle_global_held]
  simp only [run_read_bind, Guarded.lock_data, Guarded.free_data, h]
  refine run_bind_of_none ?_ _
  exact run_acquire_bind_of_held (Guarded.lock_held_self _ _) _

theorem jbIsWriteComplete_run (qpn : Nat) :
    (jbIsWriteComplete qpn).run (idle jb io) =
      some (Reassembly.jbIsWriteComplete jb qpn, idle jb io) := by
  rw [jbIsWriteComplete, run_acquire_bind idle_global_held, Reassembly.jbIsWriteComplete]
  simp only [run_read_bind, run_release_bind, Guarded.lock_data, Guarded.free_data,
    Guarded.lock_unlock_self, Guarded.free_unlock]
  rfl

theorem jbGetOrderedSegs_run (qpn : Nat) :
    (jbGetOrderedSegs qpn).run (idle jb io) =
      some (Reassembly.jbGetOrderedSegs jb qpn, idle jb io) := by
  rw [jbGetOrderedSegs, run_acquire_bind idle_global_held, Reassembly.jbGetOrderedSegs]
  simp only [run_read_bind, Guarded.lock_data, Guarded.free_data]
  cases jbFind jb qpn with
  | none => simp
  | some i =>
    simp only [run_acquire_bind (global_write_held i), run_release_bind,
      Guarded.lock_unlock_self, global_unlock_write, Guarded.free_unlock]
    rfl

theorem jbRemoveWrite_run (qpn : Nat) :
    (jbRemoveWrite qpn).run (idle jb io) =
      some ((), idle (Reassembly.jbRemoveWrite jb qpn io).1
        (Reassembly.jbRemoveWrite jb qpn io).2) := by
  rw [jbRemoveWrite, run_acquire_bind idle_global_held, Reassembly.jbRemoveWrite]
  simp only [run_read_bind, Guarded.lock_data, Guarded.free_data]
  cases jbFind jb qpn with
  | none => simp
  | some i =>
    simp

theorem jbCheckMissing_run (qpn : Nat) :
    (jbCheckMissing qpn).run (idle jb io) =
      some (Reassembly.jbCheckMissing jb qpn, idle jb io) := by
  rw [jbCheckMissing, run_acquire_bind idle_global_held, Reassembly.jbCheckMissing]
  simp only [run_read_bind, Guarded.lock_data, Guarded.free_data]
  cases jbFind jb qpn with
  | none => simp
  | some i =>
    simp only [run_acquire_bind (global_write_held i), run_release_bind,
      Guarded.lock_unlock_self, global_unlock_write, Guarded.free_unlock]
    rfl

end Free

end RdmaGateway.Reassembly.Locked
