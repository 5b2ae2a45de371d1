/-
  Reassembly/JitterBuffer.lean --- the WAN-side reassembly buffer of
  `src/jitter_buffer.c`.

  The buffer is a table of 64 write contexts, one QPN each, and a context is a
  ring of 256 segment slots indexed by the distance of a segment's PSN from the
  PSN that opened the context.  Spinlocks are no-ops here;
  `Reassembly.Locking` has them.  `recv_time` is written and never read, and is left
  out.

  A return code is the C one: `jb_add_seg` answers `-1` (no slot left), `0`
  (duplicate, freed) or `1` (stored), and `jb_get_ordered_segs` answers `0` with
  the packets of a complete context or `-1` with none.
-/
import RdmaGateway.Foundation.Ring
import RdmaGateway.Foundation.Word
import RdmaGateway.Roce.Psn

set_option autoImplicit false

namespace RdmaGateway.Reassembly

open RdmaGateway.Foundation
open RdmaGateway.Dpdk
open RdmaGateway.Roce

/-- `JB_MAX_SEGMENTS` -/
abbrev jbMaxSegments : Nat := 256
/-- `JB_MAX_PENDING_WRITES` -/
abbrev jbMaxPendingWrites : Nat := 64

/-- `jb_segment_state_t` -/
inductive JbSegmentState where
  | free
  | received
  | waiting
  deriving DecidableEq, Repr, Inhabited

/-- `jb_segment_t` -/
structure JbSegment (μ : Type) where
  psn : Nat
  mbuf : Option μ
  state : JbSegmentState
  segmentType : WriteSegmentType

/-- `jb_write_context_t` -/
structure JbWriteContext (μ : Type) where
  qpn : Nat
  expectedPsn : Nat
  segments : Ring jbMaxSegments (JbSegment μ)
  firstPsn : Nat
  segmentCount : Nat
  writeComplete : Bool

/-- `jitter_buffer_t` -/
structure JitterBuffer (μ : Type) where
  writes : Table jbMaxPendingWrites (JbWriteContext μ)
  activeWriteCount : Nat

variable {μ : Type}

/-- A slot after `memset` to zero. -/
def JbSegment.zero : JbSegment μ := ⟨0, none, .free, .none⟩

/-- A context after `memset` to zero. -/
def JbWriteContext.zero : JbWriteContext μ :=
  ⟨0, 0, Ring.const jbMaxSegments JbSegment.zero, 0, 0, false⟩

/-- `jb_init`. -/
def jbInit : JitterBuffer μ := ⟨fun _ => JbWriteContext.zero, 0⟩

/-- Replace one write context. -/
def JitterBuffer.setWrite (jb : JitterBuffer μ) (i : Fin jbMaxPendingWrites)
    (ctx : JbWriteContext μ) : JitterBuffer μ :=
  { jb with writes := Function.update jb.writes i ctx }

/-- `jb_find`. -/
def jbFind (jb : JitterBuffer μ) (qpn : Nat) : Option (Fin jbMaxPendingWrites) :=
  jb.writes.findSlot fun ctx => ctx.qpn == qpn

/-- The context `jb_get_or_create_write` sets up in a free slot. -/
def JbWriteContext.opened (qpn firstPsn : Nat) : JbWriteContext μ :=
  { JbWriteContext.zero with qpn := qpn, expectedPsn := firstPsn, firstPsn := firstPsn }

/-- `jb_get_or_create_write`: the slot found or set up, and the buffer after. -/
def jbGetOrCreateWrite (jb : JitterBuffer μ) (qpn firstPsn : Nat) :
    Option (Fin jbMaxPendingWrites) × JitterBuffer μ :=
  match jb.writes.findSlot fun ctx => ctx.qpn == qpn && decide (0 < ctx.segmentCount) with
  | some i => (some i, jb)
  | none =>
    match jb.writes.findSlot fun ctx => ctx.segmentCount == 0 && ctx.qpn == 0 with
    | some i =>
      (some i, { jb.setWrite i (.opened qpn firstPsn) with
        activeWriteCount := add32 jb.activeWriteCount 1 })
    | none => (none, jb)

/-- The loop of `jb_add_seg` that turns the free slots between the expected PSN
and the arriving one into waiting slots. -/
def jbMarkWaiting (firstPsn expected dist : Nat) (segs : Ring jbMaxSegments (JbSegment μ)) :
    Ring jbMaxSegments (JbSegment μ) :=
  (List.range dist).foldl (fun segs i =>
    let checkIdx := psnForwardDist firstPsn (psnAdd expected i)
    if (segs.get checkIdx).state = .free
    then segs.set checkIdx { segs.get checkIdx with state := .waiting }
    else segs) segs

/-- The part of `jb_add_seg` that stores into a slot it found not received. -/
def jbStoreSeg (ctx : JbWriteContext μ) (psn : Nat) (segmentType : WriteSegmentType) (m : μ) :
    JbWriteContext μ :=
  let idx := psnForwardDist ctx.firstPsn psn
  let segs := ctx.segments.set idx ⟨psn, some m, .received, segmentType⟩
  let dist := psnForwardDist ctx.expectedPsn psn
  { ctx with
    segments :=
      if dist = 0 then segs
      else if dist < jbMaxSegments then jbMarkWaiting ctx.firstPsn ctx.expectedPsn dist segs
      else segs
    segmentCount := ctx.segmentCount + 1
    expectedPsn := if dist = 0 then psnAdd ctx.expectedPsn 1 else ctx.expectedPsn
    writeComplete := segmentType.isFinal || ctx.writeComplete }

/-- `jb_add_seg`. -/
def jbAddSeg (jb : JitterBuffer μ) (qpn psn : Nat) (segmentType : WriteSegmentType) (m : μ)
    (io : Io μ) : Int × JitterBuffer μ × Io μ :=
  let (found, jb) :=
    match jbFind jb qpn with
    | some i => (some i, jb)
    | none => jbGetOrCreateWrite jb qpn psn
  match found with
  | none => (-1, jb, io)
  | some i =>
    let ctx := jb.writes i
    if (ctx.segments.get (psnForwardDist ctx.firstPsn psn)).state = .received then
      (0, jb, rtePktmbufFree m io)
    else
      (1, jb.setWrite i (jbStoreSeg ctx psn segmentType m), io)

/-- `jb_is_write_complete`. -/
def jbIsWriteComplete (jb : JitterBuffer μ) (qpn : Nat) : Bool :=
  match jbFind jb qpn with
  | some i => (jb.writes i).writeComplete
  | none => false

/-- The scan of `jb_get_ordered_segs` over the `fuel` slots from `i` on: `none`
when it meets a slot that is not received before a final segment. -/
def jbScan (segs : Ring jbMaxSegments (JbSegment μ)) : Nat → Nat → Option (List μ)
  | 0, _ => some []
  | fuel + 1, i =>
    let seg := segs.get i
    match seg.state with
    | .free => none
    | .waiting => none
    | .received =>
      if seg.segmentType.isFinal then some seg.mbuf.toList
      else (jbScan segs fuel (i + 1)).map (seg.mbuf.toList ++ ·)

/-- `jb_get_ordered_segs`: the return code and `out[0 .. count)`. -/
def jbGetOrderedSegs (jb : JitterBuffer μ) (qpn : Nat) : Int × List μ :=
  match jbFind jb qpn with
  | none => (-1, [])
  | some i =>
    match jbScan (jb.writes i).segments jbMaxSegments 0 with
    | some out => (0, out)
    | none => (-1, [])

/-- The buffers a context still holds, in slot order. -/
def JbWriteContext.held (ctx : JbWriteContext μ) : List μ :=
  (List.range jbMaxSegments).filterMap fun j => (ctx.segments.get j).mbuf

/-- `jb_remove_write`: free every buffer the context holds and wipe it. -/
def jbRemoveWrite (jb : JitterBuffer μ) (qpn : Nat) (io : Io μ) : JitterBuffer μ × Io μ :=
  match jbFind jb qpn with
  | none => (jb, io)
  | some i =>
    ({ jb.setWrite i .zero with
        activeWriteCount := sub32 jb.activeWriteCount 1 },
      (jb.writes i).held.foldl (fun io m => rtePktmbufFree m io) io)

/-- `jb_check_missing`: the expected PSN when its slot is not received, else `0`. -/
def jbCheckMissing (jb : JitterBuffer μ) (qpn : Nat) : Nat :=
  match jbFind jb qpn with
  | none => 0
  | some i =>
    let ctx := jb.writes i
    if (ctx.segments.get (psnForwardDist ctx.firstPsn ctx.expectedPsn)).state ≠ .received
    then ctx.expectedPsn else 0

/-! ## Reading and writing one context -/

@[simp] theorem setWrite_writes_self (jb : JitterBuffer μ) (i : Fin jbMaxPendingWrites)
    (ctx : JbWriteContext μ) : (jb.setWrite i ctx).writes i = ctx := by
  simp [JitterBuffer.setWrite]

theorem jbFind_some {jb : JitterBuffer μ} {qpn : Nat} {i : Fin jbMaxPendingWrites}
    (h : jbFind jb qpn = some i) : (jb.writes i).qpn = qpn := by
  simpa using Table.findSlot_some h

theorem jbFind_none {jb : JitterBuffer μ} {qpn : Nat} :
    jbFind jb qpn = none ↔ ∀ i, (jb.writes i).qpn ≠ qpn := by
  simp [jbFind, Table.findSlot_eq_none]

@[simp] theorem jbStoreSeg_qpn (ctx : JbWriteContext μ) (psn : Nat) (ty : WriteSegmentType)
    (m : μ) : (jbStoreSeg ctx psn ty m).qpn = ctx.qpn := rfl

@[simp] theorem jbStoreSeg_firstPsn (ctx : JbWriteContext μ) (psn : Nat)
    (ty : WriteSegmentType) (m : μ) : (jbStoreSeg ctx psn ty m).firstPsn = ctx.firstPsn := rfl

@[simp] theorem jbStoreSeg_writeComplete (ctx : JbWriteContext μ) (psn : Nat)
    (ty : WriteSegmentType) (m : μ) :
    (jbStoreSeg ctx psn ty m).writeComplete = (ty.isFinal || ctx.writeComplete) := rfl

end RdmaGateway.Reassembly
