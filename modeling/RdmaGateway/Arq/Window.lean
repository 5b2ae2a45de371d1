/-
  Arq/Window.lean --- the retransmit window of `src/arq.c`.

  A context is a ring of 256 send entries under two 32-bit counters, `send_base`
  and `send_next`; the entry of sequence number `i` sits in slot `i % 256`.
  Spinlocks are no-ops here; `Arq.Locking` has them.  `arq_handle_ack` always
  returns 0 and its return value is dropped.  The 64-bit totals are plain natural numbers.
-/
import RdmaGateway.Foundation.Ring
import RdmaGateway.Foundation.Word
import RdmaGateway.Roce.Psn

set_option autoImplicit false

namespace RdmaGateway.Arq

open RdmaGateway.Foundation
open RdmaGateway.Dpdk
open RdmaGateway.Roce

/-- `MAX_QP_CTX` -/
abbrev maxQpCtx : Nat := 1024
/-- `WINDOW_SIZE` -/
abbrev windowSize : Nat := 256
/-- `RETRY_TIMEOUT_MS` -/
def retryTimeoutMs : Nat := 10
/-- `MAX_RETRY_COUNT` -/
def maxRetryCount : Nat := 3
/-- `MAX_RETX_BURST` -/
def maxRetxBurst : Nat := 64

/-- `arq_send_entry_t` -/
structure ArqSendEntry (μ : Type) where
  psn : Nat
  mbuf : Option μ
  sendTime : Nat
  retryCount : Nat
  segmentType : WriteSegmentType
  inFlight : Bool

/-- `arq_context_t` -/
structure ArqContext (μ : Type) where
  qpn : Nat
  sendWindow : Ring windowSize (ArqSendEntry μ)
  sendBase : Nat
  sendNext : Nat
  sendMax : Nat
  totalSent : Nat
  totalAckReceived : Nat
  totalRetransmit : Nat
  totalTimeout : Nat
  peerIp : Nat

/-- `arq_manager_t` -/
structure ArqManager (μ : Type) where
  contexts : Table maxQpCtx (ArqContext μ)

variable {μ : Type}

/-- An entry after `memset` to zero. -/
def ArqSendEntry.zero : ArqSendEntry μ := ⟨0, none, 0, 0, .none, false⟩

/-- A context after `memset` to zero, with its QPN set. -/
def ArqContext.fresh (qpn : Nat) : ArqContext μ :=
  ⟨qpn, Ring.const windowSize .zero, 0, 0, 0, 0, 0, 0, 0, 0⟩

/-- `arq_mgr_init`. -/
def arqMgrInit : ArqManager μ := ⟨fun _ => .fresh 0⟩

/-- Replace one context. -/
def ArqManager.setContext (mgr : ArqManager μ) (i : Fin maxQpCtx) (ctx : ArqContext μ) :
    ArqManager μ :=
  { mgr with contexts := Function.update mgr.contexts i ctx }

@[simp] theorem setContext_contexts_self (mgr : ArqManager μ) (i : Fin maxQpCtx)
    (ctx : ArqContext μ) : (mgr.setContext i ctx).contexts i = ctx := by
  simp [ArqManager.setContext]

theorem setContext_contexts_of_ne (mgr : ArqManager μ) {i j : Fin maxQpCtx}
    (ctx : ArqContext μ) (h : j ≠ i) : (mgr.setContext i ctx).contexts j = mgr.contexts j := by
  simp [ArqManager.setContext, h]

theorem setContext_self (mgr : ArqManager μ) (i : Fin maxQpCtx) :
    mgr.setContext i (mgr.contexts i) = mgr := by
  simp [ArqManager.setContext]

@[simp] theorem setContext_setContext (mgr : ArqManager μ) (i : Fin maxQpCtx)
    (a b : ArqContext μ) : (mgr.setContext i a).setContext i b = mgr.setContext i b := by
  simp [ArqManager.setContext]

/-- `arq_find`. -/
def arqFind (mgr : ArqManager μ) (qpn : Nat) : Option (Fin maxQpCtx) :=
  mgr.contexts.findSlot fun ctx => ctx.qpn == qpn

/-- `arq_get_or_create`. -/
def arqGetOrCreate (mgr : ArqManager μ) (qpn : Nat) : Option (Fin maxQpCtx) × ArqManager μ :=
  match arqFind mgr qpn with
  | some i => (some i, mgr)
  | none =>
    match mgr.contexts.findSlot fun ctx => ctx.qpn == 0 with
    | some i => (some i, mgr.setContext i (.fresh qpn))
    | none => (none, mgr)

/-- `arq_lookup`. -/
def arqLookup (mgr : ArqManager μ) (qpn : Nat) : Option (Fin maxQpCtx) := arqFind mgr qpn

/-- `arq_send_pkt`: `-1` when the slot of `send_next` is still in flight. -/
def arqSendPkt (arq : ArqContext μ) (m : μ) (psn : Nat) (segmentType : WriteSegmentType)
    (io : Io μ) : Int × ArqContext μ × Io μ :=
  if (arq.sendWindow.get arq.sendNext).inFlight then (-1, arq, io)
  else
    let (now, io) := rteRdtsc io
    let next := add32 arq.sendNext 1
    (0,
      { arq with
        sendWindow := arq.sendWindow.set arq.sendNext ⟨psn, some m, now, 0, segmentType, true⟩
        sendNext := next
        sendMax := max arq.sendMax (sub32 next arq.sendBase)
        totalSent := arq.totalSent + 1 },
      io)

/-- `rte_pktmbuf_free` of a pointer that may be null. -/
def freeOpt (m : Option μ) (io : Io μ) : Io μ :=
  match m with
  | some m => rtePktmbufFree m io
  | none => io

/-- The entry without its packet: not in flight, no buffer. -/
def ArqSendEntry.released (e : ArqSendEntry μ) : ArqSendEntry μ :=
  { e with mbuf := none, inFlight := false }

/-- One round of the loop of `arq_handle_ack`: free the oldest entry and move
`send_base` past it. -/
def arqPop (arq : ArqContext μ) (io : Io μ) : ArqContext μ × Io μ :=
  let e := arq.sendWindow.get arq.sendBase
  ({ arq with
      sendWindow := arq.sendWindow.set arq.sendBase e.released
      sendBase := add32 arq.sendBase 1
      totalAckReceived := arq.totalAckReceived + 1 },
    freeOpt e.mbuf io)

/-- The loop of `arq_handle_ack`.  `fuel` bounds the rounds; `send_next -
send_base` of them are enough, since every round moves `send_base` by one. -/
def arqAckLoop (ackPsn : Nat) : Nat → ArqContext μ → Io μ → ArqContext μ × Io μ
  | 0, arq, io => (arq, io)
  | fuel + 1, arq, io =>
    if arq.sendBase < arq.sendNext then
      if psnForwardDist (arq.sendWindow.get arq.sendBase).psn ackPsn ≥ psnHalf then (arq, io)
      else arqAckLoop ackPsn fuel (arqPop arq io).1 (arqPop arq io).2
    else (arq, io)

/-- `arq_handle_ack`. -/
def arqHandleAck (arq : ArqContext μ) (ackPsn : Nat) (io : Io μ) : ArqContext μ × Io μ :=
  arqAckLoop ackPsn (arq.sendNext - arq.sendBase) arq io

/-- Transmit a buffer that the window keeps: take a reference for the NIC first
and give it back when the queue is full. -/
def txKeeping (m : μ) (io : Io μ) : Bool × Io μ :=
  let (accepted, io) := rteEthTxBurst .wan m (rtePktmbufRefcntUpdate m 1 io)
  (accepted, if accepted then io else rtePktmbufRefcntUpdate m (-1) io)

/-- The sequence numbers a loop from `send_base` to `send_next` visits. -/
def ArqContext.seqs (arq : ArqContext μ) : List Nat :=
  List.range' arq.sendBase (arq.sendNext - arq.sendBase)

/-- The state of the selection loop of `arq_handle_nack`. -/
structure NackScan (μ : Type) where
  arq : ArqContext μ
  io : Io μ
  retransIdx : List Nat

/-- One round of the selection loop of `arq_handle_nack`. -/
def arqNackSelect (nackPsn : Nat) (s : NackScan μ) (i : Nat) : NackScan μ :=
  let e := s.arq.sendWindow.get i
  if s.retransIdx.length < maxRetxBurst ∧ psnForwardDist e.psn nackPsn < psnHalf then
    let (now, io) := rteRdtsc s.io
    { arq :=
        { s.arq with
          sendWindow := s.arq.sendWindow.set i
            { e with sendTime := now, retryCount := inc8 e.retryCount }
          totalRetransmit := s.arq.totalRetransmit + 1 }
      io := io
      retransIdx := s.retransIdx ++ [i % windowSize] }
  else s

/-- `arq_handle_nack`: the number of entries selected, the context and the effects. -/
def arqHandleNack (arq : ArqContext μ) (nackPsn : Nat) (io : Io μ) :
    Nat × ArqContext μ × Io μ :=
  let s := arq.seqs.foldl (arqNackSelect nackPsn) ⟨arq, io, []⟩
  (s.retransIdx.length, s.arq,
    s.retransIdx.foldl (fun io idx =>
      match (s.arq.sendWindow.get idx).mbuf with
      | some m => (txKeeping m io).2
      | none => io) s.io)

/-- What one visit of `arq_check_timeouts` leaves in a slot. -/
def timeoutEntry (now timeout : Nat) (e : ArqSendEntry μ) : ArqSendEntry μ :=
  if e.inFlight && decide (timeout < sub64 now e.sendTime) then
    if e.retryCount < maxRetryCount
    then { e with sendTime := now, retryCount := inc8 e.retryCount }
    else e.released
  else e

/-- One round of the loop of `arq_check_timeouts`. -/
def arqTimeoutVisit (now timeout : Nat) (s : ArqContext μ × Io μ) (i : Nat) :
    ArqContext μ × Io μ :=
  let (arq, io) := s
  let e := arq.sendWindow.get i
  if e.inFlight && decide (timeout < sub64 now e.sendTime) then
    let arq := { arq with sendWindow := arq.sendWindow.set i (timeoutEntry now timeout e) }
    if e.retryCount < maxRetryCount then
      ({ arq with totalRetransmit := arq.totalRetransmit + 1 },
        match e.mbuf with
        | some m => (txKeeping m io).2
        | none => io)
    else
      ({ arq with totalTimeout := arq.totalTimeout + 1 }, freeOpt e.mbuf io)
  else (arq, io)

/-- `rte_get_timer_hz() * RETRY_TIMEOUT_MS / 1000`. -/
def timeoutCycles (io : Io μ) : Nat := io.oracle.timerHz * retryTimeoutMs / 1000

/-- `arq_check_timeouts`. -/
def arqCheckTimeouts (arq : ArqContext μ) (io : Io μ) : ArqContext μ × Io μ :=
  let (now, io) := rteRdtsc io
  arq.seqs.foldl (arqTimeoutVisit now (timeoutCycles io)) (arq, io)

/-- `arq_set_peer_ip`. -/
def arqSetPeerIp (arq : ArqContext μ) (peerIp : Nat) : ArqContext μ :=
  { arq with peerIp := peerIp }

/-- `calculate_arq_window_usage` of `src/processor.c`. -/
def calculateArqWindowUsage (mgr : ArqManager μ) : Nat :=
  (Table.slots maxQpCtx).foldl (fun used i =>
    if (mgr.contexts i).qpn ≠ 0
    then add32 used (sub32 (mgr.contexts i).sendNext (mgr.contexts i).sendBase)
    else used) 0

end RdmaGateway.Arq
