/-
  Processor/WanRx.lean --- the WAN receive path and the timer
  (`proc_process_wan_rx` and `proc_timer_callback` of `src/processor.c`).

  A control message goes to the retransmit window of its QPN on this core.  A
  RoCE WRITE goes into the jitter buffer; a stored one may trigger a NACK for the
  expected PSN, and every one is followed by the test for a complete WRITE, whose
  delivery ends with an ACK for the PSN of the packet being processed.  The
  headers of that packet are read again after it was stored, transmitted or
  freed; nothing rewrites the bytes that are read.
-/
import RdmaGateway.Processor.State

set_option autoImplicit false

namespace RdmaGateway.Processor

open RdmaGateway.Foundation
open RdmaGateway.Dpdk
open RdmaGateway.Wire
open RdmaGateway.Roce
open RdmaGateway.Tunnel
open RdmaGateway.Arq
open RdmaGateway.Reassembly

/-- A control message acts on the window of its QPN on this core. -/
def wanFeedback (proc : ProcessorContext) (msg : ArqControlMsg) (host : Host) :
    ProcessorContext × Host :=
  match arqLookup proc.arqMgr msg.qpn with
  | none => (proc, host)
  | some i =>
    if msg.type = arqMsgAck then
      let (arq, io) := arqHandleAck (proc.arqMgr.contexts i) msg.psn host.io
      ({ proc with arqMgr := proc.arqMgr.setContext i arq }.count .arqAckReceived,
        { host with io := io })
    else if msg.type = arqMsgNack then
      let (_, arq, io) := arqHandleNack (proc.arqMgr.contexts i) msg.psn host.io
      ({ proc with arqMgr := proc.arqMgr.setContext i arq }.count .arqNackReceived,
        { host with io := io })
    else (proc, host)

/-- The control part: a message that parses is acted on, and the frame is freed. -/
def wanControl (proc : ProcessorContext) (m : Mbuf) (host : Host) : ProcessorContext × Host :=
  match arqParseCtrlMsg m with
  | none => (proc, host.free m)
  | some msg =>
    let (proc, host) := wanFeedback proc msg host
    (proc, host.free m)

/-- Build a control message for the peer of packet `m` and send it; `counter`
counts the ones the queue took. -/
def wanSendCtrl (proc : ProcessorContext) (qpn type psn : Nat) (m : Mbuf)
    (counter : StatCounter) (host : Host) : ProcessorContext × Host :=
  let peerIp := wanGetPeerIp host (bswap32 m.ipDstAddr)
  match arqBuildCtrlMsg host qpn type psn peerIp none 0 with
  | (none, host) => (proc, host)
  | (some msg, host) =>
    let (accepted, host) := host.txOrFree .wan msg
    (if accepted then proc.count counter else proc, host)

/-- The NACK after a stored segment, when the expected PSN is missing. -/
def wanNack (proc : ProcessorContext) (m : Mbuf) (host : Host) : ProcessorContext × Host :=
  let missingPsn := jbCheckMissing proc.jitterBuffer m.bthGetQpn
  if missingPsn ≠ 0 then wanSendCtrl proc m.bthGetQpn arqMsgNack missingPsn m .nackSent host
  else (proc, host)

/-- Hand one segment to the LAN. -/
def wanHandOver (host : Host) (m : Mbuf) : Host :=
  (host.txOrFree .lan (wanPrepareForLan host m)).2

/-- The test for a complete WRITE, its delivery and the ACK. -/
def wanDeliver (proc : ProcessorContext) (m : Mbuf) (host : Host) : ProcessorContext × Host :=
  let qpn := m.bthGetQpn
  if jbIsWriteComplete proc.jitterBuffer qpn then
    let (rc, segments) := jbGetOrderedSegs proc.jitterBuffer qpn
    if rc = 0 ∧ 0 < segments.length then
      let host := segments.foldl wanHandOver host
      let (jb, io) := jbRemoveWrite proc.jitterBuffer qpn host.io
      wanSendCtrl { proc with jitterBuffer := jb } qpn arqMsgAck m.bthGetPsn m .arqAckSent
        { host with io := io }
    else (proc, host)
  else (proc, host)

/-- The part of `proc_process_wan_rx` for a RoCE WRITE. -/
def wanWrite (proc : ProcessorContext) (m : Mbuf) (host : Host) : ProcessorContext × Host :=
  let proc := proc.count .pktsWanToLan
  let (added, jb, io) := jbAddSeg proc.jitterBuffer m.bthGetQpn m.bthGetPsn
    (getSegmentType m.bthOpcode) m host.io
  let proc := { proc with jitterBuffer := jb }
  let host := { host with io := io }
  if added < 0 then (proc.count .pktsDropped, host.free m)
  else
    let (proc, host) := if added = 1 then wanNack proc m host else (proc, host)
    wanDeliver proc m host

/-- `proc_process_wan_rx`. -/
def procProcessWanRx (proc : ProcessorContext) (m : Mbuf) (host : Host) :
    ProcessorContext × Host :=
  if m.etherType ≠ rteEtherTypeIpv4 then (proc.count .pktsDropped, host.free m)
  else if m.ipProto ≠ ipprotoUdp then (proc.count .pktsDropped, host.free m)
  else if m.udpDstPort = arqCtrlPort then wanControl proc m host
  else if m.udpDstPort ≠ 4791 then (proc.count .pktsDropped, host.free m)
  else if !isWriteOpcode m.bthOpcode then (proc.count .pktsDropped, host.free m)
  else wanWrite proc m host

/-- One round of the loop of `proc_timer_callback`. -/
def timerVisit (s : ArqManager Mbuf × Io Mbuf) (i : Fin maxQpCtx) : ArqManager Mbuf × Io Mbuf :=
  if (s.1.contexts i).qpn ≠ 0 then
    let (arq, io) := arqCheckTimeouts (s.1.contexts i) s.2
    (s.1.setContext i arq, io)
  else s

/-- `proc_timer_callback`. -/
def procTimerCallback (proc : ProcessorContext) (host : Host) : ProcessorContext × Host :=
  let (arqMgr, io) := (Table.slots maxQpCtx).foldl timerVisit (proc.arqMgr, host.io)
  let (now, host) := { host with io := io }.rdtsc
  let proc := { proc with arqMgr := arqMgr }
  (if host.io.oracle.timerHz * 10 < sub64 now proc.lastStatsDump
    then { proc with lastStatsDump := now } else proc, host)

end RdmaGateway.Processor
