/-
  Processor/LanRx.lean --- the LAN receive path (`forge_and_send_ack`,
  `cnp_emit`, `check_congestion` and `proc_process_lan_rx` of
  `src/processor.c`).

  A RoCE WRITE from the LAN is acknowledged to the host at once, then offered to
  the retransmit window of its QPN, then sent to the WAN.  The function is cut
  into the parts its comments mark: `lanTrack` is the admission to the window,
  `lanTransmit` the transmission with or without a window reference, `lanWrite`
  everything after the headers were recognised.
-/
import RdmaGateway.Processor.State

set_option autoImplicit false

namespace RdmaGateway.Processor

open RdmaGateway.Foundation
open RdmaGateway.Dpdk
open RdmaGateway.Wire
open RdmaGateway.Roce
open RdmaGateway.Tunnel
open RdmaGateway.Arq

/-! ## The forged acknowledgement -/

/-- The bytes of the forged acknowledgement of `orig`. -/
def ackFrame (b : ByteMem) (orig : Mbuf) : ByteMem :=
  let b := stMac b 0 orig.ethSrc
  let b := stMac b 6 orig.ethDst
  let b := b.st16 12 (orig.data.ld16 12)
  let b := buildIpv4Udp b orig.ipDstAddr orig.ipSrcAddr (orig.data.ld16 36) orig.udpSrcPort 48 28
  let b := b.st8 42 roceOpcodeAck
  let b := b.st8 43 orig.bthFlags
  let b := b.st16 44 orig.bthPkey
  let b := b.st8 46 0
  let b := b.st8 50 0
  let b := bthSetQpn b orig.bthGetQpn
  let b := bthSetPsn b orig.bthGetPsn
  let b := b.st8 54 0
  let b := b.st8 55 0
  let b := b.st16 56 (bswap16 0xFFFF)
  let (icrc, b) := roceIcrc b 16
  b.st32 58 (bswap32 icrc)

/-- `forge_and_send_ack`. -/
def forgeAndSendAck (host : Host) (orig : Mbuf) : Int × Host :=
  match host.allocAppend 62 with
  | (none, host) => (-1, host)
  | (some m, host) =>
    let (accepted, host) := host.txOrFree .lan (m.withData (ackFrame m.data orig))
    (if accepted then 0 else -1, host)

/-! ## Congestion notification -/

/-- `cnp_emit` for QP slot `i`. -/
def cnpEmit (proc : ProcessorContext) (i : Fin maxQpCtx) (now : Nat) (host : Host) :
    ProcessorContext × Host :=
  let qp := proc.qpMgr.qps i
  if qp.notifyIp = 0 then (proc, host)
  else if !ccCnpDue proc.congestionCtrl qp.lastCnpTsc now then (proc, host)
  else
    match ccBuildCnp host proc.congestionCtrl qp.qpn qp.notifyIp qp.pkey with
    | (none, cc, host) => ({ proc with congestionCtrl := cc }, host)
    | (some cnp, cc, host) =>
      let cnp := cnp.withData (stMac (stMac cnp.data 0 qp.notifyMac) 6 qp.gwMac)
      let proc := { proc with congestionCtrl := cc }
      let (accepted, host) := host.txOrFree .lan cnp
      if accepted then
        ({ proc with qpMgr := proc.qpMgr.setQp i { qp with lastCnpTsc := now } }.count .cnpSent,
          host)
      else (proc, host)

/-- `check_congestion`. -/
def checkCongestion (proc : ProcessorContext) (host : Host) : ProcessorContext × Host :=
  let usedBuffers := calculateArqWindowUsage proc.arqMgr
  let (_, cc) := ccCheckBuffer proc.congestionCtrl usedBuffers (maxQpCtx * windowSize)
  let proc := { proc with congestionCtrl := cc }
  if !cc.congestionDetected then (proc, host)
  else
    let (now, host) := host.rdtsc
    (Table.slots maxQpCtx).foldl
      (fun (s : ProcessorContext × Host) i =>
        if (s.1.qpMgr.qps i).active then cnpEmit s.1 i now s.2 else s)
      (proc, host)

/-! ## `proc_process_lan_rx` -/

/-- The admission to the retransmit window: `0` when the window took the packet,
`-1` when there is no context or no free slot. -/
def lanTrack (proc : ProcessorContext) (wanM : Mbuf) (qpn psn : Nat)
    (segmentType : WriteSegmentType) (peerIp : Nat) (host : Host) :
    Int × ProcessorContext × Host :=
  match arqGetOrCreate proc.arqMgr qpn with
  | (none, mgr) => (-1, { proc with arqMgr := mgr }, host)
  | (some i, mgr) =>
    let (inWindow, arq, io) := arqSendPkt (mgr.contexts i) wanM psn segmentType host.io
    (inWindow, { proc with arqMgr := mgr.setContext i (arqSetPeerIp arq peerIp) },
      { host with io := io })

/-- The transmission to the WAN, with an extra reference for a packet that the
window owns. -/
def lanTransmit (proc : ProcessorContext) (wanM : Mbuf) (inWindow : Int) (host : Host) :
    ProcessorContext × Host :=
  if inWindow = 0 then
    let (accepted, io) := txKeeping wanM host.io
    (if accepted then proc else proc.count .pktsDropped, { host with io := io })
  else
    let (accepted, host) := host.txOrFree .wan wanM
    (if accepted then proc else proc.count .pktsDropped, host)

/-- The counter that drives the congestion check. -/
def lanCount (proc : ProcessorContext) (host : Host) : ProcessorContext × Host :=
  let proc := { proc with packetCounter := add32 proc.packetCounter 1 }
  if proc.packetCounter % congestionCheckInterval = 0 then checkCongestion proc host
  else (proc, host)

/-- The refresh of the QP context, with a CNP when the packet carries a congestion
mark. -/
def lanNotify (proc : ProcessorContext) (i : Fin maxQpCtx) (m : Mbuf) (host : Host) :
    ProcessorContext × Host :=
  let qp :=
    { proc.qpMgr.qps i with
      notifyIp := m.ipSrcAddr, pkey := m.bthPkey, notifyMac := m.ethSrc, gwMac := m.ethDst }
  let proc := { proc with qpMgr := proc.qpMgr.setQp i qp }
  if m.ipTos &&& 0x3 = 0x3 then
    let (now, host) := host.rdtsc
    cnpEmit proc i now host
  else (proc, host)

/-- Acknowledge, track and transmit a WRITE whose QP context is refreshed. -/
def lanForward (proc : ProcessorContext) (m : Mbuf) (peerIp : Nat) (host : Host) :
    ProcessorContext × Host :=
  let proc := (proc.count .writePktsProcessed).count .pktsLanToWan
  let (_, host) := forgeAndSendAck host m
  let proc := proc.count .ackSpoofedSent
  let (wanM, host) := wanFwdRoce host m .wan
  let (inWindow, proc, host) :=
    lanTrack proc wanM m.bthGetQpn m.bthGetPsn (getSegmentType m.bthOpcode) peerIp host
  let (proc, host) := lanTransmit proc wanM inWindow host
  lanCount proc host

/-- The part of `proc_process_lan_rx` for a RoCE WRITE. -/
def lanWrite (proc : ProcessorContext) (m : Mbuf) (peerIp : Nat) (host : Host) :
    ProcessorContext × Host :=
  match qpGetOrCreate proc.qpMgr m.bthGetQpn with
  | (none, qpMgr) => ({ proc with qpMgr := qpMgr }.count .pktsDropped, host.free m)
  | (some i, qpMgr) =>
    let (proc, host) := lanNotify { proc with qpMgr := qpMgr } i m host
    lanForward proc m peerIp host

/-- A packet that is not a WRITE for a known peer. -/
def lanPassthrough (proc : ProcessorContext) (m : Mbuf) (host : Host) : ProcessorContext × Host :=
  (proc.count .pktsPassthrough, (wanFwdPassthrough host m .wan).2)

/-- `proc_process_lan_rx`. -/
def procProcessLanRx (proc : ProcessorContext) (m : Mbuf) (host : Host) :
    ProcessorContext × Host :=
  if m.etherType ≠ rteEtherTypeIpv4 then (proc.count .pktsDropped, host.free m)
  else
    let peerIp := wanGetPeerIp host (bswap32 m.ipDstAddr)
    if peerIp = 0 then lanPassthrough proc m host
    else if m.ipProto ≠ ipprotoUdp then lanPassthrough proc m host
    else if m.udpDstPort ≠ 4791 then lanPassthrough proc m host
    else if !isWriteOpcode m.bthOpcode then lanPassthrough proc m host
    else lanWrite proc m peerIp host

end RdmaGateway.Processor
