/-
  Processor/State.lean --- what one core owns: statistics, QP table, congestion
  control and the processor context (`src/stats.c`, `src/qp_ctx.c`,
  `src/congestion.c`, `proc_init` of `src/processor.c`).

  `cc_check_buffer` and its callers use a field `congestion_detected` of the
  congestion control structure; it is a field here.  Its transmit-rate fields are
  set once and never read, and are left out.  `stat_dump` only logs.
-/
import RdmaGateway.Arq.Control
import RdmaGateway.Reassembly.JitterBuffer
import RdmaGateway.Wire.Crc32

set_option autoImplicit false

namespace RdmaGateway.Processor

open RdmaGateway.Foundation
open RdmaGateway.Dpdk
open RdmaGateway.Wire
open RdmaGateway.Tunnel
open RdmaGateway.Arq
open RdmaGateway.Reassembly

/-! ## Statistics -/

/-- `stat_counter_t` -/
inductive StatCounter where
  | pktsLanToWan
  | pktsWanToLan
  | pktsDropped
  | pktsPassthrough
  | ackSpoofedSent
  | nackSent
  | retransmitSent
  | cnpSent
  | writePktsProcessed
  | activeQps
  | bufferOverflow
  | arqAckReceived
  | arqNackReceived
  | arqAckSent
  deriving DecidableEq, Repr

/-- `gateway_stats_t`, counters of 64 bits -/
abbrev GatewayStats : Type := StatCounter → BitVec 64

/-- `stat_init`. -/
def statInit : GatewayStats := fun _ => 0

/-- `stat_inc`. -/
def statInc (stats : GatewayStats) (counter : StatCounter) : GatewayStats :=
  Function.update stats counter (stats counter + 1)

/-! ## QP contexts -/

/-- `qp_context_t` -/
structure QpContext where
  qpn : Nat
  active : Bool
  lastCnpTsc : Nat
  notifyIp : Nat
  pkey : Nat
  notifyMac : EtherAddr
  gwMac : EtherAddr

/-- A context after `memset` to zero. -/
def QpContext.zero : QpContext := ⟨0, false, 0, 0, 0, .fill 0, .fill 0⟩

/-- `qp_manager_t` -/
structure QpManager where
  qps : Table maxQpCtx QpContext
  activeQpCount : Nat

/-- `qp_mgr_init`. -/
def qpMgrInit : QpManager := ⟨fun _ => .zero, 0⟩

/-- Replace one context. -/
def QpManager.setQp (mgr : QpManager) (i : Fin maxQpCtx) (qp : QpContext) : QpManager :=
  { mgr with qps := Function.update mgr.qps i qp }

/-- `qp_get_or_create`. -/
def qpGetOrCreate (mgr : QpManager) (qpn : Nat) : Option (Fin maxQpCtx) × QpManager :=
  match mgr.qps.findSlot fun qp => qp.active && qp.qpn == qpn with
  | some i => (some i, mgr)
  | none =>
    match mgr.qps.findSlot fun qp => !qp.active with
    | some i =>
      (some i, { mgr.setQp i { QpContext.zero with qpn := qpn, active := true } with
        activeQpCount := add32 mgr.activeQpCount 1 })
    | none => (none, mgr)

/-! ## Congestion control -/

/-- `BUFFER_HIGH_WATER` -/
def bufferHighWater : Nat := 80
/-- `BUFFER_LOW_WATER` -/
def bufferLowWater : Nat := 60
/-- `CNP_TIMER_US` -/
def cnpTimerUs : Nat := 50

/-- `congestion_control_t` -/
structure CongestionControl where
  bufferUsagePercent : Nat
  highWaterMark : Nat
  lowWaterMark : Nat
  cnpSrcIp : Nat
  cnpTimerCycles : Nat
  totalCnpSent : Nat
  congestionDetected : Bool

/-- `cc_init`. -/
def ccInit (host : Host) (highWatermark lowWatermark : Nat) : CongestionControl where
  bufferUsagePercent := 0
  highWaterMark := if 0 < highWatermark then highWatermark else bufferHighWater
  lowWaterMark := if 0 < lowWatermark then lowWatermark else bufferLowWater
  cnpSrcIp := host.wanTunnelSrcIp
  cnpTimerCycles := host.io.oracle.timerHz * cnpTimerUs / 1000000
  totalCnpSent := 0
  congestionDetected := false

/-- `cc_check_buffer`; the return value is the new `congestion_detected`, or `0`
when there are no buffers at all. -/
def ccCheckBuffer (cc : CongestionControl) (usedBuffers totalBuffers : Nat) :
    Bool × CongestionControl :=
  if totalBuffers = 0 then (false, cc)
  else
    let cc := { cc with bufferUsagePercent := mul32 usedBuffers 100 / totalBuffers }
    let detected :=
      if cc.highWaterMark ≤ cc.bufferUsagePercent then true
      else if cc.bufferUsagePercent ≤ cc.lowWaterMark then false
      else cc.congestionDetected
    (detected, { cc with congestionDetected := detected })

/-- `cc_cnp_due`. -/
def ccCnpDue (cc : CongestionControl) (lastCnpTsc now : Nat) : Bool :=
  cc.cnpTimerCycles ≤ sub64 now lastCnpTsc

/-- The bytes of a CNP. -/
def cnpFrame (b : ByteMem) (srcIp dstIp qpn pkey : Nat) : ByteMem :=
  let b := b.fill 0 74 0
  let b := b.st16 12 (bswap16 rteEtherTypeIpv4)
  let b := buildIpv4Udp b srcIp dstIp (bswap16 4791) (bswap16 4791) 60 40
  let b := b.st8 42 roceOpcodeCnp
  let b := b.st16 44 pkey
  let b := bthSetQpn b (qpn &&& 0x00FFFFFF)
  let (icrc, b) := roceIcrc b 28
  b.st32 70 (bswap32 icrc)

/-- `cc_build_cnp`. -/
def ccBuildCnp (host : Host) (cc : CongestionControl) (qpn dstIp pkey : Nat) :
    Option Mbuf × CongestionControl × Host :=
  match host.allocAppend 74 with
  | (none, host) => (none, cc, host)
  | (some m, host) =>
    (some { m with data := cnpFrame m.data cc.cnpSrcIp dstIp qpn pkey, dataLen := 74 },
      { cc with totalCnpSent := cc.totalCnpSent + 1 }, host)

/-! ## The processor context -/

/-- `processor_context_t` -/
structure ProcessorContext where
  qpMgr : QpManager
  arqMgr : ArqManager Mbuf
  jitterBuffer : JitterBuffer Mbuf
  congestionCtrl : CongestionControl
  stats : GatewayStats
  lcoreId : Nat
  isLanCore : Bool
  packetCounter : Nat
  lastStatsDump : Nat

/-- `CONGESTION_CHECK_INTERVAL` -/
def congestionCheckInterval : Nat := 5

/-- `proc_init`. -/
def procInit (host : Host) (lcoreId : Nat) (isLanCore : Bool) : ProcessorContext where
  qpMgr := qpMgrInit
  arqMgr := arqMgrInit
  jitterBuffer := jbInit
  congestionCtrl := ccInit host bufferHighWater bufferLowWater
  stats := statInit
  lcoreId := lcoreId
  isLanCore := isLanCore
  packetCounter := 0
  lastStatsDump := 0

/-- `stat_inc` on the statistics of the core. -/
def ProcessorContext.count (proc : ProcessorContext) (counter : StatCounter) : ProcessorContext :=
  { proc with stats := statInc proc.stats counter }

@[simp] theorem count_arqMgr (proc : ProcessorContext) (c : StatCounter) :
    (proc.count c).arqMgr = proc.arqMgr := rfl
@[simp] theorem count_jitterBuffer (proc : ProcessorContext) (c : StatCounter) :
    (proc.count c).jitterBuffer = proc.jitterBuffer := rfl

end RdmaGateway.Processor
