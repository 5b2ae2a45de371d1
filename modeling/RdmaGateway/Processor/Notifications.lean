/-
  Processor/Notifications.lean --- the CNPs that one call of `proc_process_lan_rx`
  transmits, and when.

  `cnp_emit` is called with a reading of the clock.  A log mirrors the calls that the
  receive function makes of it: each entry is a frame that the LAN port took, with the
  reading its call was made with.  `lanLog_frames` says that the log misses nothing and
  invents nothing: its frames are the CNPs among what the port took during the call.
-/
import RdmaGateway.Arq.Held
import RdmaGateway.Processor.Frames
import RdmaGateway.Processor.LanRun

set_option autoImplicit false

namespace RdmaGateway.Processor

open RdmaGateway.Foundation
open RdmaGateway.Dpdk
open RdmaGateway.Wire
open RdmaGateway.Roce
open RdmaGateway.Tunnel
open RdmaGateway.Arq

/-! ## The log of a call -/

/-- A CNP that was transmitted, with the time that `cnp_emit` was called with. -/
structure CnpTx where
  frame : Mbuf
  time : Nat

/-- The QP that is notified. -/
def CnpTx.qpn (tx : CnpTx) : Nat := tx.frame.bthGetQpn

/-- One call of `cnp_emit`. -/
def cnpEmitLog (proc : ProcessorContext) (i : Fin maxQpCtx) (now : Nat) (host : Host) :
    List CnpTx :=
  (lanAccepted (newEvents (proc, host) (cnpEmit proc i now host))).map fun f => ⟨f, now⟩

/-- The loop of `check_congestion` over the slots. -/
def sweepLog (now : Nat) : List (Fin maxQpCtx) → ProcessorContext × Host → List CnpTx
  | [], _ => []
  | i :: is, s =>
    if (s.1.qpMgr.qps i).active
    then cnpEmitLog s.1 i now s.2 ++ sweepLog now is (cnpEmit s.1 i now s.2)
    else sweepLog now is s

/-- The usage in percent that `cc_check_buffer` computes. -/
def usagePercent (mgr : ArqManager Mbuf) : Nat :=
  mul32 (calculateArqWindowUsage mgr) 100 / (maxQpCtx * windowSize)

/-- The state in which `check_congestion` looks at the flag. -/
def checked (proc : ProcessorContext) : ProcessorContext :=
  { proc with
    congestionCtrl := (ccCheckBuffer proc.congestionCtrl (calculateArqWindowUsage proc.arqMgr)
      (maxQpCtx * windowSize)).2 }

/-- `check_congestion`. -/
def checkLog (proc : ProcessorContext) (host : Host) : List CnpTx :=
  if !(checked proc).congestionCtrl.congestionDetected then []
  else sweepLog host.rdtsc.1 (Table.slots maxQpCtx) (checked proc, host.rdtsc.2)

/-- What is noted of one packet: the CNPs for its congestion mark, the usage that the
periodic check saw if one ran, and the CNPs of that check. -/
structure LanLog where
  marked : List CnpTx
  check : Option Nat
  periodic : List CnpTx

/-- A packet that is dropped or passed on. -/
def LanLog.nothing : LanLog := ⟨[], none, []⟩

/-- All CNPs of a packet, in the order of transmission. -/
def LanLog.cnps (log : LanLog) : List CnpTx := log.marked ++ log.periodic

/-- The QP context as a packet leaves it, before any CNP. -/
def refreshed (proc : ProcessorContext) (i : Fin maxQpCtx) (m : Mbuf) : ProcessorContext :=
  { proc with
    qpMgr := proc.qpMgr.setQp i { proc.qpMgr.qps i with
      notifyIp := m.ipSrcAddr, pkey := m.bthPkey, notifyMac := m.ethSrc, gwMac := m.ethDst } }

/-- `lanNotify`. -/
def notifyLog (proc : ProcessorContext) (i : Fin maxQpCtx) (m : Mbuf) (host : Host) :
    List CnpTx :=
  if m.ipTos &&& 0x3 = 0x3 then cnpEmitLog (refreshed proc i m) i host.rdtsc.1 host.rdtsc.2
  else []

/-- `lanForward` up to the packet counter. -/
def lanSend (proc : ProcessorContext) (m : Mbuf) (peerIp : Nat) (host : Host) :
    ProcessorContext × Host :=
  let proc := (proc.count .writePktsProcessed).count .pktsLanToWan
  let (_, host) := forgeAndSendAck host m
  let proc := proc.count .ackSpoofedSent
  let (wanM, host) := wanFwdRoce host m .wan
  let (inWindow, proc, host) :=
    lanTrack proc wanM m.bthGetQpn m.bthGetPsn (getSegmentType m.bthOpcode) peerIp host
  lanTransmit proc wanM inWindow host

theorem lanForward_eq (proc : ProcessorContext) (m : Mbuf) (peerIp : Nat) (host : Host) :
    lanForward proc m peerIp host =
      lanCount (lanSend proc m peerIp host).1 (lanSend proc m peerIp host).2 := rfl

/-- The packet counter after a WRITE. -/
def counted (proc : ProcessorContext) : ProcessorContext :=
  { proc with packetCounter := add32 proc.packetCounter 1 }

/-- The packet counter is due for a check. -/
def ChecksAfter (proc : ProcessorContext) : Prop :=
  (counted proc).packetCounter % congestionCheckInterval = 0

instance (proc : ProcessorContext) : Decidable (ChecksAfter proc) :=
  inferInstanceAs (Decidable (_ = _))

/-- A WRITE whose QP has slot `i`. -/
def writeLog (proc : ProcessorContext) (i : Fin maxQpCtx) (m : Mbuf) (peerIp : Nat)
    (host : Host) : LanLog :=
  let (notified, host') := lanNotify proc i m host
  let (sent, host'') := lanSend notified m peerIp host'
  { marked := notifyLog proc i m host
    check := if ChecksAfter sent then some (usagePercent sent.arqMgr) else none
    periodic := if ChecksAfter sent then checkLog (counted sent) host'' else [] }

/-- `proc_process_lan_rx`. -/
def lanLog (proc : ProcessorContext) (m : Mbuf) (host : Host) : LanLog :=
  if m.isRoceWrite ∧ wanGetPeerIp host (bswap32 m.ipDstAddr) ≠ 0 then
    match qpGetOrCreate proc.qpMgr m.bthGetQpn with
    | (none, _) => .nothing
    | (some i, qpMgr) =>
      writeLog { proc with qpMgr := qpMgr } i m (wanGetPeerIp host (bswap32 m.ipDstAddr)) host
  else .nothing

/-! ## One call of `cnp_emit` -/

/-- The congestion control of a core, less the counters. -/
structure SameControl (proc proc' : ProcessorContext) : Prop where
  cnpTimerCycles : proc'.congestionCtrl.cnpTimerCycles = proc.congestionCtrl.cnpTimerCycles
  highWaterMark : proc'.congestionCtrl.highWaterMark = proc.congestionCtrl.highWaterMark
  lowWaterMark : proc'.congestionCtrl.lowWaterMark = proc.congestionCtrl.lowWaterMark
  congestionDetected :
    proc'.congestionCtrl.congestionDetected = proc.congestionCtrl.congestionDetected

theorem SameControl.refl (proc : ProcessorContext) : SameControl proc proc := ⟨rfl, rfl, rfl, rfl⟩

theorem SameControl.trans {a b c : ProcessorContext} (hab : SameControl a b)
    (hbc : SameControl b c) : SameControl a c :=
  ⟨hbc.1.trans hab.1, hbc.2.trans hab.2, hbc.3.trans hab.3, hbc.4.trans hab.4⟩

/-- `cnp_emit` transmits nothing and leaves the QP as it is, or it transmits one CNP
for a QP that is due and stamps the QP with the time. -/
inductive CnpOutcome (proc : ProcessorContext) (i : Fin maxQpCtx) (now : Nat) :
    List CnpTx → QpManager → Prop
  | silent : CnpOutcome proc i now [] proc.qpMgr
  | sent {f : Mbuf} (hop : f.bthOpcode = roceOpcodeCnp)
      (hqpn : f.bthGetQpn = (proc.qpMgr.qps i).qpn % 16777216)
      (hdue : ccCnpDue proc.congestionCtrl (proc.qpMgr.qps i).lastCnpTsc now = true) :
      CnpOutcome proc i now [⟨f, now⟩]
        (proc.qpMgr.setQp i { proc.qpMgr.qps i with lastCnpTsc := now })

/-- Without a transmission the port takes nothing. -/
theorem lanAccepted_of_silent {ev : List (Event Mbuf)} (h : OwnTraffic (fun _ _ => False) ev) :
    lanAccepted ev = [] := by
  rw [List.eq_nil_iff_forall_not_mem]
  intro f hf
  obtain ⟨e, he, hsome⟩ := List.mem_filterMap.mp hf
  split at hsome
  · exact h.of_mem he
  · cases hsome

theorem cnpEmit_outcome (proc : ProcessorContext) (i : Fin maxQpCtx) (now : Nat) (host : Host) :
    CnpOutcome proc i now (cnpEmitLog proc i now host) (cnpEmit proc i now host).1.qpMgr ∧
      SameControl proc (cnpEmit proc i now host).1 := by
  have hlog : ∀ {r : ProcessorContext × Host} {ev : List (Event Mbuf)}, Adds host r.2 ev →
      (lanAccepted (newEvents (proc, host) r)).map (fun f => (⟨f, now⟩ : CnpTx)) =
        (lanAccepted ev).map fun f => ⟨f, now⟩ := by
    intro r ev hadds
    rw [newEvents_of_adds hadds]
  unfold cnpEmitLog cnpEmit
  dsimp only
  split
  · rw [hlog (.refl host)]
    exact ⟨.silent, .refl proc⟩
  split
  · rw [hlog (.refl host)]
    exact ⟨.silent, .refl proc⟩
  rename_i hdue
  unfold ccBuildCnp
  rcases allocAppend_cases (fun _ _ => False) host 74 with
    ⟨host', ev, heq, hadds, hown⟩ | ⟨b, f, host', heq, hadds, hid, hlen⟩
  · rw [heq]
    dsimp only
    rw [hlog hadds, lanAccepted_of_silent hown]
    exact ⟨.silent, ⟨rfl, rfl, rfl, rfl⟩⟩
  · rw [heq]
    dsimp only
    generalize hcnp : Mbuf.withData { f with data := _, dataLen := 74 } _ = cnp
    have hsent := hadds.trans (txOrFree_adds host' .lan cnp)
    rw [txOrFree_fst]
    cases hacc : Host.accepts host' .lan with
    | true =>
      rw [hacc] at hsent
      rw [if_pos rfl]
      dsimp only
      rw [hlog hsent, lanAccepted_append, (txEvents_lan cnp true).2.1]
      obtain ⟨hop, hqpn⟩ := cnpFrame_bth cnp (by rw [← hcnp]; rfl)
      exact ⟨.sent hop hqpn (by simpa using hdue), ⟨rfl, rfl, rfl, rfl⟩⟩
    | false =>
      rw [hacc] at hsent
      rw [if_neg (by decide)]
      dsimp only
      rw [hlog hsent, lanAccepted_append, (txEvents_lan cnp false).2.1]
      exact ⟨.silent, ⟨rfl, rfl, rfl, rfl⟩⟩

/-! ## The log and the trace -/

/-- The CNPs among the packets the LAN port took. -/
def lanCnps (trace : List (Event Mbuf)) : List Mbuf :=
  (lanAccepted trace).filter fun f => f.bthOpcode == roceOpcodeCnp

@[simp] theorem lanCnps_append (ev ev' : List (Event Mbuf)) :
    lanCnps (ev ++ ev') = lanCnps ev ++ lanCnps ev' := by
  simp [lanCnps]

theorem lanCnps_eq_nil {ev : List (Event Mbuf)}
    (h : ∀ f, .txBurst .lan f true ∈ ev → f.bthOpcode ≠ roceOpcodeCnp) : lanCnps ev = [] := by
  refine List.filter_eq_nil_iff.mpr fun f hf => ?_
  obtain ⟨e, he, hsome⟩ := List.mem_filterMap.mp hf
  split at hsome
  · cases hsome
    simpa using h _ he
  · cases hsome

/-- Frames of one kind that go to the WAN, or are no CNPs. -/
theorem OwnTraffic.lanCnps_nil {P : Port → Mbuf → Prop} {ev : List (Event Mbuf)}
    (h : OwnTraffic P ev) (hP : ∀ f, P .lan f → f.bthOpcode ≠ roceOpcodeCnp) : lanCnps ev = [] :=
  lanCnps_eq_nil fun f hf => hP f (h.of_mem hf)

theorem lanCnps_of_arp {srcIp : Nat} {ev : List (Event Mbuf)}
    (h : OwnTraffic (IsArpRequest srcIp) ev) : lanCnps ev = [] :=
  h.lanCnps_nil fun _ hf => nomatch hf.1

/-- From `host` to `host'` the CNPs of the log were transmitted and no others. -/
def Transmits (host host' : Host) (log : List CnpTx) : Prop :=
  ∃ ev, Adds host host' ev ∧ lanCnps ev = log.map (·.frame)

theorem Transmits.trans {a b c : Host} {log log' : List CnpTx} (hab : Transmits a b log)
    (hbc : Transmits b c log') : Transmits a c (log ++ log') := by
  obtain ⟨ev, hadds, hlog⟩ := hab
  obtain ⟨ev', hadds', hlog'⟩ := hbc
  exact ⟨ev ++ ev', hadds.trans hadds', by rw [lanCnps_append, hlog, hlog', List.map_append]⟩

theorem transmits_of_adds {host host' : Host} (h : Adds host host' []) : Transmits host host' [] :=
  ⟨[], h, rfl⟩

theorem cnpEmit_transmits (proc : ProcessorContext) (i : Fin maxQpCtx) (now : Nat) (host : Host) :
    Transmits host (cnpEmit proc i now host).2 (cnpEmitLog proc i now host) := by
  obtain ⟨-, ev, hadds, -⟩ := cnpEmit_emits proc i now host
  obtain ⟨houtcome, -⟩ := cnpEmit_outcome proc i now host
  have hframes : lanAccepted ev = (cnpEmitLog proc i now host).map (·.frame) := by
    rw [cnpEmitLog, newEvents_of_adds hadds, List.map_map]
    exact (List.map_id _).symm
  refine ⟨ev, hadds, ?_⟩
  rw [lanCnps, hframes]
  generalize cnpEmitLog proc i now host = log at houtcome ⊢
  generalize (cnpEmit proc i now host).1.qpMgr = qpMgr at houtcome
  cases houtcome with
  | silent => rfl
  | sent hop _ _ => simp [hop]

theorem sweep_transmits (now : Nat) (is : List (Fin maxQpCtx)) (s : ProcessorContext × Host) :
    Transmits s.2 (is.foldl (fun (s : ProcessorContext × Host) i =>
      if (s.1.qpMgr.qps i).active then cnpEmit s.1 i now s.2 else s) s).2 (sweepLog now is s) := by
  induction is generalizing s with
  | nil => exact transmits_of_adds (.refl _)
  | cons i is ih =>
    rw [List.foldl_cons, sweepLog]
    split
    · exact (cnpEmit_transmits s.1 i now s.2).trans (ih _)
    · exact ih s

theorem checkCongestion_eq (proc : ProcessorContext) (host : Host) :
    checkCongestion proc host =
      if !(checked proc).congestionCtrl.congestionDetected then (checked proc, host)
      else (Table.slots maxQpCtx).foldl (fun (s : ProcessorContext × Host) i =>
        if (s.1.qpMgr.qps i).active then cnpEmit s.1 i host.rdtsc.1 s.2 else s)
        (checked proc, host.rdtsc.2) := rfl

theorem checkCongestion_transmits (proc : ProcessorContext) (host : Host) :
    Transmits host (checkCongestion proc host).2 (checkLog proc host) := by
  rw [checkCongestion_eq, checkLog]
  split
  · exact transmits_of_adds (.refl host)
  · exact (transmits_of_adds (rdtsc_adds host)).trans (sweep_transmits _ _ (checked proc, _))

theorem lanNotify_eq (proc : ProcessorContext) (i : Fin maxQpCtx) (m : Mbuf) (host : Host) :
    lanNotify proc i m host =
      if m.ipTos &&& 0x3 = 0x3 then cnpEmit (refreshed proc i m) i host.rdtsc.1 host.rdtsc.2
      else (refreshed proc i m, host) := rfl

theorem lanNotify_transmits (proc : ProcessorContext) (i : Fin maxQpCtx) (m : Mbuf)
    (host : Host) : Transmits host (lanNotify proc i m host).2 (notifyLog proc i m host) := by
  rw [lanNotify_eq, notifyLog]
  split
  · exact (transmits_of_adds (rdtsc_adds host)).trans (cnpEmit_transmits _ _ _ _)
  · exact transmits_of_adds (.refl host)

/-- Acknowledging, tracking and transmitting a WRITE sends no CNP. -/
theorem lanSend_transmits (proc : ProcessorContext) (m : Mbuf) (peerIp : Nat) (host : Host) :
    Transmits host (lanSend proc m peerIp host).2 [] := by
  obtain ⟨evAck, hadds₁, hown₁⟩ := forgeAndSendAck_emits host m
  have hack : Transmits host (forgeAndSendAck host m).2 [] := by
    refine ⟨evAck, hadds₁, hown₁.lanCnps_nil fun f hf => ?_⟩
    obtain ⟨-, -, b, hdata⟩ := hf
    rw [(ackFrame_bth f hdata).1]
    decide
  unfold lanSend
  dsimp only
  generalize (forgeAndSendAck host m).2 = host₁ at hack ⊢
  obtain ⟨-, evArp, hadds₂, hown₂⟩ := wanSetMacs_emits host₁ (setSrcAddr host₁.wanTunnelSrcIp m)
  have hfwd : Transmits host₁ (wanFwdRoce host₁ m .wan).2 [] :=
    ⟨evArp, hadds₂, lanCnps_of_arp hown₂⟩
  generalize wanFwdRoce host₁ m .wan = fwd at hfwd ⊢
  generalize ((proc.count .writePktsProcessed).count .pktsLanToWan).count .ackSpoofedSent = proc₀
  obtain ⟨hadds₃, -⟩ := lanTrack_tracks proc₀ fwd.1 m.bthGetQpn m.bthGetPsn
    (getSegmentType m.bthOpcode) peerIp fwd.2
  generalize lanTrack proc₀ fwd.1 m.bthGetQpn m.bthGetPsn (getSegmentType m.bthOpcode) peerIp
    fwd.2 = track at hadds₃ ⊢
  obtain ⟨-, accepted, hadds₄⟩ := lanTransmit_adds track.2.1 fwd.1 track.1 track.2.2
  have hsent : Transmits track.2.2 (lanTransmit track.2.1 fwd.1 track.1 track.2.2).2 [] := by
    refine ⟨_, hadds₄, lanCnps_eq_nil fun f hf => ?_⟩
    unfold forwardEvents keepEvents txEvents at hf
    split at hf <;> cases accepted <;> simp at hf
  exact hack.trans (hfwd.trans ((transmits_of_adds hadds₃).trans hsent))

/-! ## The clock -/

/-- The same environment, at the same time or later. -/
structure Later (io io' : Io Mbuf) : Prop where
  oracle : io'.oracle = io.oracle
  tscCount : io.tscCount ≤ io'.tscCount

theorem Later.refl (io : Io Mbuf) : Later io io := ⟨rfl, le_rfl⟩

theorem Later.trans {a b c : Io Mbuf} (hab : Later a b) (hbc : Later b c) : Later a c :=
  ⟨hbc.oracle.trans hab.oracle, hab.tscCount.trans hbc.tscCount⟩

theorem later_rdtsc (host : Host) : Later host.io host.rdtsc.2.io := ⟨rfl, Nat.le_succ _⟩

theorem later_allocAppend (host : Host) (len : Nat) :
    Later host.io (host.allocAppend len).2.io := by
  have halloc : Later host.io (rtePktmbufAlloc host.io).2 := by
    refine ⟨rtePktmbufAlloc_oracle host.io, ?_⟩
    unfold rtePktmbufAlloc
    cases host.io.oracle.allocs host.io.allocCount <;> exact le_rfl
  unfold Host.allocAppend pktmbufAlloc
  dsimp only
  cases (rtePktmbufAlloc host.io).1 with
  | none => exact halloc
  | some b =>
    dsimp only [Option.map_some]
    split <;> exact ⟨halloc.oracle, halloc.tscCount⟩

theorem later_txOrFree (host : Host) (port : Port) (m : Mbuf) :
    Later host.io (host.txOrFree port m).2.io := by
  have hsplit : (host.txOrFree port m).2 =
      if Host.accepts host port then (host.txBurst port m).2
      else (host.txBurst port m).2.free m := rfl
  rw [hsplit]
  split <;> exact ⟨rfl, le_rfl⟩

theorem later_forgeAndSendAck (host : Host) (orig : Mbuf) :
    Later host.io (forgeAndSendAck host orig).2.io := by
  have halloc := later_allocAppend host 62
  unfold forgeAndSendAck
  generalize host.allocAppend 62 = r at halloc ⊢
  obtain ⟨_ | m, host'⟩ := r
  · exact halloc
  · exact halloc.trans (later_txOrFree host' .lan _)

theorem later_sendArpRequest (host : Host) (targetIp : Nat) :
    Later host.io (sendArpRequest host targetIp .wan).2.io := by
  have halloc := later_allocAppend host 42
  unfold sendArpRequest
  generalize host.allocAppend 42 = r at halloc ⊢
  obtain ⟨_ | m, host'⟩ := r
  · exact halloc
  · exact halloc.trans (later_txOrFree host' .wan _)

theorem later_wanSetMacs (host : Host) (m : Mbuf) :
    Later host.io (wanSetMacs host m .wan).2.io := by
  have hresolve : Later host.io (resolveNextHop host m.ipDstAddr).2.2.io := by
    unfold resolveNextHop
    split
    · exact .refl _
    · dsimp only
      split <;> exact later_rdtsc host
  unfold wanSetMacs
  dsimp only
  generalize resolveNextHop host m.ipDstAddr = r at hresolve ⊢
  split
  · exact hresolve.trans (later_sendArpRequest _ _)
  · exact hresolve

theorem later_lanTrack (proc : ProcessorContext) (w : Mbuf) (qpn psn : Nat)
    (ty : WriteSegmentType) (peerIp : Nat) (host : Host) :
    Later host.io (lanTrack proc w qpn psn ty peerIp host).2.2.io := by
  unfold lanTrack arqSendPkt
  split
  · exact .refl _
  · dsimp only
    split
    · exact .refl _
    · exact later_rdtsc host

theorem later_txKeeping (m : Mbuf) (io : Io Mbuf) : Later io (txKeeping m io).2 := by
  unfold txKeeping
  dsimp only
  split <;> exact ⟨rfl, le_rfl⟩

theorem later_lanTransmit (proc : ProcessorContext) (w : Mbuf) (inWindow : Int) (host : Host) :
    Later host.io (lanTransmit proc w inWindow host).2.io := by
  unfold lanTransmit
  split
  · exact later_txKeeping w host.io
  · exact later_txOrFree host .wan w

theorem later_lanSend (proc : ProcessorContext) (m : Mbuf) (peerIp : Nat) (host : Host) :
    Later host.io (lanSend proc m peerIp host).2.io :=
  (later_forgeAndSendAck host m).trans ((later_wanSetMacs _ _).trans
    ((later_lanTrack _ _ _ _ _ _ _).trans (later_lanTransmit _ _ _ _)))

theorem later_cnpEmit (proc : ProcessorContext) (i : Fin maxQpCtx) (now : Nat) (host : Host) :
    Later host.io (cnpEmit proc i now host).2.io := by
  have halloc := later_allocAppend host 74
  unfold cnpEmit ccBuildCnp
  dsimp only
  split
  · exact .refl _
  split
  · exact .refl _
  generalize host.allocAppend 74 = r at halloc ⊢
  obtain ⟨_ | m, host'⟩ := r
  · exact halloc
  · dsimp only
    split <;> exact halloc.trans (later_txOrFree host' .lan _)

/-- No operation on a window turns the clock back. -/
theorem later_of_acts {arq arq' : ArqContext Mbuf} {io io' : Io Mbuf}
    (h : ActsOnHeld arq io arq' io') : Later io io' := ⟨h.oracle, h.tscCount⟩

theorem later_arqHandleAck (arq : ArqContext Mbuf) (ackPsn : Nat) (io : Io Mbuf) :
    Later io (arqHandleAck arq ackPsn io).2 :=
  later_of_acts (arqAckLoop_acts ackPsn _ arq io)

theorem later_arqHandleNack (arq : ArqContext Mbuf) (nackPsn : Nat) (io : Io Mbuf) :
    Later io (arqHandleNack arq nackPsn io).2.2 :=
  later_of_acts (arqHandleNack_acts arq nackPsn io)

theorem later_arqCheckTimeouts (arq : ArqContext Mbuf) (io : Io Mbuf) :
    Later io (arqCheckTimeouts arq io).2 :=
  later_of_acts (arqCheckTimeouts_acts arq io)

/-! ## The whole call -/

theorem lanCount_eq (proc : ProcessorContext) (host : Host) :
    lanCount proc host =
      if ChecksAfter proc then checkCongestion (counted proc) host else (counted proc, host) := rfl

/-- A packet either is dropped or passed on, which only counts it, or is a WRITE with
a slot for its QP: then the call is the refresh of the QP, the acknowledgement and the
transmission, and the count with its check. -/
inductive LanCase (proc : ProcessorContext) (m : Mbuf) (host : Host)
    (r : ProcessorContext × Host) (log : LanLog) : Prop
  | other (c : StatCounter) (hproc : r.1 = proc.count c) (hhost : Transmits host r.2 [])
      (hlater : Later host.io r.2.io) (hlog : log = .nothing)
  | write {i : Fin maxQpCtx} {qpMgr : QpManager} {s : ProcessorContext × Host}
      (hwrite : m.isRoceWrite) (hqp : qpGetOrCreate proc.qpMgr m.bthGetQpn = (some i, qpMgr))
      (hs : s = lanSend (lanNotify { proc with qpMgr := qpMgr } i m host).1 m
        (wanGetPeerIp host (bswap32 m.ipDstAddr))
        (lanNotify { proc with qpMgr := qpMgr } i m host).2)
      (hr : r = lanCount s.1 s.2)
      (hmarked : log.marked = notifyLog { proc with qpMgr := qpMgr } i m host)
      (hcheck : log.check = if ChecksAfter s.1 then some (usagePercent s.1.arqMgr) else none)
      (hperiodic : log.periodic = if ChecksAfter s.1 then checkLog (counted s.1) s.2 else [])

theorem lanWrite_case {proc : ProcessorContext} {m : Mbuf} {host : Host} (hwrite : m.isRoceWrite)
    (hpeer : wanGetPeerIp host (bswap32 m.ipDstAddr) ≠ 0) :
    LanCase proc m host (lanWrite proc m (wanGetPeerIp host (bswap32 m.ipDstAddr)) host)
      (lanLog proc m host) := by
  rw [lanLog, if_pos ⟨hwrite, hpeer⟩, lanWrite]
  rcases hqp : qpGetOrCreate proc.qpMgr m.bthGetQpn with ⟨_ | i, qpMgr⟩
  · have hsame := qpGetOrCreate_none hqp
    subst hsame
    exact .other .pktsDropped rfl ⟨_, free_adds host m, lanCnps_eq_nil (by simp)⟩
      ⟨rfl, le_rfl⟩ rfl
  · exact .write hwrite hqp rfl rfl rfl rfl rfl

theorem lanPassthrough_case {proc : ProcessorContext} {m : Mbuf} {host : Host}
    (hwhy : ¬ (m.isRoceWrite ∧ wanGetPeerIp host (bswap32 m.ipDstAddr) ≠ 0)) :
    LanCase proc m host (lanPassthrough proc m host) (lanLog proc m host) := by
  obtain ⟨-, evArp, hadds, hown⟩ := wanSetMacs_emits host m
  refine .other .pktsPassthrough rfl ⟨_, hadds.trans (txOrFree_adds _ .wan _), ?_⟩
    ((later_wanSetMacs host m).trans (later_txOrFree _ .wan _)) (if_neg hwhy)
  rw [lanCnps_append, lanCnps_of_arp hown, List.nil_append]
  refine lanCnps_eq_nil fun f hf => ?_
  unfold txEvents at hf
  split at hf <;> simp at hf

theorem lan_case (proc : ProcessorContext) (m : Mbuf) (host : Host) :
    LanCase proc m host (procProcessLanRx proc m host) (lanLog proc m host) := by
  rw [procProcessLanRx]
  split
  · rename_i htype
    refine .other .pktsDropped rfl ⟨_, free_adds host m, lanCnps_eq_nil (by simp)⟩ ⟨rfl, le_rfl⟩
      (if_neg ?_)
    exact fun h => htype h.1.1
  rename_i htype
  dsimp only
  split
  · rename_i hpeer
    exact lanPassthrough_case fun h => h.2 hpeer
  rename_i hpeer
  split
  · rename_i hproto
    exact lanPassthrough_case fun h => hproto h.1.2.1
  rename_i hproto
  split
  · rename_i hport
    exact lanPassthrough_case fun h => hport h.1.2.2.1
  rename_i hport
  split
  · rename_i hop
    exact lanPassthrough_case fun h => by simp [h.1.2.2.2] at hop
  rename_i hop
  exact lanWrite_case ⟨not_not.mp htype, not_not.mp hproto, not_not.mp hport, by simpa using hop⟩
    hpeer

/-- The log of a call has the CNPs that the LAN port took during the call, in order. -/
theorem lanLog_transmits (proc : ProcessorContext) (m : Mbuf) (host : Host) :
    Transmits host (procProcessLanRx proc m host).2 (lanLog proc m host).cnps := by
  cases lan_case proc m host with
  | other c _ hhost _ hlog =>
    rw [hlog]
    exact hhost
  | @write i qpMgr s hwrite hqp hs hr hmarked hcheck hperiodic =>
    have hsent := (lanNotify_transmits { proc with qpMgr := qpMgr } i m host).trans
      (lanSend_transmits (lanNotify { proc with qpMgr := qpMgr } i m host).1 m
        (wanGetPeerIp host (bswap32 m.ipDstAddr)) (lanNotify { proc with qpMgr := qpMgr } i m host).2)
    rw [← hs, List.append_nil] at hsent
    rw [LanLog.cnps, hmarked, hperiodic, hr, lanCount_eq]
    refine hsent.trans ?_
    split
    · exact checkCongestion_transmits _ _
    · exact transmits_of_adds (.refl _)

end RdmaGateway.Processor
