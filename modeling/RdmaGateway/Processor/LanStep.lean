/-
  Processor/LanStep.lean --- what one call of `proc_process_lan_rx` can do.

  The call frees the packet, passes it on, or forwards it as a WRITE; next to that
  it sends frames of its own: the forged acknowledgement, CNPs and ARP requests.
  `LanOutcome` lists the cases with the events of each, and `lan_outcome` says
  that there are no others.  Of the tables only the window of the packet's QPN
  changes, in at most one slot (`lanTrack_spec`).
-/
import RdmaGateway.Arq.Slots
import RdmaGateway.Processor.Effects

set_option autoImplicit false

namespace RdmaGateway.Processor

open RdmaGateway.Foundation
open RdmaGateway.Dpdk
open RdmaGateway.Wire
open RdmaGateway.Roce
open RdmaGateway.Tunnel
open RdmaGateway.Arq

/-! ## Frames of the gateway's own -/

/-- The forged acknowledgement of `orig`. -/
def IsForgedAck (orig : Mbuf) (port : Port) (f : Mbuf) : Prop :=
  port = .lan ∧ f.dataLen = 62 ∧ ∃ b, f.data = ackFrame b orig

/-- A congestion notification sent from `srcIp`. -/
def IsCnp (srcIp : Nat) (port : Port) (f : Mbuf) : Prop :=
  port = .lan ∧ f.dataLen = 74 ∧ ∃ (b : ByteMem) (dstIp qpn pkey : Nat) (dstMac srcMac : EtherAddr),
    f.data = stMac (stMac (cnpFrame b srcIp dstIp qpn pkey) 0 dstMac) 6 srcMac

/-- An ARP request sent from `srcIp`. -/
def IsArpRequest (srcIp : Nat) (port : Port) (f : Mbuf) : Prop :=
  port = .wan ∧ ∃ (b : ByteMem) (srcMac : EtherAddr) (targetIp : Nat),
    f.data = arpFrame b srcMac srcIp targetIp

theorem forgeAndSendAck_emits (host : Host) (orig : Mbuf) :
    ∃ ev, Adds host (forgeAndSendAck host orig).2 ev ∧ OwnTraffic (IsForgedAck orig) ev := by
  unfold forgeAndSendAck
  rcases allocAppend_cases (IsForgedAck orig) host 62 with
    ⟨host', ev, heq, hadds, hown⟩ | ⟨b, f, host', heq, hadds, hid, hlen⟩
  · rw [heq]
    exact ⟨ev, hadds, hown⟩
  · rw [heq]
    exact ownTraffic_txOrFree .lan hadds hid ⟨rfl, hlen, f.data, rfl⟩

/-- The pool and the LAN queue never fail. -/
def NeverFails (host : Host) : Prop :=
  (∀ n, host.io.oracle.txAccepts .lan n = true) ∧
    ∀ n, ∃ b, host.io.oracle.allocs n = some b ∧ 62 ≤ b.room

/-- Then the acknowledgement is transmitted. -/
theorem forgeAndSendAck_acked {host : Host} (h : NeverFails host) (orig : Mbuf)
    {ev : List (Event Mbuf)} (hadds : Adds host (forgeAndSendAck host orig).2 ev) :
    ∃ f, .txBurst .lan f true ∈ ev ∧ ∃ b, f.data = ackFrame b orig := by
  obtain ⟨b, hb, hroom⟩ := h.2 host.io.allocCount
  have halloc := allocAppend_of_room hb hroom
  have htrace : (forgeAndSendAck host orig).2.io.trace = host.io.trace ++
      [.alloc b, .txBurst .lan (Mbuf.withData { b with dataLen := 62 } (ackFrame b.data orig))
        true] := by
    simp [forgeAndSendAck, halloc, Host.txOrFree, Host.txBurst, rteEthTxBurst, rtePktmbufAlloc, hb,
      h.1]
  rw [hadds.trace, List.append_cancel_left_eq] at htrace
  rw [htrace]
  exact ⟨_, List.mem_cons_of_mem _ List.mem_cons_self, b.data, rfl⟩

theorem sendArpRequest_emits (host : Host) (targetIp : Nat) :
    ∃ ev, Adds host (sendArpRequest host targetIp .wan).2 ev ∧
      OwnTraffic (IsArpRequest host.wanTunnelSrcIp) ev := by
  unfold sendArpRequest
  rcases allocAppend_cases (IsArpRequest host.wanTunnelSrcIp) host 42 with
    ⟨host', ev, heq, hadds, hown⟩ | ⟨b, f, host', heq, hadds, hid, -⟩
  · rw [heq]
    exact ⟨ev, hadds, hown⟩
  · rw [heq]
    refine ownTraffic_txOrFree .wan hadds hid ⟨rfl, f.data, host'.macaddr .wan, targetIp, ?_⟩
    rw [Mbuf.withData_data, hadds.wanTunnelSrcIp]

/-! ## Setting the MAC addresses -/

/-- The frame with both MAC addresses set and nothing else changed. -/
def IsReaddressed (m m' : Mbuf) : Prop :=
  m'.id = m.id ∧ m'.dataLen = m.dataLen ∧ ∀ i, 12 ≤ i → m'.data i = m.data i

theorem IsReaddressed.ipDstAddr {m m' : Mbuf} (h : IsReaddressed m m') :
    m'.ipDstAddr = m.ipDstAddr :=
  ByteMem.ld32_congr fun k hk => h.2.2 k (by omega)

theorem resolveNextHop_adds (host : Host) (dstIpBe : Nat) :
    Adds host (resolveNextHop host dstIpBe).2.2 [] := by
  unfold resolveNextHop
  split
  · exact .refl host
  · dsimp only
    have hadds := rdtsc_adds host
    split
    · exact ⟨hadds.trace, hadds.oracle, hadds.wanTunnelSrcIp, hadds.peerManager⟩
    · exact hadds

theorem wanSetMacs_emits (host : Host) (m : Mbuf) :
    IsReaddressed m (wanSetMacs host m .wan).1 ∧
      ∃ ev, Adds host (wanSetMacs host m .wan).2 ev ∧
        OwnTraffic (IsArpRequest host.wanTunnelSrcIp) ev := by
  have hresolve := resolveNextHop_adds host m.ipDstAddr
  unfold wanSetMacs
  generalize resolveNextHop host m.ipDstAddr = r at hresolve
  obtain ⟨needArp, mac, host₁⟩ := r
  dsimp only at hresolve ⊢
  refine ⟨⟨rfl, rfl, fun i hi => ?_⟩, ?_⟩
  · rw [Mbuf.withData_data, stMac_of_ge _ _ (by omega), stMac_of_ge _ _ (by omega)]
  · cases needArp with
    | false => exact ⟨[], hresolve, .nil⟩
    | true =>
      obtain ⟨ev, hadds, hown⟩ := sendArpRequest_emits host₁ (bswap32 m.ipDstAddr)
      rw [hresolve.wanTunnelSrcIp] at hown
      exact ⟨_, hresolve.trans hadds, hown⟩

/-! ## Bookkeeping -/

/-- The QPs are the same ones, and CNPs come from the same address. -/
structure SameQps (proc proc' : ProcessorContext) : Prop where
  active : ∀ i, (proc'.qpMgr.qps i).active = (proc.qpMgr.qps i).active
  qpn : ∀ i, (proc'.qpMgr.qps i).qpn = (proc.qpMgr.qps i).qpn
  cnpSrcIp : proc'.congestionCtrl.cnpSrcIp = proc.congestionCtrl.cnpSrcIp

theorem SameQps.trans {a b c : ProcessorContext} (hab : SameQps a b) (hbc : SameQps b c) :
    SameQps a c :=
  ⟨fun i => (hbc.active i).trans (hab.active i), fun i => (hbc.qpn i).trans (hab.qpn i),
    hbc.cnpSrcIp.trans hab.cnpSrcIp⟩

/-- Neither the windows nor the identities of the QPs changed. -/
structure KeepsTables (proc proc' : ProcessorContext) : Prop extends SameQps proc proc' where
  arqMgr : proc'.arqMgr = proc.arqMgr

theorem KeepsTables.refl (proc : ProcessorContext) : KeepsTables proc proc :=
  ⟨⟨fun _ => rfl, fun _ => rfl, rfl⟩, rfl⟩

theorem KeepsTables.trans {a b c : ProcessorContext} (hab : KeepsTables a b)
    (hbc : KeepsTables b c) : KeepsTables a c :=
  ⟨hab.toSameQps.trans hbc.toSameQps, hbc.arqMgr.trans hab.arqMgr⟩

theorem keepsTables_count (proc : ProcessorContext) (c : StatCounter) :
    KeepsTables proc (proc.count c) :=
  ⟨⟨fun _ => rfl, fun _ => rfl, rfl⟩, rfl⟩

/-- Replacing a QP context by one with the same identity. -/
theorem keepsTables_setQp {proc : ProcessorContext} {i : Fin maxQpCtx} {qp : QpContext}
    (hactive : qp.active = (proc.qpMgr.qps i).active) (hqpn : qp.qpn = (proc.qpMgr.qps i).qpn) :
    KeepsTables proc { proc with qpMgr := proc.qpMgr.setQp i qp } := by
  refine ⟨⟨fun j => ?_, fun j => ?_, rfl⟩, rfl⟩
  · by_cases hj : j = i
    · subst hj
      simpa [QpManager.setQp] using hactive
    · simp [QpManager.setQp, hj]
  · by_cases hj : j = i
    · subst hj
      simpa [QpManager.setQp] using hqpn
    · simp [QpManager.setQp, hj]

theorem cnpEmit_emits (proc : ProcessorContext) (i : Fin maxQpCtx) (now : Nat) (host : Host) :
    KeepsTables proc (cnpEmit proc i now host).1 ∧
      ∃ ev, Adds host (cnpEmit proc i now host).2 ev ∧
        OwnTraffic (IsCnp proc.congestionCtrl.cnpSrcIp) ev := by
  unfold cnpEmit
  dsimp only
  split
  · exact ⟨.refl proc, [], .refl host, .nil⟩
  split
  · exact ⟨.refl proc, [], .refl host, .nil⟩
  unfold ccBuildCnp
  rcases allocAppend_cases (IsCnp proc.congestionCtrl.cnpSrcIp) host 74 with
    ⟨host', ev, heq, hadds, hown⟩ | ⟨b, f, host', heq, hadds, hid, hlen⟩
  · rw [heq]
    exact ⟨⟨⟨fun _ => rfl, fun _ => rfl, rfl⟩, rfl⟩, ev, hadds, hown⟩
  · rw [heq]
    dsimp only
    split
    · refine ⟨?_, ownTraffic_txOrFree .lan hadds hid ⟨rfl, rfl, _, _, _, _, _, _, rfl⟩⟩
      have hkeep : KeepsTables proc { proc with
          qpMgr := proc.qpMgr.setQp i { proc.qpMgr.qps i with lastCnpTsc := now } } :=
        keepsTables_setQp rfl rfl
      exact ⟨⟨hkeep.active, hkeep.qpn, rfl⟩, rfl⟩
    · refine ⟨?_, ownTraffic_txOrFree .lan hadds hid ⟨rfl, rfl, _, _, _, _, _, _, rfl⟩⟩
      exact ⟨⟨fun _ => rfl, fun _ => rfl, rfl⟩, rfl⟩

/-- `check_congestion`: CNPs and nothing else. -/
theorem checkCongestion_emits (proc : ProcessorContext) (host : Host) :
    KeepsTables proc (checkCongestion proc host).1 ∧
      ∃ ev, Adds host (checkCongestion proc host).2 ev ∧
        OwnTraffic (IsCnp proc.congestionCtrl.cnpSrcIp) ev := by
  have hcheck : KeepsTables proc { proc with
      congestionCtrl := (ccCheckBuffer proc.congestionCtrl
        (calculateArqWindowUsage proc.arqMgr) (maxQpCtx * windowSize)).2 } :=
    ⟨⟨fun _ => rfl, fun _ => rfl, rfl⟩, rfl⟩
  have hfold : ∀ (is : List (Fin maxQpCtx)) (now : Nat) (s : ProcessorContext × Host),
      KeepsTables s.1 (is.foldl (fun (s : ProcessorContext × Host) i =>
          if (s.1.qpMgr.qps i).active then cnpEmit s.1 i now s.2 else s) s).1 ∧
        ∃ ev, Adds s.2 (is.foldl (fun (s : ProcessorContext × Host) i =>
          if (s.1.qpMgr.qps i).active then cnpEmit s.1 i now s.2 else s) s).2 ev ∧
          OwnTraffic (IsCnp s.1.congestionCtrl.cnpSrcIp) ev := by
    intro is now
    induction is with
    | nil => exact fun s => ⟨.refl _, [], .refl _, .nil⟩
    | cons i is ih =>
      intro s
      rw [List.foldl_cons]
      split
      · obtain ⟨hkeep, ev, hadds, hown⟩ := cnpEmit_emits s.1 i now s.2
        obtain ⟨hkeep', ev', hadds', hown'⟩ := ih (cnpEmit s.1 i now s.2)
        rw [hkeep.cnpSrcIp] at hown'
        exact ⟨hkeep.trans hkeep', ev ++ ev', hadds.trans hadds', hown.append hown'⟩
      · exact ih s
  unfold checkCongestion
  dsimp only
  split
  · exact ⟨hcheck, [], .refl host, .nil⟩
  · obtain ⟨hkeep, ev, hadds, hown⟩ := hfold (Table.slots maxQpCtx) host.rdtsc.1 (_, host.rdtsc.2)
    rw [hcheck.cnpSrcIp] at hown
    exact ⟨hcheck.trans hkeep, ev, (rdtsc_adds host).trans hadds, hown⟩

theorem lanCount_emits (proc : ProcessorContext) (host : Host) :
    KeepsTables proc (lanCount proc host).1 ∧
      ∃ ev, Adds host (lanCount proc host).2 ev ∧
        OwnTraffic (IsCnp proc.congestionCtrl.cnpSrcIp) ev := by
  have hcount : KeepsTables proc { proc with packetCounter := add32 proc.packetCounter 1 } :=
    ⟨⟨fun _ => rfl, fun _ => rfl, rfl⟩, rfl⟩
  unfold lanCount
  dsimp only
  split
  · obtain ⟨hkeep, hev⟩ := checkCongestion_emits
      { proc with packetCounter := add32 proc.packetCounter 1 } host
    exact ⟨hcount.trans hkeep, hev⟩
  · exact ⟨hcount, [], .refl host, .nil⟩

theorem lanNotify_emits (proc : ProcessorContext) (i : Fin maxQpCtx) (m : Mbuf) (host : Host) :
    KeepsTables proc (lanNotify proc i m host).1 ∧
      ∃ ev, Adds host (lanNotify proc i m host).2 ev ∧
        OwnTraffic (IsCnp proc.congestionCtrl.cnpSrcIp) ev := by
  have hrefresh : KeepsTables proc { proc with
      qpMgr := proc.qpMgr.setQp i { proc.qpMgr.qps i with
        notifyIp := m.ipSrcAddr, pkey := m.bthPkey, notifyMac := m.ethSrc, gwMac := m.ethDst } } :=
    keepsTables_setQp rfl rfl
  unfold lanNotify
  dsimp only
  split
  · obtain ⟨hkeep, ev, hadds, hown⟩ := cnpEmit_emits _ i host.rdtsc.1 host.rdtsc.2
    exact ⟨hrefresh.trans hkeep, ev, (rdtsc_adds host).trans hadds, hown⟩
  · exact ⟨hrefresh, [], .refl host, .nil⟩

/-! ## Tracking and transmitting -/

/-- The events of a transmission that keeps a reference. -/
def keepEvents (m : Mbuf) (accepted : Bool) : List (Event Mbuf) :=
  [.refcntUpdate m 1, .txBurst .wan m accepted] ++ if accepted then [] else [.refcntUpdate m (-1)]

theorem txKeeping_trace (m : Mbuf) (io : Io Mbuf) :
    (txKeeping m io).2.trace = io.trace ++ keepEvents m (txKeeping m io).1 ∧
      (txKeeping m io).2.oracle = io.oracle :=
  ⟨txKeeping_events m io, txKeeping_oracle m io⟩

/-- The events of the transmission to the WAN: the window keeps its reference, or
there is none to keep. -/
def forwardEvents (w : Mbuf) (inWindow : Int) (accepted : Bool) : List (Event Mbuf) :=
  if inWindow = 0 then keepEvents w accepted else txEvents .wan w accepted

theorem lanTransmit_adds (proc : ProcessorContext) (w : Mbuf) (inWindow : Int) (host : Host) :
    KeepsTables proc (lanTransmit proc w inWindow host).1 ∧
      ∃ accepted, Adds host (lanTransmit proc w inWindow host).2
        (forwardEvents w inWindow accepted) := by
  unfold lanTransmit forwardEvents
  by_cases hin : inWindow = 0
  · simp only [if_pos hin]
    refine ⟨?_, (txKeeping w host.io).1, ?_⟩
    · split
      · exact .refl proc
      · exact keepsTables_count proc _
    · exact adds_withIo (txKeeping_trace w host.io).1 (txKeeping_trace w host.io).2
  · simp only [if_neg hin]
    refine ⟨?_, Host.accepts host .wan, txOrFree_adds host .wan w⟩
    split
    · exact .refl proc
    · exact keepsTables_count proc _

/-- The admission to the window of `qpn`: there is no context, the slot of
`send_next` is in flight, or the slot takes the packet. -/
inductive Tracks (mgr : ArqManager Mbuf) (w : Mbuf) (qpn psn : Nat) (ty : WriteSegmentType)
    (peerIp : Nat) : Int → ArqManager Mbuf → Prop
  | noContext {mgr₁ : ArqManager Mbuf} (hget : arqGetOrCreate mgr qpn = (none, mgr₁)) :
      Tracks mgr w qpn psn ty peerIp (-1) mgr₁
  | noSlot {i : Fin maxQpCtx} {mgr₁ : ArqManager Mbuf}
      (hget : arqGetOrCreate mgr qpn = (some i, mgr₁))
      (hbusy : ((mgr₁.contexts i).entry (mgr₁.contexts i).sendNext).inFlight = true) :
      Tracks mgr w qpn psn ty peerIp (-1)
        (mgr₁.setContext i (arqSetPeerIp (mgr₁.contexts i) peerIp))
  | stored {i : Fin maxQpCtx} {mgr₁ : ArqManager Mbuf} (now : Nat)
      (hget : arqGetOrCreate mgr qpn = (some i, mgr₁))
      (hroom : ((mgr₁.contexts i).entry (mgr₁.contexts i).sendNext).inFlight = false) :
      Tracks mgr w qpn psn ty peerIp 0
        (mgr₁.setContext i (arqSetPeerIp ((mgr₁.contexts i).sent w psn ty now) peerIp))

theorem lanTrack_tracks (proc : ProcessorContext) (w : Mbuf) (qpn psn : Nat)
    (ty : WriteSegmentType) (peerIp : Nat) (host : Host) :
    Adds host (lanTrack proc w qpn psn ty peerIp host).2.2 [] ∧
      ∃ mgr, (lanTrack proc w qpn psn ty peerIp host).2.1 = { proc with arqMgr := mgr } ∧
        Tracks proc.arqMgr w qpn psn ty peerIp
          (lanTrack proc w qpn psn ty peerIp host).1 mgr := by
  unfold lanTrack
  split
  · rename_i mgr hget
    exact ⟨.refl host, mgr, rfl, .noContext hget⟩
  · rename_i i mgr hget
    cases h : ((mgr.contexts i).entry (mgr.contexts i).sendNext).inFlight with
    | true =>
      rw [arqSendPkt_rejected h]
      exact ⟨.refl host, _, rfl, .noSlot hget h⟩
    | false =>
      rw [arqSendPkt_accepted h]
      exact ⟨rdtsc_adds host, _, rfl, .stored _ hget h⟩

/-! ## The whole call -/

/-- A frame of the gateway's own that a LAN packet can cause. -/
def IsLanFrame (srcIp cnpSrcIp : Nat) (m : Mbuf) (port : Port) (f : Mbuf) : Prop :=
  IsCnp cnpSrcIp port f ∨ IsForgedAck m port f ∨ IsArpRequest srcIp port f

/-- A WRITE that was forwarded: own frames, the transmission of `w`, CNPs. -/
structure Forwarded (proc : ProcessorContext) (host : Host) (m : Mbuf) (peerIp : Nat)
    (r : ProcessorContext × Host) (before after : List (Event Mbuf)) (w : Mbuf) (inWindow : Int)
    (accepted : Bool) : Prop where
  own : OwnTraffic (IsLanFrame host.wanTunnelSrcIp proc.congestionCtrl.cnpSrcIp m) before
  cnps : OwnTraffic (IsCnp proc.congestionCtrl.cnpSrcIp) after
  readdressed : IsReaddressed (setSrcAddr host.wanTunnelSrcIp m) w
  tracks : Tracks proc.arqMgr w m.bthGetQpn m.bthGetPsn (getSegmentType m.bthOpcode) peerIp
    inWindow r.1.arqMgr
  adds : Adds host r.2 (before ++ forwardEvents w inWindow accepted ++ after)
  keeps : SameQps proc r.1
  acked : NeverFails host →
    ∃ f, .txBurst .lan f true ∈ before ∧ ∃ b, f.data = ackFrame b m

theorem lanForward_forwarded (proc : ProcessorContext) (m : Mbuf) (peerIp : Nat) (host : Host) :
    ∃ before after w inWindow accepted,
      Forwarded proc host m peerIp (lanForward proc m peerIp host) before after w inWindow
        accepted := by
  unfold lanForward
  obtain ⟨evAck, hadds₁, hown₁⟩ := forgeAndSendAck_emits host m
  have hacked := fun hnever : NeverFails host => forgeAndSendAck_acked hnever m hadds₁
  dsimp only
  generalize (forgeAndSendAck host m).2 = host₁ at hadds₁ ⊢
  obtain ⟨hw, evArp, hadds₂, hown₂⟩ :=
    wanSetMacs_emits host₁ (setSrcAddr host₁.wanTunnelSrcIp m)
  rw [wanFwdRoce]
  generalize wanSetMacs host₁ (setSrcAddr host₁.wanTunnelSrcIp m) .wan = fwd at hw hadds₂ ⊢
  obtain ⟨w, host₂⟩ := fwd
  dsimp only at hw hadds₂ ⊢
  rw [hadds₁.wanTunnelSrcIp] at hw hown₂
  have hkeep₀ : KeepsTables proc
      (((proc.count .writePktsProcessed).count .pktsLanToWan).count .ackSpoofedSent) :=
    ⟨⟨fun _ => rfl, fun _ => rfl, rfl⟩, rfl⟩
  generalize ((proc.count .writePktsProcessed).count .pktsLanToWan).count .ackSpoofedSent = proc₀
    at hkeep₀ ⊢
  obtain ⟨hadds₃, mgr, hproc, htracks⟩ := lanTrack_tracks proc₀ w m.bthGetQpn m.bthGetPsn
    (getSegmentType m.bthOpcode) peerIp host₂
  generalize lanTrack proc₀ w m.bthGetQpn m.bthGetPsn (getSegmentType m.bthOpcode) peerIp host₂ =
    track at hadds₃ hproc htracks ⊢
  obtain ⟨inWindow, proc₁, host₃⟩ := track
  dsimp only at hadds₃ hproc htracks ⊢
  subst hproc
  rw [hkeep₀.arqMgr] at htracks
  obtain ⟨hkeep₂, accepted, hadds₄⟩ :=
    lanTransmit_adds { proc₀ with arqMgr := mgr } w inWindow host₃
  generalize lanTransmit { proc₀ with arqMgr := mgr } w inWindow host₃ = sent
    at hkeep₂ hadds₄ ⊢
  obtain ⟨hkeep₃, evCheck, hadds₅, hown₅⟩ := lanCount_emits sent.1 sent.2
  have hqps : SameQps proc (lanCount sent.1 sent.2).1 :=
    hkeep₀.toSameQps.trans (SameQps.trans ⟨hkeep₂.active, hkeep₂.qpn, hkeep₂.cnpSrcIp⟩
      hkeep₃.toSameQps)
  rw [hkeep₂.cnpSrcIp] at hown₅
  refine ⟨evAck ++ evArp, evCheck, w, inWindow, accepted, ?_, ?_, hw, ?_, ?_, hqps, ?_⟩
  · exact (hown₁.mono fun _ _ h => Or.inr (Or.inl h)).append
      (hown₂.mono fun _ _ h => Or.inr (Or.inr h))
  · rwa [← hkeep₀.cnpSrcIp]
  · rwa [hkeep₃.arqMgr, hkeep₂.arqMgr]
  · simpa using (hadds₁.trans (hadds₂.trans hadds₃)).trans (hadds₄.trans hadds₅)
  · intro hnever
    obtain ⟨f, hf, hdata⟩ := hacked hnever
    exact ⟨f, List.mem_append_left _ hf, hdata⟩

/-- A QP that has no slot of its own and finds none free leaves the table alone. -/
theorem qpGetOrCreate_none {mgr mgr' : QpManager} {qpn : Nat}
    (h : qpGetOrCreate mgr qpn = (none, mgr')) : mgr' = mgr := by
  unfold qpGetOrCreate at h
  split at h
  · cases h
  · split at h
    · cases h
    · cases h
      rfl

/-- A packet of the LAN is freed, passed on with its own addresses, or forwarded as
a WRITE. -/
inductive LanOutcome (proc : ProcessorContext) (host : Host) (m : Mbuf)
    (r : ProcessorContext × Host) : Prop
  | freed
      (hwhy : m.etherType ≠ rteEtherTypeIpv4 ∨ (qpGetOrCreate proc.qpMgr m.bthGetQpn).1 = none)
      (hkeep : KeepsTables proc r.1) (hadds : Adds host r.2 [.free m])
  | passed {evArp : List (Event Mbuf)} {m' : Mbuf} {accepted : Bool}
      (hwhy : wanGetPeerIp host (bswap32 m.ipDstAddr) = 0 ∨ ¬ m.isRoceWrite)
      (hkeep : KeepsTables proc r.1)
      (hown : OwnTraffic (IsArpRequest host.wanTunnelSrcIp) evArp) (hm : IsReaddressed m m')
      (hadds : Adds host r.2 (evArp ++ txEvents .wan m' accepted))
  | forwarded {i : Fin maxQpCtx} {qpMgr : QpManager} {before after : List (Event Mbuf)} {w : Mbuf}
      {inWindow : Int} {accepted : Bool} (hwrite : m.isRoceWrite)
      (hpeer : wanGetPeerIp host (bswap32 m.ipDstAddr) ≠ 0)
      (hqp : qpGetOrCreate proc.qpMgr m.bthGetQpn = (some i, qpMgr))
      (hfwd : Forwarded { proc with qpMgr := qpMgr } host m
        (wanGetPeerIp host (bswap32 m.ipDstAddr)) r before after w inWindow accepted)

theorem lanWrite_outcome (proc : ProcessorContext) (m : Mbuf) (host : Host) (hwrite : m.isRoceWrite)
    (hpeer : wanGetPeerIp host (bswap32 m.ipDstAddr) ≠ 0) :
    LanOutcome proc host m
      (lanWrite proc m (wanGetPeerIp host (bswap32 m.ipDstAddr)) host) := by
  rw [lanWrite]
  split
  · rename_i qpMgr hqp
    have hsame := qpGetOrCreate_none hqp
    subst hsame
    exact .freed (Or.inr (by rw [hqp])) (keepsTables_count proc _) (free_adds host m)
  · rename_i i qpMgr hqp
    obtain ⟨hkeep, ev, hadds, hown⟩ := lanNotify_emits { proc with qpMgr := qpMgr } i m host
    dsimp only
    generalize lanNotify { proc with qpMgr := qpMgr } i m host = notified at hkeep hadds ⊢
    obtain ⟨before, after, w, inWindow, accepted, hfwd⟩ := lanForward_forwarded notified.1 m
      (wanGetPeerIp host (bswap32 m.ipDstAddr)) notified.2
    have hown' := hfwd.own
    have hcnps := hfwd.cnps
    have hw := hfwd.readdressed
    have htracks := hfwd.tracks
    rw [hkeep.cnpSrcIp] at hown' hcnps
    rw [hadds.wanTunnelSrcIp] at hown' hw
    rw [hkeep.arqMgr] at htracks
    have hall := hadds.trans hfwd.adds
    rw [← List.append_assoc, ← List.append_assoc] at hall
    refine .forwarded hwrite hpeer hqp ⟨(hown.mono fun _ _ h => Or.inl h).append hown', hcnps, hw,
      htracks, hall, hkeep.toSameQps.trans hfwd.keeps, fun hnever => ?_⟩
    rw [NeverFails, ← hadds.oracle] at hnever
    obtain ⟨f, hf, hdata⟩ := hfwd.acked hnever
    exact ⟨f, List.mem_append_right _ hf, hdata⟩

theorem lanPassthrough_outcome (proc : ProcessorContext) (m : Mbuf) (host : Host)
    (hwhy : wanGetPeerIp host (bswap32 m.ipDstAddr) = 0 ∨ ¬ m.isRoceWrite) :
    LanOutcome proc host m (lanPassthrough proc m host) := by
  obtain ⟨hm, evArp, hadds, hown⟩ := wanSetMacs_emits host m
  exact .passed hwhy (keepsTables_count proc _) hown hm (hadds.trans (txOrFree_adds _ .wan _))

theorem lan_outcome (proc : ProcessorContext) (m : Mbuf) (host : Host) :
    LanOutcome proc host m (procProcessLanRx proc m host) := by
  rw [procProcessLanRx]
  split
  · rename_i htype
    exact .freed (Or.inl htype) (keepsTables_count proc _) (free_adds host m)
  rename_i htype
  dsimp only
  split
  · rename_i hpeer
    exact lanPassthrough_outcome proc m host (Or.inl hpeer)
  rename_i hpeer
  split
  · rename_i hproto
    exact lanPassthrough_outcome proc m host (Or.inr fun hwrite => hproto hwrite.2.1)
  rename_i hproto
  split
  · rename_i hport
    exact lanPassthrough_outcome proc m host (Or.inr fun hwrite => hport hwrite.2.2.1)
  rename_i hport
  split
  · rename_i hop
    exact lanPassthrough_outcome proc m host
      (Or.inr fun hwrite => by simp [hwrite.2.2.2] at hop)
  rename_i hop
  have hwrite : m.isRoceWrite :=
    ⟨not_not.mp htype, not_not.mp hproto, not_not.mp hport, by simpa using hop⟩
  exact lanWrite_outcome proc m host hwrite hpeer

end RdmaGateway.Processor
