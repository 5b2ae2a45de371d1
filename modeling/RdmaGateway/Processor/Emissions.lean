/-
  Processor/Emissions.lean --- every frame a call passes to a port, byte for byte.

  A call changes none of the settings, the ARP cache included, and each frame it passes
  to a port is one of five kinds: an ARP request, a forged acknowledgement, a CNP, a
  control message, or a packet that was received, with the addresses replaced.
  `Emits` says so for one step and composes along the order of the calls; `lan_emits`
  and `wan_emits` say it for the two receive functions, with the length and the contents
  of every frame.
-/
import RdmaGateway.Processor.Admission
import RdmaGateway.Processor.Frames

set_option autoImplicit false

namespace RdmaGateway.Processor

open RdmaGateway.Foundation
open RdmaGateway.Dpdk
open RdmaGateway.Wire
open RdmaGateway.Roce
open RdmaGateway.Tunnel
open RdmaGateway.Arq
open RdmaGateway.Reassembly

/-! ## Settings -/

/-- What the program is configured with and no packet changes. -/
structure HostSettings where
  wanTunnelSrcIp : Nat
  peerManager : PeerManager
  arpCache : Ring arpCacheSize ArpEntry
  macaddr : Port → EtherAddr

def Host.settings (host : Host) : HostSettings :=
  ⟨host.wanTunnelSrcIp, host.peerManager, host.arpCache, host.macaddr⟩

/-- What `arp_cache_lookup` finds. -/
def HostSettings.arpLookup (s : HostSettings) (ipAddr : Nat) : Option EtherAddr :=
  let e := s.arpCache.get ipAddr
  if e.valid && e.ipAddr == ipAddr then some e.macAddr else none

/-- The peer for a packet. -/
def HostSettings.peerOf (s : HostSettings) (m : Mbuf) : Nat := pmLookup s.peerManager (bswap32 m.ipDstAddr)

/-- The frame with the MAC addresses of a packet that leaves on the WAN port: the next hop
for the destination of packet `m`, and the port's own. -/
def HostSettings.addressed (s : HostSettings) (m : Mbuf) : ByteMem :=
  stMac (stMac m.data 0 ((s.arpLookup (bswap32 m.ipDstAddr)).getD defaultGwMac)) 6 (s.macaddr .wan)

/-! ## One step -/

/-- The step keeps the settings, and `P` holds of each frame it passes to a port. -/
structure Emits (P : Port → Mbuf → Prop) (host host' : Host) : Prop where
  settings : Host.settings host' = Host.settings host
  frames : ∃ ev, host'.io.trace = host.io.trace ++ ev ∧
    ∀ port f accepted, .txBurst port f accepted ∈ ev → P port f

section Emits

variable {P Q : Port → Mbuf → Prop} {host host₁ host₂ : Host}

theorem Emits.refl (host : Host) : Emits P host host := ⟨rfl, [], by simp, by simp⟩

theorem Emits.trans (h : Emits P host host₁) (h' : Emits P host₁ host₂) : Emits P host host₂ := by
  obtain ⟨ev, htrace, hP⟩ := h.frames
  obtain ⟨ev', htrace', hP'⟩ := h'.frames
  refine ⟨h'.settings.trans h.settings, ev ++ ev', ?_, fun port f accepted hf => ?_⟩
  · rw [htrace', htrace, List.append_assoc]
  · rcases List.mem_append.mp hf with hf | hf
    · exact hP port f accepted hf
    · exact hP' port f accepted hf

theorem Emits.mono (h : Emits P host host₁) (himp : ∀ port f, P port f → Q port f) :
    Emits Q host host₁ := by
  obtain ⟨ev, htrace, hP⟩ := h.frames
  exact ⟨h.settings, ev, htrace, fun port f accepted hf => himp _ _ (hP port f accepted hf)⟩

/-- A step that touches the environment only, and passes nothing to a port. -/
theorem emits_silent {io : Io Mbuf} {ev : List (Event Mbuf)}
    (htrace : io.trace = host.io.trace ++ ev)
    (hsilent : ∀ port f accepted, .txBurst port f accepted ∉ ev) :
    Emits P host { host with io := io } :=
  ⟨rfl, ev, htrace, fun port f accepted hf => absurd hf (hsilent port f accepted)⟩

theorem emits_free (host : Host) (m : Mbuf) : Emits P host (host.free m) :=
  emits_silent (rtePktmbufFree_trace m host.io) (by simp)

theorem emits_rdtsc (host : Host) : Emits P host host.rdtsc.2 :=
  ⟨rfl, [], by simp [Host.rdtsc], by simp⟩

theorem emits_txOrFree {port : Port} {m : Mbuf} (host : Host) (hm : P port m) :
    Emits P host (host.txOrFree port m).2 := by
  have hsettings : Host.settings (host.txOrFree port m).2 = Host.settings host := by
    unfold Host.txOrFree
    dsimp only
    split <;> rfl
  refine ⟨hsettings, _, (txOrFree_adds host port m).trace, fun port' f accepted hf => ?_⟩
  have hself : port' = port ∧ f = m := by
    generalize Host.accepts host port = taken at hf
    cases taken <;> simp [txEvents] at hf <;> exact ⟨hf.1, hf.2.1⟩
  rw [hself.1, hself.2]
  exact hm

/-- A buffer is allocated, or the step ends without one. -/
theorem emits_allocAppend (host : Host) (len : Nat) :
    Emits P host (host.allocAppend len).2 ∧
      ∀ m, (host.allocAppend len).1 = some m → m.dataLen = len := by
  have hsettings : Host.settings (host.allocAppend len).2 = Host.settings host := by
    unfold Host.allocAppend
    dsimp only
    split
    · rfl
    · split <;> rfl
  rcases allocAppend_cases (fun _ _ => False) host len with
    ⟨host', ev, heq, hadds, hown⟩ | ⟨b, m, host', heq, hadds, hid, hlen⟩
  · rw [heq] at hsettings ⊢
    exact ⟨⟨hsettings, ev, hadds.trace, fun port f accepted hf => (hown.of_mem hf).elim⟩, by simp⟩
  · rw [heq] at hsettings ⊢
    refine ⟨⟨hsettings, _, hadds.trace, by simp⟩, fun m' hm' => ?_⟩
    cases hm'
    exact hlen

end Emits

/-! ## The LAN side -/

/-- The frames that `proc_process_lan_rx` passes to a port because of packet `m`. -/
inductive LanSends (s : HostSettings) (m : Mbuf) : Port → Mbuf → Prop
  | arp {f : Mbuf} {b : ByteMem} (hmiss : s.arpLookup (bswap32 m.ipDstAddr) = none)
      (hlen : f.dataLen = 42)
      (hdata : f.data =
        arpFrame b (s.macaddr .wan) s.wanTunnelSrcIp (bswap32 m.ipDstAddr)) :
      LanSends s m .wan f
  | ack {f : Mbuf} {b : ByteMem} (hwrite : m.isRoceWrite) (hlen : f.dataLen = 62)
      (hdata : f.data = ackFrame b m) : LanSends s m .lan f
  | cnp {f : Mbuf} {b : ByteMem} {srcIp dstIp qpn pkey : Nat} {dstMac srcMac : EtherAddr}
      (hlen : f.dataLen = 74)
      (hdata : f.data = stMac (stMac (cnpFrame b srcIp dstIp qpn pkey) 0 dstMac) 6 srcMac) :
      LanSends s m .lan f
  | passed {f : Mbuf} (htype : m.etherType = rteEtherTypeIpv4)
      (hwhy : s.peerOf m = 0 ∨ ¬ m.isRoceWrite) (hf : f = m.withData (s.addressed m)) :
      LanSends s m .wan f
  | forwarded {f : Mbuf} (hwrite : m.isRoceWrite) (hpeer : s.peerOf m ≠ 0)
      (hf : f = m.withData (s.addressed (setSrcAddr s.wanTunnelSrcIp m))) :
      LanSends s m .wan f

section Lan

variable {m : Mbuf} {host : Host}

theorem emits_sendArpRequest (host : Host) {m : Mbuf}
    (hmiss : (Host.settings host).arpLookup (bswap32 m.ipDstAddr) = none) :
    Emits (LanSends (Host.settings host) m) host
      (sendArpRequest host (bswap32 m.ipDstAddr) .wan).2 := by
  obtain ⟨halloc, hlen⟩ := emits_allocAppend
    (P := LanSends (Host.settings host) m) host 42
  unfold sendArpRequest
  generalize host.allocAppend 42 = r at halloc hlen ⊢
  obtain ⟨b, host₁⟩ := r
  cases b with
  | none => exact halloc
  | some b =>
    have hsettings := halloc.settings
    refine halloc.trans (emits_txOrFree host₁ ?_)
    refine .arp (b := b.data) hmiss (hlen b rfl) ?_
    rw [← hsettings]
    rfl

theorem emits_resolveNextHop (P : Port → Mbuf → Prop) (host : Host) (dstIpBe : Nat) :
    Emits P host (resolveNextHop host dstIpBe).2.2 ∧
      (resolveNextHop host dstIpBe).2.1 =
        ((Host.settings host).arpLookup (bswap32 dstIpBe)).getD defaultGwMac ∧
      ((resolveNextHop host dstIpBe).1 = true →
        (Host.settings host).arpLookup (bswap32 dstIpBe) = none) := by
  have hlookup : arpCacheLookup host (bswap32 dstIpBe) =
      (Host.settings host).arpLookup (bswap32 dstIpBe) := rfl
  unfold resolveNextHop
  rw [hlookup]
  cases (Host.settings host).arpLookup (bswap32 dstIpBe) with
  | some mac => exact ⟨.refl host, rfl, fun hdue => absurd hdue Bool.false_ne_true⟩
  | none =>
    dsimp only
    split
    · exact ⟨⟨rfl, [], by simp [Host.rdtsc], by simp⟩, rfl, fun _ => rfl⟩
    · exact ⟨emits_rdtsc host, rfl, fun _ => rfl⟩

/-- Both MAC addresses are set, and an ARP request may go out; `m'` is the packet with its
source address replaced, or the packet itself. -/
theorem emits_wanSetMacs (host : Host) {m m' : Mbuf} (hdst : m'.ipDstAddr = m.ipDstAddr) :
    Emits (LanSends (Host.settings host) m) host (wanSetMacs host m' .wan).2 ∧
      (wanSetMacs host m' .wan).1 = m'.withData ((Host.settings host).addressed m') := by
  obtain ⟨hresolve, hmac, hmiss⟩ :=
    emits_resolveNextHop (LanSends (Host.settings host) m) host m'.ipDstAddr
  unfold wanSetMacs
  generalize resolveNextHop host m'.ipDstAddr = r at hresolve hmac hmiss ⊢
  obtain ⟨needArp, mac, host₁⟩ := r
  dsimp only at hresolve hmac hmiss ⊢
  subst hmac
  have hsettings := hresolve.settings
  cases needArp with
  | false =>
    refine ⟨hresolve, ?_⟩
    rw [HostSettings.addressed, ← hsettings]
    rfl
  | true =>
    have hnone : (Host.settings host₁).arpLookup (bswap32 m.ipDstAddr) = none := by
      rw [hsettings, ← hdst]
      exact hmiss rfl
    have harp := emits_sendArpRequest host₁ hnone
    rw [hsettings, ← hdst] at harp
    refine ⟨hresolve.trans harp, ?_⟩
    have hmacaddr := congrArg HostSettings.macaddr (harp.settings.trans hsettings)
    rw [HostSettings.addressed, ← hmacaddr]
    rfl

theorem emits_forgeAndSendAck (hwrite : m.isRoceWrite) (host : Host) :
    Emits (LanSends (Host.settings host) m) host (forgeAndSendAck host m).2 := by
  obtain ⟨halloc, hlen⟩ := emits_allocAppend
    (P := LanSends (Host.settings host) m) host 62
  unfold forgeAndSendAck
  generalize host.allocAppend 62 = r at halloc hlen ⊢
  obtain ⟨b, host₁⟩ := r
  cases b with
  | none => exact halloc
  | some b => exact halloc.trans (emits_txOrFree host₁ (.ack hwrite (hlen b rfl) rfl))

theorem emits_cnpEmit (s : HostSettings) (m : Mbuf) (proc : ProcessorContext) (i : Fin maxQpCtx)
    (now : Nat) (host : Host) : Emits (LanSends s m) host (cnpEmit proc i now host).2 := by
  obtain ⟨halloc, -⟩ := emits_allocAppend (P := LanSends s m) host 74
  unfold cnpEmit ccBuildCnp
  dsimp only
  split
  · exact .refl host
  split
  · exact .refl host
  generalize host.allocAppend 74 = r at halloc ⊢
  obtain ⟨b, host₁⟩ := r
  cases b with
  | none => exact halloc
  | some b =>
    have hsent : ∀ dst src : EtherAddr, Emits (LanSends s m) host (host₁.txOrFree .lan
        ⟨b.id, b.room, 74, stMac (stMac (cnpFrame b.data proc.congestionCtrl.cnpSrcIp
          (proc.qpMgr.qps i).notifyIp (proc.qpMgr.qps i).qpn (proc.qpMgr.qps i).pkey) 0 dst) 6
          src⟩).2 :=
      fun dst src => halloc.trans (emits_txOrFree host₁ (.cnp rfl rfl))
    dsimp only
    split
    · exact hsent _ _
    · exact hsent _ _

theorem emits_checkCongestion (s : HostSettings) (m : Mbuf) (proc : ProcessorContext) (host : Host) :
    Emits (LanSends s m) host (checkCongestion proc host).2 := by
  have hfold : ∀ (is : List (Fin maxQpCtx)) (now : Nat) (r : ProcessorContext × Host),
      Emits (LanSends s m) r.2 (is.foldl (fun (r : ProcessorContext × Host) i =>
        if (r.1.qpMgr.qps i).active then cnpEmit r.1 i now r.2 else r) r).2 := by
    intro is now
    induction is with
    | nil => exact fun r => .refl r.2
    | cons i is ih =>
      intro r
      rw [List.foldl_cons]
      split
      · exact (emits_cnpEmit s m r.1 i now r.2).trans (ih _)
      · exact ih r
  unfold checkCongestion
  dsimp only
  split
  · exact .refl host
  · exact (emits_rdtsc host).trans (hfold _ _ (_, host.rdtsc.2))

theorem emits_lanCount (s : HostSettings) (m : Mbuf) (proc : ProcessorContext) (host : Host) :
    Emits (LanSends s m) host (lanCount proc host).2 := by
  unfold lanCount
  dsimp only
  split
  · exact emits_checkCongestion s m _ host
  · exact .refl host

theorem emits_lanNotify (s : HostSettings) (m : Mbuf) (proc : ProcessorContext) (i : Fin maxQpCtx)
    (host : Host) : Emits (LanSends s m) host (lanNotify proc i m host).2 := by
  unfold lanNotify
  dsimp only
  split
  · exact (emits_rdtsc host).trans (emits_cnpEmit s m _ i _ _)
  · exact .refl host

theorem emits_lanTrack (P : Port → Mbuf → Prop) (proc : ProcessorContext) (w : Mbuf)
    (qpn psn : Nat) (ty : WriteSegmentType) (peerIp : Nat) (host : Host) :
    Emits P host (lanTrack proc w qpn psn ty peerIp host).2.2 := by
  have htrace := (lanTrack_tracks proc w qpn psn ty peerIp host).1.trace
  have hsettings : Host.settings (lanTrack proc w qpn psn ty peerIp host).2.2 =
      Host.settings host := by
    unfold lanTrack
    split <;> rfl
  exact ⟨hsettings, [], htrace, by simp⟩

theorem emits_lanTransmit {P : Port → Mbuf → Prop} {w : Mbuf} (hw : P .wan w)
    (proc : ProcessorContext) (inWindow : Int) (host : Host) :
    Emits P host (lanTransmit proc w inWindow host).2 := by
  unfold lanTransmit
  dsimp only
  split
  · refine ⟨rfl, _, (txKeeping_trace w host.io).1, fun port f accepted hf => ?_⟩
    have hself : port = .wan ∧ f = w := by
      generalize (txKeeping w host.io).1 = taken at hf
      cases taken <;> simp [keepEvents] at hf <;> exact ⟨hf.1, hf.2.1⟩
    rw [hself.1, hself.2]
    exact hw
  · exact emits_txOrFree host hw

theorem emits_lanForward (hwrite : m.isRoceWrite) (proc : ProcessorContext) (peerIp : Nat)
    (host : Host) (hpeer : (Host.settings host).peerOf m ≠ 0) :
    Emits (LanSends (Host.settings host) m) host (lanForward proc m peerIp host).2 := by
  have hack := emits_forgeAndSendAck hwrite host
  unfold lanForward
  dsimp only
  generalize (forgeAndSendAck host m).2 = host₁ at hack ⊢
  have hsettings := hack.settings
  obtain ⟨hmacs, hw⟩ := emits_wanSetMacs host₁ (setSrcAddr_ipDstAddr host₁.wanTunnelSrcIp m)
  rw [wanFwdRoce]
  have hsrc : host₁.wanTunnelSrcIp = (Host.settings host).wanTunnelSrcIp :=
    congrArg HostSettings.wanTunnelSrcIp hsettings
  rw [hsettings] at hmacs hw
  generalize wanSetMacs host₁ (setSrcAddr host₁.wanTunnelSrcIp m) .wan = fwd at hmacs hw ⊢
  obtain ⟨w, host₂⟩ := fwd
  dsimp only at hmacs hw ⊢
  rw [hsrc] at hw
  have hsent : LanSends (Host.settings host) m .wan w := .forwarded hwrite hpeer hw
  generalize ((proc.count .writePktsProcessed).count .pktsLanToWan).count .ackSpoofedSent = proc₀
  have htrack := emits_lanTrack (LanSends (Host.settings host) m) proc₀ w m.bthGetQpn m.bthGetPsn
    (getSegmentType m.bthOpcode) peerIp host₂
  generalize lanTrack proc₀ w m.bthGetQpn m.bthGetPsn (getSegmentType m.bthOpcode) peerIp host₂ =
    track at htrack ⊢
  have hsend := emits_lanTransmit hsent track.2.1 track.1 track.2.2
  exact (((hack.trans hmacs).trans htrack).trans hsend).trans (emits_lanCount _ m _ _)

theorem emits_lanPassthrough (proc : ProcessorContext) (host : Host)
    (htype : m.etherType = rteEtherTypeIpv4)
    (hwhy : (Host.settings host).peerOf m = 0 ∨ ¬ m.isRoceWrite) :
    Emits (LanSends (Host.settings host) m) host (lanPassthrough proc m host).2 := by
  obtain ⟨hmacs, hw⟩ := emits_wanSetMacs host (m := m) rfl
  refine hmacs.trans (emits_txOrFree _ ?_)
  exact .passed htype hwhy hw

theorem emits_lanWrite (hwrite : m.isRoceWrite) (proc : ProcessorContext) (peerIp : Nat)
    (host : Host) (hpeer : (Host.settings host).peerOf m ≠ 0) :
    Emits (LanSends (Host.settings host) m) host (lanWrite proc m peerIp host).2 := by
  rw [lanWrite]
  split
  · exact emits_free host m
  · rename_i i qpMgr _
    have hnotify := emits_lanNotify (Host.settings host) m { proc with qpMgr := qpMgr } i host
    dsimp only
    generalize lanNotify { proc with qpMgr := qpMgr } i m host = r at hnotify ⊢
    have hforward := emits_lanForward hwrite r.1 peerIp r.2 (by rwa [hnotify.settings])
    rw [hnotify.settings] at hforward
    exact hnotify.trans hforward

/-- Every frame a packet from the LAN makes the gateway send. -/
theorem lan_emits (proc : ProcessorContext) (m : Mbuf) (host : Host) :
    Emits (LanSends (Host.settings host) m) host (procProcessLanRx proc m host).2 := by
  rcases lan_path proc m host with ⟨-, heq⟩ | ⟨htype, hno, heq⟩ | ⟨htunnel, heq⟩
  · rw [heq]
    exact emits_free host m
  · rw [heq]
    apply emits_lanPassthrough proc host htype
    by_cases hwrite : m.isRoceWrite
    · exact .inl (not_not.mp fun hpeer => hno ⟨hwrite, hpeer⟩)
    · exact .inr hwrite
  · rw [heq]
    exact emits_lanWrite htunnel.1 proc _ host htunnel.2

end Lan

/-! ## The WAN side -/

/-- Feedback for packet `m` acknowledges its PSN or reports some PSN missing. -/
def IsAckOrNack (m : Mbuf) (type psn : Nat) : Prop :=
  type = arqMsgAck ∧ psn = m.bthGetPsn ∨ type = arqMsgNack

/-- The frames that `proc_process_wan_rx` passes to a port because of packet `m`: a segment
that the buffer held with `m` in it, or a control message to the peer of `m`. -/
inductive WanSends (s : HostSettings) (proc : ProcessorContext) (host : Host) (m : Mbuf) :
    Port → Mbuf → Prop
  | delivered {seg : Mbuf} (hwrite : m.isRoceWrite)
      (hseg : seg ∈ (jbGetOrderedSegs (addSegOf proc host m).2.1 m.bthGetQpn).2) :
      WanSends s proc host m .lan (setSrcAddr s.wanTunnelSrcIp seg)
  | ctrl {f : Mbuf} {b : ByteMem} {type psn : Nat} (hwrite : m.isRoceWrite)
      (hmsg : IsAckOrNack m type psn) (hlen : f.dataLen = 318)
      (hdata : f.data = ctrlFrame b ((s.arpLookup (s.peerOf m)).getD (.fill 0xFF))
        s.wanTunnelSrcIp (s.peerOf m) m.bthGetQpn type psn none 0) :
      WanSends s proc host m .wan f

section Wan

variable {m : Mbuf} {host : Host} {P : Port → Mbuf → Prop}

/-- A control message for the peer of packet `m`, in the frame that carries it. -/
def IsCtrlFrame (s : HostSettings) (m : Mbuf) (port : Port) (f : Mbuf) : Prop :=
  port = .wan ∧ f.dataLen = 318 ∧ ∃ b type psn, IsAckOrNack m type psn ∧
    f.data = ctrlFrame b ((s.arpLookup (s.peerOf m)).getD (.fill 0xFF)) s.wanTunnelSrcIp
      (s.peerOf m) m.bthGetQpn type psn none 0

theorem emits_wanSendCtrl (proc : ProcessorContext) {type psn : Nat} {m : Mbuf}
    (hmsg : IsAckOrNack m type psn) (counter : StatCounter) (host : Host) :
    Emits (IsCtrlFrame (Host.settings host) m) host
      (wanSendCtrl proc m.bthGetQpn type psn m counter host).2 := by
  obtain ⟨halloc, -⟩ := emits_allocAppend (P := IsCtrlFrame (Host.settings host) m) host 318
  unfold wanSendCtrl arqBuildCtrlMsg
  dsimp only
  generalize host.allocAppend 318 = r at halloc ⊢
  obtain ⟨b, host₁⟩ := r
  cases b with
  | none => exact halloc
  | some b =>
    have hlookup : arpCacheLookup host₁ = (Host.settings host).arpLookup := by
      rw [← halloc.settings]
      rfl
    have hsrc : host₁.wanTunnelSrcIp = host.wanTunnelSrcIp :=
      congrArg HostSettings.wanTunnelSrcIp halloc.settings
    refine halloc.trans (emits_txOrFree host₁ ⟨rfl, rfl, b.data, type, psn, hmsg, ?_⟩)
    rw [hlookup, hsrc]
    rfl

theorem emits_wanNack (proc : ProcessorContext) (m : Mbuf) (host : Host) :
    Emits (IsCtrlFrame (Host.settings host) m) host (wanNack proc m host).2 := by
  unfold wanNack
  dsimp only
  split
  · exact emits_wanSendCtrl proc (Or.inr rfl) _ host
  · exact .refl host

/-- Handing segments to the LAN. -/
theorem emits_handOver (srcIp : Nat) (segs : List Mbuf)
    (hsegs : ∀ seg ∈ segs, P .lan (setSrcAddr srcIp seg)) :
    ∀ host : Host, host.wanTunnelSrcIp = srcIp → Emits P host (segs.foldl wanHandOver host) := by
  induction segs with
  | nil => exact fun host _ => .refl host
  | cons seg segs ih =>
    intro host hsrc
    have hone : Emits P host (wanHandOver host seg) := by
      apply emits_txOrFree host
      rw [wanPrepareForLan, hsrc]
      exact hsegs seg List.mem_cons_self
    have hsrc' := (congrArg HostSettings.wanTunnelSrcIp hone.settings).trans hsrc
    exact hone.trans (ih (fun s hs => hsegs s (List.mem_cons_of_mem seg hs)) _ hsrc')

/-- A segment the buffer holds for the QPN of `m`, on its way to the LAN. -/
def IsHandedOver (s : HostSettings) (jb : JitterBuffer Mbuf) (m : Mbuf) (port : Port) (f : Mbuf) :
    Prop :=
  port = .lan ∧ ∃ seg ∈ (jbGetOrderedSegs jb m.bthGetQpn).2, f = setSrcAddr s.wanTunnelSrcIp seg

theorem emits_wanDeliver (proc : ProcessorContext) (m : Mbuf) (host : Host) :
    Emits (fun port f => IsCtrlFrame (Host.settings host) m port f ∨
      IsHandedOver (Host.settings host) proc.jitterBuffer m port f) host
      (wanDeliver proc m host).2 := by
  unfold wanDeliver
  dsimp only
  split
  swap
  · exact .refl host
  generalize hsegs : jbGetOrderedSegs proc.jitterBuffer m.bthGetQpn = segs
  obtain ⟨rc, out⟩ := segs
  dsimp only
  split
  swap
  · exact .refl host
  have hhand : Emits (fun port f => IsCtrlFrame (Host.settings host) m port f ∨
      IsHandedOver (Host.settings host) proc.jitterBuffer m port f) host
      (out.foldl wanHandOver host) := by
    refine emits_handOver host.wanTunnelSrcIp out (fun seg hseg => Or.inr ⟨rfl, seg, ?_, rfl⟩)
      host rfl
    rw [hsegs]
    exact hseg
  generalize out.foldl wanHandOver host = host₁ at hhand ⊢
  have hremove : Emits (fun port f => IsCtrlFrame (Host.settings host) m port f ∨
      IsHandedOver (Host.settings host) proc.jitterBuffer m port f) host₁
      { host₁ with io := (jbRemoveWrite proc.jitterBuffer m.bthGetQpn host₁.io).2 } := by
    apply emits_silent (jbRemoveWrite_trace _ _ host₁.io)
    intro port f accepted hf
    cases hctx : proc.jitterBuffer.ctxOf m.bthGetQpn <;> simp [hctx] at hf
  have hctrl := emits_wanSendCtrl
    { proc with jitterBuffer := (jbRemoveWrite proc.jitterBuffer m.bthGetQpn host₁.io).1 }
    (Or.inl ⟨rfl, rfl⟩ : IsAckOrNack m arqMsgAck m.bthGetPsn) .arqAckSent
    { host₁ with io := (jbRemoveWrite proc.jitterBuffer m.bthGetQpn host₁.io).2 }
  rw [hremove.settings, hhand.settings] at hctrl
  exact (hhand.trans hremove).trans (hctrl.mono fun _ _ => Or.inl)

theorem emits_wanWrite (hwrite : m.isRoceWrite) (proc : ProcessorContext) (host : Host) :
    Emits (WanSends (Host.settings host) proc host m) host (wanWrite proc m host).2 := by
  have hctrl : ∀ port f, IsCtrlFrame (Host.settings host) m port f →
      WanSends (Host.settings host) proc host m port f := by
    rintro port f ⟨rfl, hlen, b, type, psn, hmsg, hdata⟩
    exact .ctrl hwrite hmsg hlen hdata
  -- a packet that is taken leaves `jb` behind and is then tested for completion
  have htaken : ∀ {rc : Int} {jb : JitterBuffer Mbuf} {io : Io Mbuf},
      addSegOf proc host m = (rc, jb, io) → ¬ rc < 0 →
      Emits (WanSends (Host.settings host) proc host m) host { host with io := io } →
      Emits (WanSends (Host.settings host) proc host m) host (wanWrite proc m host).2 := by
    intro rc jb io hadd hnot hio
    have hdeliver : ∀ (proc' : ProcessorContext) (host' : Host), proc'.jitterBuffer = jb →
        Emits (WanSends (Host.settings host) proc host m) host host' →
        Emits (WanSends (Host.settings host) proc host m) host (wanDeliver proc' m host').2 := by
      intro proc' host' hjb hhost'
      have hall := emits_wanDeliver proc' m host'
      rw [hhost'.settings, hjb] at hall
      refine hhost'.trans (hall.mono fun port f hf => ?_)
      rcases hf with hf | ⟨rfl, seg, hseg, rfl⟩
      · exact hctrl port f hf
      · exact .delivered hwrite (by rwa [hadd])
    rw [wanWrite_of_added hadd hnot]
    dsimp only
    split
    · have hnack := emits_wanNack { proc.count .pktsWanToLan with jitterBuffer := jb } m
        { host with io := io }
      exact hdeliver _ _ (wanNack_emits _ m _).1 (hio.trans (hnack.mono hctrl))
    · exact hdeliver _ _ rfl hio
  cases jbAddSeg_outcome proc.jitterBuffer m.bthGetQpn m.bthGetPsn (getSegmentType m.bthOpcode) m
      host.io with
  | full _ _ hr =>
    have hdrop : wanWrite proc m host =
        ((proc.count .pktsWanToLan).count .pktsDropped, host.free m) := by
      simp only [wanWrite, count_jitterBuffer, hr]
      rfl
    rw [hdrop]
    exact emits_free host m
  | duplicate _ _ hr => exact htaken hr (by decide) (emits_free host m)
  | stored _ _ _ hr => exact htaken hr (by decide) (.refl host)
  | opened _ _ hr => exact htaken hr (by decide) (.refl host)

/-- Every frame a packet from the WAN makes a core send whose windows are those of
`arq_mgr_init`. -/
theorem wan_emits {proc : ProcessorContext} (h : proc.arqMgr = arqMgrInit) (m : Mbuf)
    (host : Host) :
    Emits (WanSends (Host.settings host) proc host m) host (procProcessWanRx proc m host).2 := by
  have hfeedback : ∀ msg, Emits (WanSends (Host.settings host) proc host m) host
      (wanFeedback proc msg host).2 := by
    intro msg
    have htrace := (wanFeedback_init h msg host).trace
    have hsettings : Host.settings (wanFeedback proc msg host).2 = Host.settings host := by
      unfold wanFeedback
      split
      · rfl
      · split
        · rfl
        · split <;> rfl
    exact ⟨hsettings, [], htrace, by simp⟩
  rcases wan_path proc m host with ⟨-, -, heq⟩ | ⟨-, heq⟩ | ⟨hwrite, heq⟩
  · rw [heq]
    exact emits_free host m
  · rw [heq]
    unfold wanControl
    split
    · exact emits_free host m
    · exact (hfeedback _).trans (emits_free _ m)
  · rw [heq]
    exact emits_wanWrite hwrite proc host

/-- The timer of such a core sends nothing. -/
theorem timer_emits {proc : ProcessorContext} (h : proc.arqMgr = arqMgrInit) (host : Host) :
    Emits P host (procTimerCallback proc host).2 := by
  have htrace := (procTimerCallback_idle h host).1
  refine ⟨?_, [], by simpa using htrace, by simp⟩
  rw [procTimerCallback, h, foldl_timerVisit_init]
  rfl

end Wan

end RdmaGateway.Processor
