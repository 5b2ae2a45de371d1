/-
  Gateway/Frames.lean --- what the gateway puts on its two wires.

  A frame is one that the gateway built (`IsBuilt`) or one that it received.  The ones it
  received leave with the length they came with, and with every byte they came with
  outside the MAC addresses, the header checksum and the source address
  (`frames_built_or_received`).  Nothing ever enters the ARP cache, so every packet of
  the LAN goes to `DEFAULT_GW_MAC`, whatever its destination, and everything the gateway
  builds for the WAN is broadcast (`next_hops_never_learned`).
-/
import RdmaGateway.Gateway.Built
import RdmaGateway.Gateway.Icrc

set_option autoImplicit false

namespace RdmaGateway.Gateway

open RdmaGateway.Foundation
open RdmaGateway.Dpdk
open RdmaGateway.Wire
open RdmaGateway.Roce
open RdmaGateway.Tunnel
open RdmaGateway.Arq
open RdmaGateway.Reassembly
open RdmaGateway.Processor

variable {L W : Nat}

/-! ## The frames of one call -/

/-- The frames that a call passes to a port. -/
def CallSends (g : Cores L W) (port : Port) (f : Mbuf) : CoreCall L W → Prop
  | .lanRx _ m => LanSends (Host.settings g.host) m port f
  | .wanRx j m => WanSends (Host.settings g.host) (g.procs (wanIndex j)) g.host m port f
  | .timer _ => False

theorem call_emits {g : Cores L W} (h : WanWindowsEmpty g) (c : CoreCall L W) :
    Emits (fun port f => CallSends g port f c) g.host (g.step c).host := by
  have hupdate : ∀ {P : Port → Mbuf → Prop} (k : Fin (L + W)) (r : ProcessorContext × Host),
      Emits P g.host r.2 → Emits P g.host (g.update k r).host := fun _ _ hr => hr
  cases c with
  | lanRx i m => exact hupdate _ _ (lan_emits (g.procs (lanIndex i)) m g.host)
  | wanRx j m => exact hupdate _ _ (wan_emits (h j) m g.host)
  | timer j => exact hupdate _ _ (timer_emits (h j) g.host)

theorem callSends_of_mem {g : Cores L W} (h : WanWindowsEmpty g) {c : CoreCall L W} {port : Port}
    {f : Mbuf} {accepted : Bool} (hf : .txBurst port f accepted ∈ g.events c) :
    CallSends g port f c := by
  obtain ⟨ev, htrace, hframes⟩ := (call_emits h c).frames
  rw [Cores.events, htrace, List.drop_left] at hf
  exact hframes port f accepted hf

/-- No call changes a setting. -/
theorem run_settings (host : Host) (calls : List (CoreCall L W)) :
    Host.settings (run Cores.step (Cores.init L W host) calls).host = Host.settings host :=
  (run_induction (C := fun _ _ => True)
    (fun g c (h : WanWindowsEmpty g ∧ Host.settings g.host = Host.settings host) _ =>
      ⟨h.1.step c, (call_emits h.1 c).settings.trans h.2⟩)
    ⟨fun _ => rfl, rfl⟩ (stepsMeet_of_forall (fun _ _ _ => trivial) _)).2

/-! ## Frames the gateway received -/

/-- Frame `f` is packet `m` with other MAC addresses and, maybe, another IPv4 source address
and header checksum. -/
def IsRelayed (m f : Mbuf) : Prop :=
  f.dataLen = m.dataLen ∧ ∀ i, 12 ≤ i → ¬ (24 ≤ i ∧ i < 30) → f.data i = m.data i

theorem isRelayed_setSrcAddr (srcIp : Nat) (m : Mbuf) : IsRelayed m (setSrcAddr srcIp m) :=
  ⟨rfl, fun i _ hi => UInt8.toNat_inj.mp (setSrcAddr_ld8 srcIp m (by omega))⟩

theorem isRelayed_addressed (s : HostSettings) {m m' : Mbuf} (h : IsRelayed m m') :
    IsRelayed m (m'.withData (s.addressed m')) := by
  refine ⟨h.1, fun i hge hi => ?_⟩
  rw [Mbuf.withData_data, HostSettings.addressed, stMac_of_ge _ _ (by omega),
    stMac_of_ge _ _ (by omega)]
  exact h.2 i hge hi

theorem IsRelayed.refl (m : Mbuf) : IsRelayed m m := ⟨rfl, fun _ _ _ => rfl⟩

/-! ## Frames for the WAN -/

/-- The MAC addresses of a packet that leaves on the WAN port. -/
theorem addressed_macs (s : HostSettings) (m m' : Mbuf) :
    (m'.withData (s.addressed m)).ethDst =
        (s.arpLookup (bswap32 m.ipDstAddr)).getD defaultGwMac ∧
      (m'.withData (s.addressed m)).ethSrc = s.macaddr .wan := by
  constructor
  · rw [Mbuf.ethDst, Mbuf.withData_data, HostSettings.addressed,
      ldMac_congr fun i hi => stMac_ld8 _ _ (Or.inl (by omega)), ldMac_stMac]
  · rw [Mbuf.ethSrc, Mbuf.withData_data, HostSettings.addressed, ldMac_stMac]

/-- What a frame is that a call passes to the WAN port, and which MAC addresses it has: a
packet of the LAN for the hop that the cache names, a request for that hop, or feedback for
the hop that the cache names for the peer. -/
inductive WanFrame (s : HostSettings) (f : Mbuf) : CoreCall L W → Prop
  | relayed (i : Fin L) (m : Mbuf) (hrelayed : IsRelayed m f)
      (hdst : f.ethDst = (s.arpLookup (bswap32 m.ipDstAddr)).getD defaultGwMac)
      (hsrc : f.ethSrc = s.macaddr .wan) : WanFrame s f (.lanRx i m)
  | asked (i : Fin L) (m : Mbuf) (harp : IsArp f)
      (hmiss : s.arpLookup (bswap32 m.ipDstAddr) = none)
      (htarget : f.data.ld32 38 = m.ipDstAddr) (hdst : f.ethDst = .fill 0xFF) :
      WanFrame s f (.lanRx i m)
  | feedback (j : Fin W) (m : Mbuf) (hwrite : m.isRoceWrite) (hfeedback : IsFeedbackFor m f)
      (hpeer : f.ipDstAddr = s.peerOf m % 4294967296)
      (hdst : f.ethDst = (s.arpLookup (s.peerOf m)).getD (.fill 0xFF)) :
      WanFrame s f (.wanRx j m)

theorem CallSends.wanFrame {g : Cores L W} {f : Mbuf} {c : CoreCall L W}
    (h : CallSends g .wan f c) : WanFrame (Host.settings g.host) f c := by
  cases c with
  | lanRx i m =>
    rw [CallSends] at h
    cases h with
    | arp hmiss hlen hdata =>
      apply WanFrame.asked i m (arpFrame_isArp hlen hdata) hmiss _ (arpFrame_ethDst hdata)
      rw [hdata]
      exact arpFrame_target _ _ _ m
    | passed _ _ hf =>
      obtain ⟨hdst, hsrc⟩ := addressed_macs (Host.settings g.host) m m
      rw [hf]
      exact .relayed i m (isRelayed_addressed _ (.refl m)) hdst hsrc
    | forwarded _ _ hf =>
      obtain ⟨hdst, hsrc⟩ := addressed_macs (Host.settings g.host)
        (setSrcAddr (Host.settings g.host).wanTunnelSrcIp m) m
      rw [setSrcAddr_ipDstAddr] at hdst
      rw [hf]
      exact .relayed i m (isRelayed_addressed _ (isRelayed_setSrcAddr _ m)) hdst hsrc
  | wanRx j m =>
    rw [CallSends] at h
    cases h with
    | ctrl hwrite hmsg hlen hdata =>
      apply WanFrame.feedback j m hwrite (isFeedbackFor_of_built hmsg hlen hdata) _
        (ctrlFrame_ethDst hdata)
      rw [Mbuf.ipDstAddr, hdata]
      exact (ctrlFrame_addrs _ _ _ _ _ _ _ _ _).2
  | timer j => exact h.elim

/-! ## All frames -/

/-- The packets that a call can send on: the one it is made for and, on a WAN core, those
the core received before. -/
def received (calls : List (CoreCall L W)) : CoreCall L W → List Mbuf
  | .lanRx _ m => [m]
  | .wanRx j m => wanReceived j calls ++ [m]
  | .timer _ => []

/-- In every state the gateway reaches, a frame that a call passes to a port is one that
the call built for that port, or a packet the core received, of the same length and the same
bytes but for MAC addresses, header checksum and source address. -/
theorem frames_built_or_received (host : Host) (calls : List (CoreCall L W)) (c : CoreCall L W)
    {port : Port} {f : Mbuf} {accepted : Bool}
    (hf : .txBurst port f accepted ∈ (run Cores.step (Cores.init L W host) calls).events c) :
    IsBuilt f c port ∨ ∃ m ∈ received calls c, IsRelayed m f := by
  have hholds := holdsReceived_run host calls
  have hsends := callSends_of_mem (wan_windows_empty host calls) hf
  generalize run Cores.step (Cores.init L W host) calls = g at hholds hsends
  cases port with
  | wan =>
    cases hsends.wanFrame with
    | relayed i m hrelayed => exact Or.inr ⟨m, List.mem_singleton_self m, hrelayed⟩
    | asked i m harp _ htarget => exact Or.inl (.arp i m harp htarget)
    | feedback j m hwrite hfeedback => exact Or.inl (.feedback j m hwrite hfeedback)
  | lan =>
    cases c with
    | lanRx i m =>
      cases hsends with
      | @ack _ b hwrite hlen hdata =>
        have hbytes : DatagramBytes f.data f.dataLen := by
          rw [hlen, hdata]
          exact ackFrame_datagram b hwrite
        exact Or.inl (.ack i m hwrite hbytes.isDatagram
          (isAckOf_of_forged ⟨rfl, hlen, b, hdata⟩))
      | cnp hlen hdata => exact Or.inl (.cnp i m (isCnpFrame_of_built hlen hdata))
    | wanRx j m =>
      cases hsends with
      | @delivered seg _ hseg =>
        obtain ⟨i, k, -, -, hmbuf⟩ := jbGetOrderedSegs_subset hseg
        have hmore : Holds (fun _ x => x ∈ wanReceived j calls ++ [m])
            (g.procs (wanIndex j)).jitterBuffer :=
          fun i k x hx => List.mem_append_left _ (hholds j i k x hx)
        have hadd : Holds (fun _ x => x ∈ wanReceived j calls ++ [m])
            (addSegOf (g.procs (wanIndex j)) g.host m).2.1 :=
          hmore.addSeg _ _ (List.mem_append_right _ (List.mem_singleton_self m)) _
        exact Or.inr ⟨seg, hadd i k seg hmbuf, isRelayed_setSrcAddr _ seg⟩
    | timer j => exact hsends.elim

/-- A WRITE that is forwarded. -/
theorem frames_built_or_received_forwarded :
    ∃ (host : Host) (f : Mbuf) (accepted : Bool),
      .txBurst .wan f accepted ∈ (Cores.init 1 0 host).events (.lanRx 0 writePacket) ∧
        (IsBuilt (L := 1) (W := 0) f (.lanRx 0 writePacket) .wan ∨
          ∃ m ∈ [writePacket], IsRelayed m f) := by
  obtain ⟨host, f, accepted, -, -, hf, -⟩ :=
    exists_forwarded 0 (m := writePacket) (by decide +kernel)
  exact ⟨host, f, accepted, hf, frames_built_or_received host [] _ hf⟩

/-! ## Where the frames go -/

/-- An ARP cache as `arp_cache_init` leaves it knows nobody. -/
theorem arpLookup_init {s : HostSettings} (h : s.arpCache = arpCacheInit) (ipAddr : Nat) :
    s.arpLookup ipAddr = none := by
  simp [HostSettings.arpLookup, h, arpCacheInit, Ring.get, Ring.const, ArpEntry.zero]

/-- From the start with an empty ARP cache on, no address is ever found in it, and every
frame that leaves on the WAN port is one the gateway built, and broadcast, or a packet of the
LAN for `DEFAULT_GW_MAC` from the port's own address. -/
theorem next_hops_never_learned (host : Host) (harp : host.arpCache = arpCacheInit)
    (calls : List (CoreCall L W)) :
    (∀ ipAddr, arpCacheLookup (run Cores.step (Cores.init L W host) calls).host ipAddr = none) ∧
      ∀ (c : CoreCall L W) {f : Mbuf} {accepted : Bool},
        .txBurst .wan f accepted ∈ (run Cores.step (Cores.init L W host) calls).events c →
          f.ethDst = .fill 0xFF ∧ IsBuilt f c .wan ∨
            f.ethDst = defaultGwMac ∧ f.ethSrc = host.macaddr .wan ∧
              ∃ i m, c = .lanRx i m ∧ IsRelayed m f := by
  have hwindows := wan_windows_empty host calls
  have hsettings := run_settings host calls
  have hlookup := arpLookup_init (s := Host.settings host) harp
  generalize run Cores.step (Cores.init L W host) calls = g at hwindows hsettings ⊢
  refine ⟨fun ipAddr => ?_, fun c f accepted hf => ?_⟩
  · have hmiss := hlookup ipAddr
    rw [← hsettings] at hmiss
    exact hmiss
  · have hframe := (callSends_of_mem hwindows hf).wanFrame
    rw [hsettings] at hframe
    cases hframe with
    | relayed i m hrelayed hdst hsrc =>
      rw [hlookup] at hdst
      exact Or.inr ⟨hdst, hsrc, i, m, rfl, hrelayed⟩
    | asked i m harp _ htarget hdst => exact Or.inl ⟨hdst, .arp i m harp htarget⟩
    | feedback j m hwrite hfeedback _ hdst =>
      rw [hlookup] at hdst
      exact Or.inl ⟨hdst, .feedback j m hwrite hfeedback⟩

/-- A WRITE that is forwarded by a gateway whose ARP cache is empty. -/
theorem next_hops_never_learned_forwarded :
    ∃ f ∈ (Cores.init 1 1 .unloaded).sends (.lanRx 0 writePacket),
      (∀ ipAddr, arpCacheLookup .unloaded ipAddr = none) ∧
        (f.ethDst = .fill 0xFF ∧ IsBuilt (L := 1) (W := 1) f (.lanRx 0 writePacket) .wan ∨
          f.ethDst = defaultGwMac ∧ f.ethSrc = Host.unloaded.macaddr .wan ∧
            ∃ i m, (CoreCall.lanRx (0 : Fin 1) writePacket : CoreCall 1 1) = .lanRx i m ∧
              IsRelayed m f) := by
  have hsome : 0 < ((Cores.init 1 1 .unloaded).sends (.lanRx 0 writePacket)).length := by
    decide +kernel
  obtain ⟨f, hf⟩ := List.exists_mem_of_length_pos hsome
  obtain ⟨accepted, hmem⟩ := mem_wanFrames.mp hf
  obtain ⟨hmiss, hgoes⟩ := next_hops_never_learned (L := 1) (W := 1) .unloaded rfl []
  exact ⟨f, hf, hmiss, hgoes _ hmem⟩

end RdmaGateway.Gateway
