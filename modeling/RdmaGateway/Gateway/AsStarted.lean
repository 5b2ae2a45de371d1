/-
  Gateway/AsStarted.lean --- the gateway that `main` starts.

  `main` empties the peer table after it has read the options (`peers_survive_iff`), and no
  core writes to it.  So the state in which the loops begin has no peer for any packet, and
  it stays that way: the gateway as started never tunnels.  A LAN core relays every IPv4
  frame as it is, apart from the MAC addresses, and drops the rest; it acknowledges nothing,
  tracks nothing and notifies nobody, and the answers of a WAN core go to 0.0.0.0.
-/
import RdmaGateway.Gateway.Icrc
import RdmaGateway.Gateway.Startup
import RdmaGateway.Gateway.Windows

set_option autoImplicit false

namespace RdmaGateway.Gateway

open RdmaGateway.Foundation
open RdmaGateway.Dpdk
open RdmaGateway.Wire
open RdmaGateway.Tunnel
open RdmaGateway.Arq
open RdmaGateway.Processor

/-- What the cores share when `main` enters the loops. -/
def Running.host (r : Running) (io : Io Mbuf) (macaddr : Port → EtherAddr) : Host where
  io := io
  wanTunnelSrcIp := r.wanTunnelSrcIp
  peerManager := r.peerManager
  arpCache := r.arpCache
  lastArpTime := 0
  macaddr := macaddr

/-- The contexts that `main` sets up with `proc_init`. -/
def Running.cores (r : Running) (io : Io Mbuf) (macaddr : Port → EtherAddr) :
    Cores r.lanCoreCount r.wanCoreCount :=
  Cores.init r.lanCoreCount r.wanCoreCount (r.host io macaddr)

/-! ## A packet for no peer -/

theorem of_mem_txEvents {port port' : Port} {f f' : Mbuf} {accepted accepted' : Bool}
    (h : .txBurst port f accepted ∈ txEvents port' f' accepted') : port = port' ∧ f = f' := by
  rcases List.mem_cons.mp h with heq | hfree
  · cases heq
    exact ⟨rfl, rfl⟩
  · cases accepted' <;> simp at hfree

/-- What a LAN core sends for a packet that it passes on as it is: to the WAN, an ARP request
or the packet with other MAC addresses. -/
def PassesUnchanged (srcIp : Nat) (m : Mbuf) (port : Port) (f : Mbuf) : Prop :=
  port = .wan ∧ (IsArpRequest srcIp .wan f ∨ IsReaddressed m f)

/-- A LAN core with no peer for a packet touches none of its tables. -/
theorem lan_no_peer (proc : ProcessorContext) {m : Mbuf} {host : Host}
    (hpeer : wanGetPeerIp host (bswap32 m.ipDstAddr) = 0) :
    (∃ c, (procProcessLanRx proc m host).1 = proc.count c) ∧
      ∃ ev, Adds host (procProcessLanRx proc m host).2 ev ∧
        ∀ port f accepted, .txBurst port f accepted ∈ ev →
          PassesUnchanged host.wanTunnelSrcIp m port f := by
  by_cases htype : m.etherType = rteEtherTypeIpv4
  · obtain ⟨hm, evArp, hadds, hown⟩ := wanSetMacs_emits host m
    rw [procProcessLanRx_no_peer proc htype hpeer]
    refine ⟨⟨_, rfl⟩, _, hadds.trans (txOrFree_adds _ .wan _), fun port f accepted hf => ?_⟩
    rcases List.mem_append.mp hf with harp | hself
    · have hreq := hown.of_mem harp
      obtain rfl := hreq.1
      exact ⟨rfl, .inl hreq⟩
    · obtain ⟨rfl, rfl⟩ := of_mem_txEvents hself
      exact ⟨rfl, .inr hm⟩
  · have hdrop : procProcessLanRx proc m host = (proc.count .pktsDropped, host.free m) :=
      if_pos htype
    rw [hdrop]
    exact ⟨⟨_, rfl⟩, _, free_adds host m, by simp⟩

/-! ## Runs -/

variable {L W : Nat}

/-- The tables of the LAN cores are as `proc_init` left them. -/
def LanTablesFresh (g : Cores L W) : Prop :=
  ∀ i, (g.procs (lanIndex i)).qpMgr = qpMgrInit ∧ (g.procs (lanIndex i)).arqMgr = arqMgrInit

theorem lanTablesFresh_step {g : Cores L W} (h : LanTablesFresh g)
    (hpeers : g.host.peerManager = pmInit) (c : CoreCall L W) : LanTablesFresh (g.step c) := by
  intro i
  rcases c.lanRx_or_elsewhere i with ⟨m, rfl⟩ | helse
  · obtain ⟨⟨counter, hproc⟩, -⟩ := lan_no_peer (g.procs (lanIndex i)) (m := m)
      (show wanGetPeerIp g.host (bswap32 m.ipDstAddr) = 0 by rw [wanGetPeerIp, hpeers]; rfl)
    rw [step_procs_self, hproc]
    exact h i
  · rw [step_procs_of_elsewhere _ helse]
    exact h i

theorem lanTablesFresh_run {host : Host} (hpeers : host.peerManager = pmInit)
    (calls : List (CoreCall L W)) :
    LanTablesFresh (run Cores.step (Cores.init L W host) calls) := by
  induction calls using List.reverseRecOn with
  | nil => exact fun _ => ⟨rfl, rfl⟩
  | append_singleton calls c ih =>
    rw [run_append, run_cons, run_nil]
    exact lanTablesFresh_step ih ((init_config host calls).1.trans hpeers) c

/-- What a call of the gateway as started sends: a LAN core passes its packet on unchanged, a
WAN core answers to 0.0.0.0 or delivers to the LAN. -/
def SendsAsStarted (srcIp : Nat) (port : Port) (f : Mbuf) : CoreCall L W → Prop
  | .lanRx _ m => PassesUnchanged srcIp m port f
  | .wanRx _ _ => port = .wan → f.ipDstAddr = 0
  | .timer _ => False

theorem call_sends_as_started {g : Cores L W} (hwindows : WanWindowsEmpty g)
    (hpeers : g.host.peerManager = pmInit) {c : CoreCall L W} {port : Port} {f : Mbuf}
    {accepted : Bool} (hf : .txBurst port f accepted ∈ g.events c) :
    SendsAsStarted g.host.wanTunnelSrcIp port f c := by
  have hpeer : ∀ dstIp, wanGetPeerIp g.host dstIp = 0 := fun dstIp => by
    rw [wanGetPeerIp, hpeers]
    rfl
  cases c with
  | lanRx i m =>
    obtain ⟨-, ev, hadds, hsends⟩ := lan_no_peer (g.procs (lanIndex i)) (m := m) (hpeer _)
    rw [Cores.events_of_adds (c := .lanRx i m) hadds] at hf
    exact hsends port f accepted hf
  | wanRx j m =>
    obtain ⟨ev, hadds, hframes⟩ := wan_frames (hwindows j) m g.host
    rw [Cores.events_of_adds (c := .wanRx j m) hadds] at hf
    rintro rfl
    rw [WanFrame.ipDstAddr (hframes _ _ _ hf), hpeer]
  | timer j =>
    rw [timer_events hwindows] at hf
    cases hf

/-- Whatever the command line and the peers on it: from the state in which `main` enters its
loops, over every run of the cores, the QP tables and the windows of the LAN cores stay as
they were set up, a LAN core sends nothing but ARP requests and the packet it received with
other MAC addresses, and whatever a WAN core sends to the WAN is addressed to 0.0.0.0. -/
theorem never_tunnels_as_started (env : Env) (opts : List MainOption) (r : Running)
    (h : main env opts = .ok r) (io : Io Mbuf) (macaddr : Port → EtherAddr)
    (calls : List (CoreCall r.lanCoreCount r.wanCoreCount)) :
    LanTablesFresh (run Cores.step (r.cores io macaddr) calls) ∧
      ∀ c port f accepted,
        .txBurst port f accepted ∈ (run Cores.step (r.cores io macaddr) calls).events c →
          SendsAsStarted r.wanTunnelSrcIp port f c := by
  obtain ⟨g, hstarted⟩ := started_of_main h
  have hpeers : (r.host io macaddr).peerManager = pmInit := hstarted.peerManager
  obtain ⟨hsame, hsrc⟩ := init_config (L := r.lanCoreCount) (W := r.wanCoreCount)
    (r.host io macaddr) calls
  refine ⟨lanTablesFresh_run hpeers calls, fun c port f accepted hf => ?_⟩
  have hsends := call_sends_as_started (wan_windows_empty _ calls) (hsame.trans hpeers) hf
  rw [hsrc] at hsends
  exact hsends

/-- With the default peer 10.0.0.200 on the command line. -/
theorem never_tunnels_as_started_default : ∃ r, main zeroOne (oneDefault ⟨10, 0, 0, 200⟩) = .ok r ∧
    ∀ calls, LanTablesFresh
      (run Cores.step (r.cores (.start (.accepting none)) fun _ => .fill 0) calls) := by
  obtain ⟨⟨r, hr⟩, -⟩ := oneDefault_runs ⟨10, 0, 0, 200⟩
  exact ⟨r, hr, fun calls => (never_tunnels_as_started zeroOne _ r hr _ _ calls).1⟩

end RdmaGateway.Gateway
