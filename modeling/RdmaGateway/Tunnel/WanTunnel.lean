/-
  Tunnel/WanTunnel.lean --- peer table, ARP cache and WAN forwarding
  (`src/peer_manager.c`, `src/wan_tunnel.c`).

  `Host` gathers what every core of the gateway shares: the environment, the
  configured tunnel address, the peer table, the ARP cache and the time of the
  last ARP request.  The peer table's MAC fields are zeroed and never read, and
  are left out; so is all logging.
-/
import RdmaGateway.Foundation.Ring
import RdmaGateway.Foundation.Word
import RdmaGateway.Wire.Mbuf

set_option autoImplicit false

namespace RdmaGateway.Tunnel

open RdmaGateway.Foundation
open RdmaGateway.Dpdk
open RdmaGateway.Wire

/-! ## Peers -/

/-- `MAX_PEERS` -/
def maxPeers : Nat := 32

/-- `peer_mapping_t` -/
structure PeerMapping where
  subnet : Nat
  subnetMask : Nat
  peerIp : Nat
  deriving DecidableEq

/-- `peer_manager_t`; `peer_count` is the length of the list. -/
structure PeerManager where
  peers : List PeerMapping
  defaultPeerIp : Nat

/-- `pm_init`. -/
def pmInit : PeerManager := ⟨[], 0⟩

/-- `pm_add`. -/
def pmAdd (pm : PeerManager) (subnet subnetMask peerIp : Nat) : Int × PeerManager :=
  if maxPeers ≤ pm.peers.length then (-1, pm)
  else (0, { pm with peers := pm.peers ++ [⟨subnet, subnetMask, peerIp⟩] })

/-- `pm_set_default`. -/
def pmSetDefault (pm : PeerManager) (peerIp : Nat) : PeerManager :=
  { pm with defaultPeerIp := peerIp }

/-- `pm_lookup`: the first subnet that matches, else the default, else `0`. -/
def pmLookup (pm : PeerManager) (dstIp : Nat) : Nat :=
  match pm.peers.find? fun p => dstIp &&& p.subnetMask == p.subnet with
  | some p => p.peerIp
  | none => pm.defaultPeerIp

/-! ## The shared state -/

/-- `ARP_CACHE_SIZE` -/
abbrev arpCacheSize : Nat := 128

/-- `arp_entry_t` -/
structure ArpEntry where
  ipAddr : Nat
  macAddr : EtherAddr
  timestamp : Nat
  valid : Bool

/-- The environment and the globals of the program. -/
structure Host where
  io : Io Mbuf
  wanTunnelSrcIp : Nat
  peerManager : PeerManager
  arpCache : Ring arpCacheSize ArpEntry
  lastArpTime : Nat
  macaddr : Port → EtherAddr

namespace Host

/-- `rte_pktmbuf_free`. -/
def free (host : Host) (m : Mbuf) : Host := { host with io := rtePktmbufFree m host.io }

/-- `rte_eth_tx_burst` of one packet. -/
def txBurst (host : Host) (port : Port) (m : Mbuf) : Bool × Host :=
  let (accepted, io) := rteEthTxBurst port m host.io
  (accepted, { host with io := io })

/-- `rte_eth_tx_burst` of a packet that is freed when the queue is full. -/
def txOrFree (host : Host) (port : Port) (m : Mbuf) : Bool × Host :=
  let (accepted, host) := host.txBurst port m
  (accepted, if accepted then host else host.free m)

/-- `rte_rdtsc`. -/
def rdtsc (host : Host) : Nat × Host :=
  let (now, io) := rteRdtsc host.io
  (now, { host with io := io })

/-- `rte_pktmbuf_alloc` and `rte_pktmbuf_append` of `len` bytes; a buffer too
small for them is freed again. -/
def allocAppend (host : Host) (len : Nat) : Option Mbuf × Host :=
  let (m, io) := pktmbufAlloc host.io
  let host := { host with io := io }
  match m with
  | none => (none, host)
  | some m =>
    match rtePktmbufAppend m len with
    | none => (none, host.free m)
    | some m => (some m, host)

end Host

/-- A host with one default peer whose ports take every packet and whose pool
never runs out. -/
def Host.unloaded : Host where
  io := .start (.accepting (some ⟨0, 2048, 0, fun _ => 0⟩))
  wanTunnelSrcIp := 0x0100000A
  peerManager := ⟨[], 0x0200000A⟩
  arpCache := Ring.const arpCacheSize ⟨0, .fill 0, 0, false⟩
  lastArpTime := 0
  macaddr := fun _ => ⟨[0x02, 0, 0, 0, 0, 1], rfl⟩

/-- `wan_get_peer_ip`. -/
def wanGetPeerIp (host : Host) (dstIp : Nat) : Nat := pmLookup host.peerManager dstIp

/-! ## ARP -/

/-- An entry after `memset` to zero. -/
def ArpEntry.zero : ArpEntry := ⟨0, .fill 0, 0, false⟩

/-- `arp_cache_init`. -/
def arpCacheInit : Ring arpCacheSize ArpEntry := Ring.const arpCacheSize .zero

/-- `arp_cache_add`. -/
def arpCacheAdd (host : Host) (ipAddr : Nat) (macAddr : EtherAddr) : Host :=
  let (now, host) := host.rdtsc
  { host with arpCache := host.arpCache.set ipAddr ⟨ipAddr, macAddr, now, true⟩ }

/-- `arp_cache_lookup`. -/
def arpCacheLookup (host : Host) (ipAddr : Nat) : Option EtherAddr :=
  let e := host.arpCache.get ipAddr
  if e.valid && e.ipAddr == ipAddr then some e.macAddr else none

/-- `DEFAULT_GW_MAC` -/
def defaultGwMac : EtherAddr := ⟨[0x02, 0x1a, 0xc5, 0x4b, 0x7e, 0x90], rfl⟩

/-- The bytes of an ARP request. -/
def arpFrame (b : ByteMem) (srcMac : EtherAddr) (srcIp targetIp : Nat) : ByteMem :=
  let b := b.fill 0 6 0xFF
  let b := stMac b 6 srcMac
  let b := b.st16 12 (bswap16 rteEtherTypeArp)
  let b := b.st16 14 (bswap16 1)
  let b := b.st16 16 (bswap16 rteEtherTypeIpv4)
  let b := b.st8 18 6
  let b := b.st8 19 4
  let b := b.st16 20 (bswap16 1)
  let b := stMac b 22 srcMac
  let b := b.st32 28 (bswap32 srcIp)
  let b := b.fill 32 6 0
  b.st32 38 (bswap32 targetIp)

/-- `send_arp_request`. -/
def sendArpRequest (host : Host) (targetIp : Nat) (port : Port) : Int × Host :=
  match host.allocAppend 42 with
  | (none, host) => (-1, host)
  | (some m, host) =>
    let b := arpFrame m.data (host.macaddr port) host.wanTunnelSrcIp targetIp
    let (accepted, host) := host.txOrFree port (m.withData b)
    (if accepted then 0 else -1, host)

/-- `resolve_next_hop`: the MAC to use, and whether an ARP request is due. -/
def resolveNextHop (host : Host) (dstIpBe : Nat) : Bool × EtherAddr × Host :=
  match arpCacheLookup host (bswap32 dstIpBe) with
  | some mac => (false, mac, host)
  | none =>
    let (now, host) := host.rdtsc
    if host.io.oracle.timerHz * 5 < sub64 now host.lastArpTime
    then (true, defaultGwMac, { host with lastArpTime := now })
    else (false, defaultGwMac, host)

/-- The part `wan_fwd_roce` and `wan_fwd_passthrough` share: both MAC addresses,
and an ARP request for the destination when one is due. -/
def wanSetMacs (host : Host) (m : Mbuf) (outPort : Port) : Mbuf × Host :=
  let (needArp, nextHopMac, host) := resolveNextHop host m.ipDstAddr
  let host := if needArp then (sendArpRequest host (bswap32 m.ipDstAddr) outPort).2 else host
  (m.withData (stMac (stMac m.data 0 nextHopMac) 6 (host.macaddr outPort)), host)

/-! ## Forwarding -/

/-- The rewrite of the IPv4 source address that `wan_fwd_roce` and
`wan_prepare_for_lan` make. -/
def setSrcAddr (srcIp : Nat) (m : Mbuf) : Mbuf :=
  m.withData ((m.data.st32 26 (bswap32 srcIp)).st16 24 0)

theorem setSrcAddr_ipDstAddr (srcIp : Nat) (m : Mbuf) :
    (setSrcAddr srcIp m).ipDstAddr = m.ipDstAddr := by
  rw [Mbuf.ipDstAddr, setSrcAddr, Mbuf.withData_data,
    ByteMem.ld32_st16_of_disjoint _ _ (by decide), ByteMem.ld32_st32_of_disjoint _ _ (by decide)]
  rfl

/-- `wan_fwd_roce`. -/
def wanFwdRoce (host : Host) (m : Mbuf) (outPort : Port) : Mbuf × Host :=
  wanSetMacs host (setSrcAddr host.wanTunnelSrcIp m) outPort

/-- `wan_fwd_passthrough`. -/
def wanFwdPassthrough (host : Host) (m : Mbuf) (outPort : Port) : Int × Host :=
  let (m, host) := wanSetMacs host m outPort
  let (accepted, host) := host.txOrFree outPort m
  (if accepted then 0 else -1, host)

/-- `wan_prepare_for_lan`. -/
def wanPrepareForLan (host : Host) (m : Mbuf) : Mbuf := setSrcAddr host.wanTunnelSrcIp m

end RdmaGateway.Tunnel
