/-
  Gateway/NextHops.lean --- the ARP cache and where frames go.

  `arp_cache_add` is called by no other function of the program, but nothing keeps a thread
  from calling it between two packets.  The cache is direct-mapped: it forgets an address
  as soon as another one of the same bucket is added.  Whatever was added and forgotten,
  each frame for the WAN goes to the address last added for its destination, or to a
  fallback if that was forgotten (`frames_follow_cache`).
-/
import RdmaGateway.Foundation.DirectMapped
import RdmaGateway.Gateway.Frames

set_option autoImplicit false

namespace RdmaGateway.Gateway

open RdmaGateway.Foundation
open RdmaGateway.Dpdk
open RdmaGateway.Wire
open RdmaGateway.Tunnel
open RdmaGateway.Arq
open RdmaGateway.Reassembly
open RdmaGateway.Processor

variable {L W : Nat}

/-- One call of a core, or one of `arp_cache_add`. -/
inductive CacheCall (L W : Nat) where
  | core (c : CoreCall L W)
  | arpCacheAdd (ipAddr : Nat) (macAddr : EtherAddr)

/-- The effect of one call. -/
def Cores.cacheStep (g : Cores L W) : CacheCall L W → Cores L W
  | .core c => g.step c
  | .arpCacheAdd ipAddr macAddr => ⟨g.procs, arpCacheAdd g.host ipAddr macAddr⟩

/-- What was added to the cache, in order. -/
def added (calls : List (CacheCall L W)) : List (Nat × EtherAddr) :=
  calls.filterMap fun
    | .core _ => none
    | .arpCacheAdd ipAddr macAddr => some (ipAddr, macAddr)

/-- The address an entry is for, and what it says of it. -/
def known (e : ArpEntry) : Option (Nat × EtherAddr) :=
  if e.valid then some (e.ipAddr, e.macAddr) else none

theorem arpLookup_eq (s : HostSettings) (ipAddr : Nat) :
    s.arpLookup ipAddr = s.arpCache.lookup known ipAddr := by
  unfold HostSettings.arpLookup Ring.lookup known
  cases hvalid : (s.arpCache.get ipAddr).valid <;> simp [hvalid]

/-- A state whose cache knows what was added. -/
structure FollowsCache (host : Host) (adds : List (Nat × EtherAddr)) (g : Cores L W) : Prop where
  windows : WanWindowsEmpty g
  peerManager : g.host.peerManager = host.peerManager
  macaddr : g.host.macaddr = host.macaddr
  caches : g.host.arpCache.Caches known adds

section FollowsCache

variable {host : Host} {adds : List (Nat × EtherAddr)} {g : Cores L W}

theorem FollowsCache.core (h : FollowsCache host adds g) (c : CoreCall L W) :
    FollowsCache host adds (g.step c) := by
  have hsettings := (call_emits h.windows c).settings
  have hpeers := congrArg HostSettings.peerManager hsettings
  have hmacs := congrArg HostSettings.macaddr hsettings
  have hcache : (g.step c).host.arpCache = g.host.arpCache :=
    congrArg HostSettings.arpCache hsettings
  refine ⟨h.windows.step c, hpeers.trans h.peerManager, hmacs.trans h.macaddr, ?_⟩
  rw [hcache]
  exact h.caches

theorem FollowsCache.add (h : FollowsCache host adds g) (ipAddr : Nat) (macAddr : EtherAddr) :
    FollowsCache host (adds ++ [(ipAddr, macAddr)]) (g.cacheStep (.arpCacheAdd ipAddr macAddr)) :=
  ⟨h.windows, h.peerManager, h.macaddr, h.caches.set rfl⟩

theorem FollowsCache.arpLookup (h : FollowsCache host adds g) (ipAddr : Nat) :
    (Host.settings g.host).arpLookup ipAddr = cached arpCacheSize adds ipAddr :=
  (arpLookup_eq _ ipAddr).trans (h.caches ipAddr)

end FollowsCache

theorem followsCache_run {host : Host} (harp : host.arpCache = arpCacheInit)
    (calls : List (CacheCall L W)) :
    FollowsCache host (added calls) (run Cores.cacheStep (Cores.init L W host) calls) := by
  induction calls using List.reverseRecOn with
  | nil =>
    refine ⟨fun _ => rfl, rfl, rfl, ?_⟩
    rw [run_nil, Cores.init, harp]
    exact Ring.caches_const rfl
  | append_singleton calls call ih =>
    rw [run_append, run_cons, run_nil, added, List.filterMap_append]
    cases call with
    | core c =>
      rw [List.filterMap_cons_none rfl, List.filterMap_nil, List.append_nil]
      exact ih.core c
    | arpCacheAdd ipAddr macAddr => exact ih.add ipAddr macAddr

/-- The cache sends to `dst` what is for `ipAddr`, or, if it does not know that address,
`dst` is the fallback. -/
def GoesTo (adds : List (Nat × EtherAddr)) (ipAddr : Nat) (fallback dst : EtherAddr) : Prop :=
  Remembers arpCacheSize adds ipAddr dst ∨
    (∀ mac, ¬ Remembers arpCacheSize adds ipAddr mac) ∧ dst = fallback

/-- What a frame for the WAN is and where it goes, by what was added to the cache.  A packet
of the LAN goes to its destination or to `DEFAULT_GW_MAC`, feedback goes to the peer or to
everyone, and a request is for a destination that the cache does not know.  A destination is
looked up in host order.  A peer is looked up as its address stands in the table and in the
header, in network order, so that an address added in host order is not found for it. -/
inductive GoesBy (host : Host) (adds : List (Nat × EtherAddr)) (f : Mbuf) : CoreCall L W → Prop
  | relayed (i : Fin L) (m : Mbuf) (hrelayed : IsRelayed m f)
      (hdst : GoesTo adds (bswap32 m.ipDstAddr) defaultGwMac f.ethDst)
      (hsrc : f.ethSrc = host.macaddr .wan) : GoesBy host adds f (.lanRx i m)
  | asked (i : Fin L) (m : Mbuf) (harp : IsArp f)
      (hmiss : ∀ mac, ¬ Remembers arpCacheSize adds (bswap32 m.ipDstAddr) mac)
      (htarget : f.data.ld32 38 = m.ipDstAddr) (hdst : f.ethDst = .fill 0xFF) :
      GoesBy host adds f (.lanRx i m)
  | feedback (j : Fin W) (m : Mbuf) (hfeedback : IsFeedbackFor m f)
      (hpeer : f.ipDstAddr = wanGetPeerIp host (bswap32 m.ipDstAddr) % 4294967296)
      (hdst : GoesTo adds (wanGetPeerIp host (bswap32 m.ipDstAddr)) (.fill 0xFF) f.ethDst) :
      GoesBy host adds f (.wanRx j m)

theorem goesTo_of_cached {adds : List (Nat × EtherAddr)} {ipAddr : Nat} {fallback dst : EtherAddr}
    (h : dst = (cached arpCacheSize adds ipAddr).getD fallback) :
    GoesTo adds ipAddr fallback dst := by
  rw [h]
  exact cached_getD adds ipAddr fallback

/-- Over every run of calls of the cores and of `arp_cache_add`, every frame that a call
passes to the WAN port goes to what was last added for its destination and not forgotten. -/
theorem frames_follow_cache (host : Host) (harp : host.arpCache = arpCacheInit)
    (calls : List (CacheCall L W)) (c : CoreCall L W) {f : Mbuf} {accepted : Bool}
    (hf : .txBurst .wan f accepted ∈
      (run Cores.cacheStep (Cores.init L W host) calls).events c) :
    GoesBy host (added calls) f c := by
  have hfollows := followsCache_run harp calls
  have hframe := (callSends_of_mem hfollows.windows hf).wanFrame
  generalize run Cores.cacheStep (Cores.init L W host) calls = g at hfollows hframe
  cases hframe with
  | relayed i m hrelayed hdst hsrc =>
    rw [hfollows.arpLookup] at hdst
    exact .relayed i m hrelayed (goesTo_of_cached hdst)
      (hsrc.trans (congrFun hfollows.macaddr .wan))
  | asked i m harp hmiss htarget hdst =>
    rw [hfollows.arpLookup] at hmiss
    exact .asked i m harp (not_remembers_of_cached_none hmiss) htarget hdst
  | feedback j m _ hfeedback hpeer hdst =>
    have hword : (Host.settings g.host).peerOf m = wanGetPeerIp host (bswap32 m.ipDstAddr) := by
      rw [wanGetPeerIp, ← hfollows.peerManager]
      rfl
    rw [hword] at hpeer hdst
    rw [hfollows.arpLookup] at hdst
    exact .feedback j m hfeedback hpeer (goesTo_of_cached hdst)

/-- The address of the WAN host that a WRITE is for is added, and then the WRITE comes. -/
theorem frames_follow_cache_added :
    ∃ f ∈ (run Cores.cacheStep (Cores.init 1 1 .unloaded)
        [.arpCacheAdd (bswap32 writePacket.ipDstAddr) (.fill 5)]).sends (.lanRx 0 writePacket),
      GoesBy (L := 1) (W := 1) .unloaded [(bswap32 writePacket.ipDstAddr, .fill 5)] f
        (.lanRx 0 writePacket) := by
  have hsome : 0 < ((run Cores.cacheStep (Cores.init 1 1 .unloaded)
      [.arpCacheAdd (bswap32 writePacket.ipDstAddr) (.fill 5)]).sends
        (.lanRx 0 writePacket)).length := by decide +kernel
  obtain ⟨f, hf⟩ := List.exists_mem_of_length_pos hsome
  obtain ⟨accepted, hmem⟩ := mem_wanFrames.mp hf
  exact ⟨f, hf, frames_follow_cache .unloaded rfl _ _ hmem⟩

end RdmaGateway.Gateway
