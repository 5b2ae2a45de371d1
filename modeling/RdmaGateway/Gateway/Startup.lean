/-
  Gateway/Startup.lean --- `main` of `src/main.c` up to its packet loops.

  `main` goes through the options as `getopt_long` hands them over, checks the number of
  cores and the huge pages, initialises its tables and ports, and starts the loops.
  `--peer` fills the peer table while the options are read, and `pm_init` empties it
  afterwards: no configured peer is left when the loops start (`peers_survive_iff`).  The
  check for the number of cores compares counts, and the loops are chosen by lcore ids
  (`queues_served_iff`).

  What DPDK answers is `Env`.  The log settings and the signal handlers are left out.
-/
import RdmaGateway.Gateway.Launch
import RdmaGateway.Tunnel.PeerConfig

set_option autoImplicit false

namespace RdmaGateway.Gateway

open RdmaGateway.Foundation
open RdmaGateway.Tunnel
open RdmaGateway.Wire

/-! ## The environment -/

/-- The names in `rte_eth_dev_info`. -/
structure EthDevInfo where
  driverName : Option (List Char)
  pciName : Option (List Char)

/-- What `main` gets from EAL and from the ports, and from a shift that C leaves
undefined. -/
structure Env where
  rteEalInit : Int
  eal : Eal
  ethDevCountAvail : Nat
  ethDevInfoGet : Nat → Except Int EthDevInfo
  ethDevIsValidPort : Nat → Bool
  ethDevConfigure : Nat → Nat → Int
  ethDevAdjustNbRxTxDesc : Nat → Int
  ethRxQueueSetup : Nat → Nat → Int
  ethTxQueueSetup : Nat → Int
  ethDevStart : Nat → Int
  memGetDmaPagesize : Nat
  pktmbufPoolCreate : Nat → Bool
  remoteLaunch : Nat → Int
  shlUndef : Int → Nat

/-- `RTE_PGSIZE_1G` -/
def rtePgsize1G : Nat := 1073741824
/-- `NUM_MBUFS` -/
def numMbufs : Nat := 8191
/-- `(uint16_t)-1` -/
def noPort : Nat := 65535

/-- `atoi`, for values that an `int` holds. -/
def atoi (cs : List Char) : Int :=
  match scanInt cs with
  | some (v, _) => v
  | none => 0

/-- `port_name_to_id`. -/
def portNameToId (env : Env) (name : List Char) : Nat :=
  match name with
  | [] => noPort
  | c :: _ =>
    if c.isDigit then
      let portId := (atoi name % 65536).toNat
      if portId < env.ethDevCountAvail then portId else noPort
    else
      ((List.range env.ethDevCountAvail).find? fun portId =>
        match env.ethDevInfoGet portId with
        | .error _ => false
        | .ok info => info.driverName == some name || info.pciName == some name).getD noPort

/-- `port_init`: 0, or what the first call that failed returned. -/
def portInit (env : Env) (port numRxQueues : Nat) : Int :=
  if !env.ethDevIsValidPort port then -1
  else
    match env.ethDevInfoGet port with
    | .error retval => retval
    | .ok _ =>
      if env.ethDevConfigure port numRxQueues ≠ 0 then env.ethDevConfigure port numRxQueues
      else if env.ethDevAdjustNbRxTxDesc port ≠ 0 then env.ethDevAdjustNbRxTxDesc port
      else
        match (List.range numRxQueues).find? fun i => decide (env.ethRxQueueSetup port i < 0) with
        | some i => env.ethRxQueueSetup port i
        | none =>
          if env.ethTxQueueSetup port < 0 then env.ethTxQueueSetup port
          else if env.ethDevStart port < 0 then env.ethDevStart port
          else 0

/-! ## Options -/

/-- An option of the command line, as `getopt_long` hands it over. -/
inductive MainOption where
  | help
  | lanPort (optarg : List Char)
  | wanPort (optarg : List Char)
  | srcIp (optarg : List Char)
  | lanCores (optarg : List Char)
  | wanCores (optarg : List Char)
  | peer (optarg : List Char)
  | verbose
  | logFile (optarg : List Char)
  | unknown

/-- The globals of `src/main.c` that the options set, and `src_ip_str`. -/
structure Settings where
  lanPort : Nat
  wanPort : Nat
  lanCoreCount : Nat
  wanCoreCount : Nat
  srcIpStr : Option (List Char)
  peerManager : PeerManager

/-- Before the first option. -/
def Settings.start : Settings := ⟨0, 1, 1, 1, none, ⟨[], 0⟩⟩

/-- One round of the option loop; an error is what `main` returns. -/
def mainOption (env : Env) (g : Settings) : MainOption → Except Int Settings
  | .help => .error 0
  | .lanPort optarg =>
    if portNameToId env optarg = noPort then .error (-1)
    else .ok { g with lanPort := portNameToId env optarg }
  | .wanPort optarg =>
    if portNameToId env optarg = noPort then .error (-1)
    else .ok { g with wanPort := portNameToId env optarg }
  | .srcIp optarg => .ok { g with srcIpStr := some optarg }
  | .lanCores optarg => .ok { g with lanCoreCount := (atoi optarg % 4294967296).toNat }
  | .wanCores optarg => .ok { g with wanCoreCount := (atoi optarg % 4294967296).toNat }
  | .peer optarg =>
    match addPeerOption env.shlUndef g.peerManager optarg with
    | some peerManager => .ok { g with peerManager := peerManager }
    | none => .error (-1)
  | .verbose => .ok g
  | .logFile _ => .ok g
  | .unknown => .error (-1)

/-! ## Start-up -/

/-- The gateway when `main` enters the packet loops. -/
structure Running where
  lanPort : Nat
  wanPort : Nat
  lanCoreCount : Nat
  wanCoreCount : Nat
  wanTunnelSrcIp : Nat
  peerManager : PeerManager
  arpCache : Ring arpCacheSize ArpEntry
  loops : List MainLoop

/-- `main` after the options; an error is what it returns. -/
def mainAfterOptions (env : Env) (g : Settings) : Except Int Running :=
  match g.srcIpStr with
  | none => .error (-1)
  | some srcIpStr =>
    let totalCoresNeeded := add32 g.lanCoreCount g.wanCoreCount
    if env.eal.lcoreCount < totalCoresNeeded then .error (-1)
    else
      let wanTunnelSrcIp := inetAddrText srcIpStr
      if env.memGetDmaPagesize ≠ rtePgsize1G then .error (-1)
      else
        let g := { g with peerManager := pmInit }
        if env.ethDevCountAvail < 2 then .error (-1)
        else if !env.pktmbufPoolCreate (numMbufs * totalCoresNeeded % 4294967296) then .error (-1)
        else if portInit env g.lanPort g.lanCoreCount ≠ 0 then .error (-1)
        else if portInit env g.wanPort g.wanCoreCount ≠ 0 then .error (-1)
        else
          match launch env.remoteLaunch env.eal totalCoresNeeded g.lanPort g.wanPort
              g.lanCoreCount with
          | .error code => .error code
          | .ok loops =>
            .ok ⟨g.lanPort, g.wanPort, g.lanCoreCount, g.wanCoreCount, wanTunnelSrcIp,
              g.peerManager, arpCacheInit, loops⟩

/-- `main` up to its packet loops; an error is what it returns without them. -/
def main (env : Env) (opts : List MainOption) : Except Int Running :=
  if env.rteEalInit < 0 then .error (-1)
  else
    match opts.foldlM (mainOption env) Settings.start with
    | .error code => .error code
    | .ok g => mainAfterOptions env g

/-- A gateway that got to its loops: what it has from the options, and the rest. -/
structure Started (env : Env) (opts : List MainOption) (r : Running) (g : Settings) : Prop where
  parsed : opts.foldlM (mainOption env) Settings.start = .ok g
  lanPort : r.lanPort = g.lanPort
  wanPort : r.wanPort = g.wanPort
  lanCoreCount : r.lanCoreCount = g.lanCoreCount
  wanCoreCount : r.wanCoreCount = g.wanCoreCount
  enough : add32 g.lanCoreCount g.wanCoreCount ≤ env.eal.lcoreCount
  peerManager : r.peerManager = pmInit
  launched : launch env.remoteLaunch env.eal (add32 g.lanCoreCount g.wanCoreCount) g.lanPort
    g.wanPort g.lanCoreCount = .ok r.loops

theorem started_of_main {env : Env} {opts : List MainOption} {r : Running}
    (h : main env opts = .ok r) : ∃ g, Started env opts r g := by
  rw [main] at h
  split at h
  · cases h
  split at h
  · cases h
  rename_i g hparsed
  refine ⟨g, ?_⟩
  rw [mainAfterOptions] at h
  split at h
  · cases h
  dsimp only at h
  split at h
  · cases h
  rename_i henough
  split at h
  · cases h
  split at h
  · cases h
  split at h
  · cases h
  split at h
  · cases h
  split at h
  · cases h
  split at h
  · cases h
  rename_i loops hlaunch
  cases h
  exact ⟨hparsed, rfl, rfl, rfl, rfl, Nat.not_lt.mp henough, rfl, hlaunch⟩

/-- Everything that `main` asks DPDK for succeeds. -/
structure Env.Works (env : Env) : Prop where
  ealInit : 0 ≤ env.rteEalInit
  pagesize : env.memGetDmaPagesize = rtePgsize1G
  ports : 2 ≤ env.ethDevCountAvail
  pool : ∀ n, env.pktmbufPoolCreate n = true
  portInit : ∀ port n, portInit env port n = 0
  remoteLaunch : ∀ id, env.remoteLaunch id = 0

/-- Then accepted options with a source address, and enough cores, get to the loops. -/
theorem main_runs {env : Env} (hworks : env.Works) {opts : List MainOption} {g : Settings}
    (hparsed : opts.foldlM (mainOption env) Settings.start = .ok g) {srcIpStr : List Char}
    (hsrc : g.srcIpStr = some srcIpStr)
    (henough : add32 g.lanCoreCount g.wanCoreCount ≤ env.eal.lcoreCount) :
    ∃ r, main env opts = .ok r := by
  obtain ⟨loops, hlaunch⟩ := exists_launch (add32 g.lanCoreCount g.wanCoreCount) g.lanPort
    g.wanPort g.lanCoreCount hworks.remoteLaunch env.eal
  have hinit := hworks.ealInit
  have hports := hworks.ports
  rw [main, if_neg (by omega), hparsed]
  simp only [mainAfterOptions, hsrc]
  rw [if_neg (by omega), if_neg (not_not.mpr hworks.pagesize), if_neg (by omega), hworks.pool]
  simp only [hworks.portInit, hlaunch]
  exact ⟨_, rfl⟩

/-! ## Peers -/

/-- What the `--peer` options say, in order. -/
def peerStrings (shlUndef : Int → Nat) (opts : List MainOption) : List PeerString :=
  opts.filterMap fun
    | .peer optarg => some (parsePeerString shlUndef optarg)
    | _ => none

/-- The subnet entries among them. -/
def subnetEntries (ps : List PeerString) : List PeerMapping :=
  ps.filterMap fun
    | .mapping subnet mask peerIp => some ⟨subnet, mask, peerIp⟩
    | _ => none

/-- The last default among them. -/
def lastDefault (ps : List PeerString) : Option Nat :=
  (ps.filterMap fun
    | .default peerIp => some peerIp
    | _ => none).getLast?

/-- A table answers with the first entry that matches, else with the default, if there
is one, else with 0. -/
def AnswersInOrder (entries : List PeerMapping) (default : Option Nat) (lookup : Nat → Nat) : Prop :=
  ∀ dstIp, (∀ before entry after, entries = before ++ entry :: after →
      (∀ e ∈ before, dstIp &&& e.subnetMask ≠ e.subnet) →
      dstIp &&& entry.subnetMask = entry.subnet → lookup dstIp = entry.peerIp) ∧
    ((∀ e ∈ entries, dstIp &&& e.subnetMask ≠ e.subnet) → lookup dstIp = default.getD 0)

/-- The peers of the command line are the table of the running gateway. -/
def PeersSurvive (env : Env) (opts : List MainOption) (r : Running) : Prop :=
  r.peerManager.peers = subnetEntries (peerStrings env.shlUndef opts) ∧
    r.peerManager.defaultPeerIp = (lastDefault (peerStrings env.shlUndef opts)).getD 0 ∧
    AnswersInOrder (subnetEntries (peerStrings env.shlUndef opts))
      (lastDefault (peerStrings env.shlUndef opts)) (pmLookup r.peerManager)

theorem pmLookup_answersInOrder {pm : PeerManager} {entries : List PeerMapping}
    {default : Option Nat} (hpeers : pm.peers = entries)
    (hdefault : pm.defaultPeerIp = default.getD 0) :
    AnswersInOrder entries default (pmLookup pm) := by
  subst hpeers
  intro dstIp
  refine ⟨fun before entry after hsplit hbefore hentry => ?_, fun hnone => ?_⟩
  · have hfind : (before ++ entry :: after).find?
        (fun p => dstIp &&& p.subnetMask == p.subnet) = some entry := by
      rw [List.find?_append, List.find?_eq_none.mpr fun e he => by simpa using hbefore e he,
        Option.none_or, List.find?_cons_of_pos (by simpa using hentry)]
    rw [pmLookup, hsplit, hfind]
  · rw [pmLookup, List.find?_eq_none.mpr fun e he => by simpa using hnone e he, hdefault]

/-- One option: a `--peer` goes to the end of the table, or replaces the default. -/
theorem mainOption_peerManager {env : Env} {g g' : Settings} {opt : MainOption}
    (h : mainOption env g opt = .ok g')
    (hroom : g.peerManager.peers.length +
      (subnetEntries (peerStrings env.shlUndef [opt])).length ≤ maxPeers) :
    g'.peerManager = ⟨g.peerManager.peers ++ subnetEntries (peerStrings env.shlUndef [opt]),
      (lastDefault (peerStrings env.shlUndef [opt])).getD g.peerManager.defaultPeerIp⟩ := by
  have hsame : ∀ {x : PeerManager}, x = ⟨x.peers ++ [], x.defaultPeerIp⟩ := by
    intro x
    rw [List.append_nil]
  cases opt with
  | help => cases h
  | unknown => cases h
  | peer optarg =>
    simp only [mainOption, addPeerOption] at h
    simp only [peerStrings, List.filterMap_cons, List.filterMap_nil] at hroom ⊢
    cases hparse : parsePeerString env.shlUndef optarg with
    | mapping subnet mask peerIp =>
      rw [hparse] at h hroom
      have hfree : ¬ maxPeers ≤ g.peerManager.peers.length := by
        simp only [subnetEntries, List.filterMap_cons, List.filterMap_nil, List.length_singleton]
          at hroom
        omega
      cases h
      rw [pmAdd, if_neg hfree]
      rfl
    | default peerIp =>
      rw [hparse] at h
      cases h
      rw [pmSetDefault, hsame (x := { g.peerManager with defaultPeerIp := peerIp })]
      rfl
    | invalid =>
      rw [hparse] at h
      cases h
  | lanPort optarg =>
    rw [mainOption] at h
    split at h
    · cases h
    · cases h
      exact hsame
  | wanPort optarg =>
    rw [mainOption] at h
    split at h
    · cases h
    · cases h
      exact hsame
  | srcIp optarg =>
    cases h
    exact hsame
  | lanCores optarg =>
    cases h
    exact hsame
  | wanCores optarg =>
    cases h
    exact hsame
  | verbose =>
    cases h
    exact hsame
  | logFile optarg =>
    cases h
    exact hsame

theorem peerStrings_append (shlUndef : Int → Nat) (opts opts' : List MainOption) :
    peerStrings shlUndef (opts ++ opts') = peerStrings shlUndef opts ++ peerStrings shlUndef opts' :=
  List.filterMap_append

theorem subnetEntries_append (ps ps' : List PeerString) :
    subnetEntries (ps ++ ps') = subnetEntries ps ++ subnetEntries ps' :=
  List.filterMap_append

theorem lastDefault_append (ps ps' : List PeerString) :
    lastDefault (ps ++ ps') = (lastDefault ps').or (lastDefault ps) := by
  rw [lastDefault, List.filterMap_append, List.getLast?_append]
  rfl

/-- While the options are read, the table holds the entries so far in order, and the
last default. -/
theorem options_fill_table {env : Env} {opts : List MainOption} {g g' : Settings}
    (h : opts.foldlM (mainOption env) g = .ok g')
    (hroom : g.peerManager.peers.length +
      (subnetEntries (peerStrings env.shlUndef opts)).length ≤ maxPeers) :
    g'.peerManager = ⟨g.peerManager.peers ++ subnetEntries (peerStrings env.shlUndef opts),
      (lastDefault (peerStrings env.shlUndef opts)).getD g.peerManager.defaultPeerIp⟩ := by
  induction opts generalizing g with
  | nil =>
    cases h
    simp [peerStrings, subnetEntries, lastDefault]
  | cons opt opts ih =>
    have hcons : peerStrings env.shlUndef (opt :: opts) =
        peerStrings env.shlUndef [opt] ++ peerStrings env.shlUndef opts :=
      peerStrings_append env.shlUndef [opt] opts
    rw [hcons, subnetEntries_append, List.length_append] at hroom
    rw [List.foldlM_cons] at h
    cases hopt : mainOption env g opt with
    | error code =>
      rw [hopt] at h
      cases h
    | ok g₁ =>
      rw [hopt] at h
      have hone := mainOption_peerManager hopt (by omega)
      have hlen : g₁.peerManager.peers.length = g.peerManager.peers.length +
          (subnetEntries (peerStrings env.shlUndef [opt])).length := by
        rw [hone, List.length_append]
      rw [ih h (by omega), hone, hcons, subnetEntries_append, lastDefault_append, List.append_assoc]
      congr 1
      cases lastDefault (peerStrings env.shlUndef opts) <;> rfl

/-- The peers of the command line are in the table when the loops start exactly if there
are none: no subnet entry, and a last default of 0.0.0.0 if any. -/
theorem peers_survive_iff (env : Env) (opts : List MainOption) (r : Running)
    (h : main env opts = .ok r) :
    PeersSurvive env opts r ↔ subnetEntries (peerStrings env.shlUndef opts) = [] ∧
      (lastDefault (peerStrings env.shlUndef opts)).getD 0 = 0 := by
  obtain ⟨g, hstarted⟩ := started_of_main h
  rw [PeersSurvive, hstarted.peerManager]
  constructor
  · rintro ⟨hpeers, hdefault, -⟩
    exact ⟨hpeers.symm, hdefault.symm⟩
  · rintro ⟨hpeers, hdefault⟩
    exact ⟨hpeers.symm, hdefault.symm, pmLookup_answersInOrder hpeers.symm hdefault.symm⟩

/-- `default:` before an address. -/
theorem parsePeerString_default (shlUndef : Int → Nat) (addr : Ipv4) :
    parsePeerString shlUndef ("default:".toList ++ quadText addr) = .default (inetAddr addr) := by
  rw [parsePeerString, if_pos (List.isPrefixOf_iff_prefix.mpr (List.prefix_append _ _)),
    ← inetAddrText_quadText]
  rfl

/-- Two ports, the lcores `ids` below 128, and nothing that fails. -/
def twoPorts (ids : Finset Nat) (mainLcore : Nat) (hids : ∀ id ∈ ids, id < 128)
    (hmain : mainLcore ∈ ids) : Env where
  rteEalInit := 0
  eal := ⟨128, ids, mainLcore, by decide, hids, hmain⟩
  ethDevCountAvail := 2
  ethDevInfoGet := fun _ => .ok ⟨none, none⟩
  ethDevIsValidPort := fun _ => true
  ethDevConfigure := fun _ _ => 0
  ethDevAdjustNbRxTxDesc := fun _ => 0
  ethRxQueueSetup := fun _ _ => 0
  ethTxQueueSetup := fun _ => 0
  ethDevStart := fun _ => 0
  memGetDmaPagesize := rtePgsize1G
  pktmbufPoolCreate := fun _ => true
  remoteLaunch := fun _ => 0
  shlUndef := fun _ => 0xFFFFFFFF

theorem twoPorts_works (ids : Finset Nat) (mainLcore : Nat) (hids : ∀ id ∈ ids, id < 128)
    (hmain : mainLcore ∈ ids) : (twoPorts ids mainLcore hids hmain).Works where
  ealInit := le_rfl
  pagesize := rfl
  ports := le_rfl
  pool := fun _ => rfl
  portInit := fun port n => by
    have hsetup : (List.range n).find? (fun _ => false) = none :=
      List.find?_eq_none.mpr (by simp)
    simp [portInit, twoPorts, hsetup]
  remoteLaunch := fun _ => rfl

/-- The gateway with `-s 10.0.0.1 --peer default:<addr>` on two lcores. -/
def oneDefault (addr : Ipv4) : List MainOption :=
  [.srcIp (quadText ⟨10, 0, 0, 1⟩), .peer ("default:".toList ++ quadText addr)]

/-- The lcores 0 and 1. -/
def zeroOne : Env := twoPorts {0, 1} 0 (by decide) (by decide)

theorem oneDefault_runs (addr : Ipv4) : (∃ r, main zeroOne (oneDefault addr) = .ok r) ∧
    peerStrings zeroOne.shlUndef (oneDefault addr) = [.default (inetAddr addr)] := by
  have hparse := parsePeerString_default zeroOne.shlUndef addr
  let g : Settings := ⟨0, 1, 1, 1, some (quadText ⟨10, 0, 0, 1⟩), ⟨[], 0⟩⟩
  have hpeer : mainOption zeroOne g (.peer ("default:".toList ++ quadText addr)) =
      .ok { g with peerManager := ⟨[], inetAddr addr⟩ } := by
    rw [mainOption, addPeerOption, hparse]
    rfl
  have hparsed : (oneDefault addr).foldlM (mainOption zeroOne) Settings.start =
      .ok { g with peerManager := ⟨[], inetAddr addr⟩ } := by
    have hsrc : mainOption zeroOne Settings.start (.srcIp (quadText ⟨10, 0, 0, 1⟩)) = .ok g := rfl
    simp only [oneDefault, List.foldlM_cons, List.foldlM_nil, hsrc, hpeer, bind, Except.bind]
    rfl
  have henough : add32 1 1 ≤ zeroOne.eal.lcoreCount := by decide
  refine ⟨main_runs (twoPorts_works _ _ _ _) hparsed rfl henough, ?_⟩
  simp only [oneDefault, peerStrings, List.filterMap_cons, List.filterMap_nil, hparse]

/-- With the default 0.0.0.0 there is nothing to lose. -/
theorem peers_survive_iff_zero : ∃ r, main zeroOne (oneDefault ⟨0, 0, 0, 0⟩) = .ok r ∧
    PeersSurvive zeroOne (oneDefault ⟨0, 0, 0, 0⟩) r := by
  obtain ⟨⟨r, hr⟩, hpeers⟩ := oneDefault_runs ⟨0, 0, 0, 0⟩
  refine ⟨r, hr, (peers_survive_iff _ _ r hr).mpr ?_⟩
  rw [hpeers]
  decide

/-- With the default 10.0.0.200 the table is empty when the loops start, and there is no
peer for any packet. -/
theorem default_peer_lost : ∃ r, main zeroOne (oneDefault ⟨10, 0, 0, 200⟩) = .ok r ∧
    lastDefault (peerStrings zeroOne.shlUndef (oneDefault ⟨10, 0, 0, 200⟩)) =
      some (inetAddr ⟨10, 0, 0, 200⟩) ∧
    (∀ dstIp, pmLookup r.peerManager dstIp = 0) ∧
    ¬ PeersSurvive zeroOne (oneDefault ⟨10, 0, 0, 200⟩) r := by
  obtain ⟨⟨r, hr⟩, hpeers⟩ := oneDefault_runs ⟨10, 0, 0, 200⟩
  obtain ⟨g, hstarted⟩ := started_of_main hr
  refine ⟨r, hr, by rw [hpeers]; rfl, fun dstIp => by rw [hstarted.peerManager]; rfl, ?_⟩
  rintro ⟨-, hdefault, -⟩
  rw [hstarted.peerManager, hpeers] at hdefault
  exact absurd hdefault (by decide)

/-! ## Queues -/

/-- The queues of both ports are served exactly when the ids of the lcores have no gap
below the number of cores asked for (and the queues can be numbered with 16 bits). -/
theorem queues_served_iff (env : Env) (opts : List MainOption) (r : Running)
    (h : main env opts = .ok r)
    (hfit : r.lanCoreCount + r.wanCoreCount ≤ env.eal.lcoreCount) :
    ServesQueues r.lanPort r.wanPort r.lanCoreCount r.wanCoreCount r.loops ↔
      (∀ id < r.lanCoreCount + r.wanCoreCount, id ∈ env.eal.lcores) ∧
        r.lanCoreCount ≤ 65536 ∧ r.wanCoreCount ≤ 65536 := by
  obtain ⟨g, hstarted⟩ := started_of_main h
  have htotal : add32 g.lanCoreCount g.wanCoreCount = r.lanCoreCount + r.wanCoreCount := by
    have hle := env.eal.lcoreCount_le
    have hmax := env.eal.maxLcore_lt
    rw [← hstarted.lanCoreCount, ← hstarted.wanCoreCount]
    exact add32_of_lt (by omega)
  have hloops := launch_eq hstarted.launched
  rw [htotal, ← hstarted.lanPort, ← hstarted.wanPort, ← hstarted.lanCoreCount] at hloops
  rw [hloops, servesQueues_iff (env.eal.nodup_all.filter _) fun id hid => by
    simpa using List.of_mem_filter hid]
  refine and_congr_left fun _ => forall₂_congr fun id hid => ?_
  rw [List.mem_filter, Eal.mem_all, decide_eq_true_eq, and_iff_left hid]

/-- The gateway with the defaults of one core on each side. -/
def oneEach : List MainOption := [.srcIp (quadText ⟨10, 0, 0, 1⟩)]

theorem oneEach_runs {env : Env} (hworks : env.Works) (hcount : 2 ≤ env.eal.lcoreCount) :
    ∃ r, main env oneEach = .ok r ∧ r.lanPort = 0 ∧ r.wanPort = 1 ∧ r.lanCoreCount = 1 ∧
      r.wanCoreCount = 1 := by
  obtain ⟨r, hr⟩ : ∃ r, main env oneEach = .ok r :=
    main_runs hworks (g := ⟨0, 1, 1, 1, some (quadText ⟨10, 0, 0, 1⟩), ⟨[], 0⟩⟩) rfl rfl hcount
  obtain ⟨g, hstarted⟩ := started_of_main hr
  cases hstarted.parsed
  exact ⟨r, hr, hstarted.lanPort, hstarted.wanPort, hstarted.lanCoreCount, hstarted.wanCoreCount⟩

/-- On the lcores 0 and 1 both queues are served. -/
theorem queues_served_iff_zero_one : ∃ r, main zeroOne oneEach = .ok r ∧
    ServesQueues r.lanPort r.wanPort r.lanCoreCount r.wanCoreCount r.loops := by
  have hworks : zeroOne.Works := twoPorts_works _ _ _ _
  obtain ⟨r, hr, -, -, hlan, hwan⟩ := oneEach_runs hworks (by decide)
  refine ⟨r, hr, (queues_served_iff _ _ r hr ?_).mpr ?_⟩
  · rw [hlan, hwan]
    decide
  · rw [hlan, hwan]
    decide

/-- The lcores 1 and 2, the first of them the main one. -/
def oneTwo : Env := twoPorts {1, 2} 1 (by decide) (by decide)

/-- There the main lcore polls the WAN queue, lcore 2 runs nothing, and the LAN queue is
not polled. -/
theorem lan_queue_unserved : ∃ r, main oneTwo oneEach = .ok r ∧
    r.lanCoreCount + r.wanCoreCount = oneTwo.eal.lcoreCount ∧
    r.loops = [mainLoop 0 1 1 1] ∧
    ¬ ServesQueues r.lanPort r.wanPort r.lanCoreCount r.wanCoreCount r.loops := by
  have hworks : oneTwo.Works := twoPorts_works _ _ _ _
  obtain ⟨r, hr, hlanPort, hwanPort, hlan, hwan⟩ := oneEach_runs hworks (by decide)
  obtain ⟨g, hstarted⟩ := started_of_main hr
  have hloops : r.loops = [mainLoop 0 1 1 1] := by
    have hlaunched := launch_eq hstarted.launched
    cases hstarted.parsed
    rw [hlaunched]
    decide +kernel
  refine ⟨r, hr, ?_, hloops, ?_⟩
  · rw [hlan, hwan]
    decide
  · rw [hlanPort, hwanPort, hlan, hwan, hloops]
    decide

end RdmaGateway.Gateway
