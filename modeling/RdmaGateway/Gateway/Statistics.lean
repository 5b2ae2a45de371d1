/-
  Gateway/Statistics.lean --- what the statistics say, in every run of the gateway.

  The counters of a core are the total of what its packets add, modulo 2^64, whatever the
  other cores do and however often the timers fire.  On a LAN core they account for every
  packet.
-/
import RdmaGateway.Gateway.Reassembler
import RdmaGateway.Processor.Statistics

set_option autoImplicit false

namespace RdmaGateway.Gateway

open RdmaGateway.Foundation
open RdmaGateway.Dpdk
open RdmaGateway.Wire
open RdmaGateway.Tunnel
open RdmaGateway.Arq
open RdmaGateway.Reassembly
open RdmaGateway.Processor

variable {L W : Nat}

/-- A packet of LAN core `i` and the events of its call, if the call is one. -/
def Cores.lanEntry (g : Cores L W) (i : Fin L) :
    CoreCall L W → List (Mbuf × List (Event Mbuf))
  | .lanRx i' m => if i' = i then [(m, g.events (.lanRx i' m))] else []
  | _ => []

/-- The packets of LAN core `i` in a run, with the events of their calls. -/
def lanEntries (i : Fin L) (g : Cores L W) (calls : List (CoreCall L W)) :
    List (Mbuf × List (Event Mbuf)) :=
  outputs Cores.step (fun g c => g.lanEntry i c) g calls

/-- A packet of WAN core `j`, the buffer it finds and the events of its call, if the call is
one. -/
def Cores.wanEntry (g : Cores L W) (j : Fin W) :
    CoreCall L W → List (JitterBuffer Mbuf × Mbuf × List (Event Mbuf))
  | .wanRx j' m => if j' = j then [(g.bufferOf j, m, g.events (.wanRx j' m))] else []
  | _ => []

/-- The packets of WAN core `j` in a run. -/
def wanEntries (j : Fin W) (g : Cores L W) (calls : List (CoreCall L W)) :
    List (JitterBuffer Mbuf × Mbuf × List (Event Mbuf)) :=
  outputs Cores.step (fun g c => g.wanEntry j c) g calls

/-! ## LAN cores -/

/-- The call concerns the statistics of LAN core `i` only through its packet. -/
theorem lanEntry_of_elsewhere (g : Cores L W) {i : Fin L} {c : CoreCall L W}
    (h : c.IsElsewhere i) : g.lanEntry i c = [] := by
  cases c with
  | lanRx i' m => exact if_neg h
  | wanRx j m => rfl
  | timer j => rfl

/-- What every state of a run has in common with the first. -/
def HasPeers (pm : PeerManager) (g : Cores L W) : Prop :=
  WanWindowsEmpty g ∧ g.host.peerManager = pm

theorem HasPeers.step {pm : PeerManager} {g : Cores L W} (h : HasPeers pm g)
    (c : CoreCall L W) : HasPeers pm (g.step c) :=
  ⟨h.1.step c, (step_config h.1 c).1.trans h.2⟩

theorem hasPeers_init (host : Host) : HasPeers host.peerManager (Cores.init L W host) :=
  ⟨wan_windows_empty host [], rfl⟩

/-- One call: the entry of it, if it is one of the core. -/
theorem lan_entry_tally {pm : PeerManager} {g : Cores L W} (h : HasPeers pm g) (i : Fin L)
    (c : CoreCall L W) :
    ((g.step c).procs (lanIndex i)).stats = (g.procs (lanIndex i)).stats +
        ((g.lanEntry i c).map fun e => counterWords (lanTally pm e.1 e.2)).sum ∧
      ((g.lanEntry i c) = [] ∨ ∃ e, g.lanEntry i c = [e] ∧
        (IsTunnelled pm e.1 → (writeAnswers e.2).length ≤ 1)) := by
  rcases c.lanRx_or_elsewhere i with ⟨m, rfl⟩ | helse
  · obtain ⟨ev, hadds, hone, hstats⟩ := lan_tally (g.procs (lanIndex i)) m g.host
    rw [h.2] at hone hstats
    have hevents : g.events (.lanRx i m) = ev := Cores.events_of_adds (c := .lanRx i m) hadds
    have hentry : g.lanEntry i (.lanRx i m) = [(m, ev)] := by
      rw [Cores.lanEntry, if_pos rfl, hevents]
    rw [hentry, step_procs_self, hstats]
    exact ⟨by simp, .inr ⟨_, rfl, hone⟩⟩
  · rw [lanEntry_of_elsewhere g helse, step_procs_of_elsewhere g helse]
    exact ⟨by simp, .inl rfl⟩

/-- What the packets of LAN core `i` add to its statistics in a run. -/
def lanTotal (i : Fin L) (host : Host) (calls : List (CoreCall L W)) : Tally :=
  ((lanEntries i (Cores.init L W host) calls).map fun e => lanTally host.peerManager e.1 e.2).sum

theorem lan_stats_run (host : Host) (calls : List (CoreCall L W)) (i : Fin L) :
    ((run Cores.step (Cores.init L W host) calls).procs (lanIndex i)).stats =
      counterWords (lanTotal i host calls) := by
  have htotal := total_outputs (f := fun g : Cores L W => (g.procs (lanIndex i)).stats)
    (fun _ c h => HasPeers.step h c) (fun _ c h => (lan_entry_tally h i c).1)
    (hasPeers_init host) calls
  have hzero : ((Cores.init L W host).procs (lanIndex i)).stats = 0 := rfl
  rw [hzero, zero_add] at htotal
  rw [lanTotal, map_list_sum, List.map_map]
  exact htotal

/-- The answers of the WAN port by which it refused a WRITE of the entry. -/
def refusals (pm : PeerManager) (e : Mbuf × List (Event Mbuf)) : Nat :=
  if IsTunnelled pm e.1 then (writeAnswers e.2).count false else 0

theorem lanEntries_packets (i : Fin L) (g : Cores L W) (calls : List (CoreCall L W)) :
    (lanEntries i g calls).map Prod.fst = lanPackets i calls := by
  induction calls generalizing g with
  | nil => rfl
  | cons c calls ih =>
    rw [lanEntries, outputs, List.map_append, ← lanEntries, ih, ← List.singleton_append,
      lanPackets_append]
    congr 1
    cases c with
    | lanRx i' m => by_cases hi : i' = i <;> simp [Cores.lanEntry, lanPackets, hi]
    | wanRx j m => rfl
    | timer j => rfl

/-- The packets that LAN core `i` has counted in one of three ways, modulo 2^64. -/
def Cores.counted (g : Cores L W) (i : Fin L) : BitVec 64 :=
  (g.procs (lanIndex i)).stats .pktsLanToWan + (g.procs (lanIndex i)).stats .pktsPassthrough +
    (g.procs (lanIndex i)).stats .pktsDropped

theorem counted_step {pm : PeerManager} {g : Cores L W} (h : HasPeers pm g) (i : Fin L)
    (c : CoreCall L W) :
    (g.step c).counted i = g.counted i +
      ((g.lanEntry i c).map fun e => ((1 + refusals pm e : Nat) : BitVec 64)).sum := by
  obtain ⟨hstats, hentry⟩ := lan_entry_tally h i c
  rcases hentry with hnone | ⟨e, hone, hlen⟩
  · rw [hnone] at hstats ⊢
    rw [Cores.counted, hstats]
    simp [Cores.counted]
  · rw [hone] at hstats ⊢
    have hcovers : lanTally pm e.1 e.2 .pktsLanToWan + lanTally pm e.1 e.2 .pktsPassthrough +
        lanTally pm e.1 e.2 .pktsDropped = 1 + refusals pm e := lanTally_covers pm e.1 hlen
    have hword : ∀ c, counterWords (lanTally pm e.1 e.2) c =
        ((lanTally pm e.1 e.2 c : Nat) : BitVec 64) := fun c => rfl
    rw [Cores.counted, Cores.counted, hstats, List.map_singleton, List.map_singleton,
      List.sum_singleton, List.sum_singleton, ← hcovers]
    simp only [Pi.add_apply, hword, Nat.cast_add]
    ac_rfl

theorem lan_packets_counted (host : Host) (calls : List (CoreCall L W)) (i : Fin L) :
    (run Cores.step (Cores.init L W host) calls).counted i =
      (((lanPackets i calls).length +
        ((lanEntries i (Cores.init L W host) calls).map (refusals host.peerManager)).sum : Nat) :
        BitVec 64) := by
  have htotal := total_outputs (f := fun g : Cores L W => g.counted i)
    (fun _ c h => HasPeers.step h c) (fun _ c h => counted_step h i c) (hasPeers_init host) calls
  have hzero : (Cores.init L W host).counted i = 0 := rfl
  rw [hzero, zero_add, ← lanEntries] at htotal
  have hsum : ((lanEntries i (Cores.init L W host) calls).map
        fun e => 1 + refusals host.peerManager e).sum = (lanPackets i calls).length +
        ((lanEntries i (Cores.init L W host) calls).map (refusals host.peerManager)).sum := by
    rw [← lanEntries_packets i (Cores.init L W host) calls, List.length_map, List.sum_map_add]
    simp
  rw [htotal, ← hsum, Nat.cast_list_sum, List.map_map]
  rfl

/-- In every run of the gateway, whatever the other cores do: every counter of a LAN core is,
modulo 2^64, the total of what its packets add to it (`lanTally`), and every packet it
received is counted as sent to the WAN, as passed on or as dropped, a WRITE that the WAN port
refused both as sent and as dropped. -/
theorem lan_statistics_exact (host : Host) (calls : List (CoreCall L W)) (i : Fin L) :
    (∀ c, (((run Cores.step (Cores.init L W host) calls).procs (lanIndex i)).stats c).toNat =
        lanTotal i host calls c % 2 ^ 64) ∧
      ((run Cores.step (Cores.init L W host) calls).counted i).toNat =
        ((lanPackets i calls).length +
          ((lanEntries i (Cores.init L W host) calls).map (refusals host.peerManager)).sum) %
            2 ^ 64 := by
  refine ⟨fun c => ?_, ?_⟩
  · rw [lan_stats_run host calls i, counterWords_toNat]
  · rw [lan_packets_counted host calls i, BitVec.natCast_eq_ofNat, BitVec.toNat_ofNat]

/-! ## WAN cores -/

theorem wanEntry_of_notFor (g : Cores L W) {j : Fin W} {c : CoreCall L W} (h : c.NotFor j) :
    g.wanEntry j c = [] := by
  cases c with
  | lanRx i m => rfl
  | wanRx j' m => exact if_neg h
  | timer j' => rfl

/-- A call that is no packet for the core leaves its statistics alone. -/
theorem stats_of_notFor {g : Cores L W} (hwindows : WanWindowsEmpty g) {j : Fin W}
    {c : CoreCall L W} (h : c.NotFor j) :
    ((g.step c).procs (wanIndex j)).stats = (g.procs (wanIndex j)).stats := by
  cases c with
  | lanRx i m => simp [Cores.step, Cores.update, (lanIndex_ne_wanIndex i j).symm]
  | wanRx j' m => simp [Cores.step, Cores.update, wanIndex_ne h]
  | timer j' =>
    by_cases hj : j' = j
    · subst hj
      simp only [Cores.step, Cores.update, Function.update_self]
      exact procTimerCallback_stats (hwindows j') g.host
    · simp [Cores.step, Cores.update, wanIndex_ne hj]

theorem wan_entry_tally {g : Cores L W} (hwindows : WanWindowsEmpty g) (j : Fin W)
    (c : CoreCall L W) :
    ((g.step c).procs (wanIndex j)).stats = (g.procs (wanIndex j)).stats +
      ((g.wanEntry j c).map fun e => counterWords (wanTally e.1 e.2.1 e.2.2)).sum := by
  rcases c.wanRx_or_notFor j with ⟨m, rfl⟩ | hnot
  · obtain ⟨ev, hadds, hstats⟩ := wan_tally (hwindows j) m g.host
    have hevents : g.events (.wanRx j m) = ev := Cores.events_of_adds (c := .wanRx j m) hadds
    have hentry : g.wanEntry j (.wanRx j m) = [(g.bufferOf j, m, ev)] := by
      rw [Cores.wanEntry, if_pos rfl, hevents]
    rw [hentry]
    simp only [Cores.step, Cores.update, Function.update_self, List.map_singleton,
      List.sum_singleton]
    exact hstats
  · rw [wanEntry_of_notFor g hnot, stats_of_notFor hwindows hnot]
    simp

/-- What the packets of WAN core `j` add to its statistics in a run. -/
def wanTotal (j : Fin W) (host : Host) (calls : List (CoreCall L W)) : Tally :=
  ((wanEntries j (Cores.init L W host) calls).map fun e => wanTally e.1 e.2.1 e.2.2).sum

/-- In every run of the gateway, whatever the other cores do and however often the timers
fire: every counter of a WAN core is, modulo 2^64, the total of what its packets add to it
(`wanTally`). -/
theorem wan_statistics_exact (host : Host) (calls : List (CoreCall L W)) (j : Fin W)
    (c : StatCounter) :
    (((run Cores.step (Cores.init L W host) calls).procs (wanIndex j)).stats c).toNat =
      wanTotal j host calls c % 2 ^ 64 := by
  have htotal := total_outputs (f := fun g : Cores L W => (g.procs (wanIndex j)).stats)
    (fun _ c h => WanWindowsEmpty.step h c) (fun _ c h => wan_entry_tally h j c)
    (wan_windows_empty host []) calls
  have hzero : ((Cores.init L W host).procs (wanIndex j)).stats = 0 := rfl
  rw [run_nil, hzero, zero_add] at htotal
  have hwords : ((run Cores.step (Cores.init L W host) calls).procs (wanIndex j)).stats =
      counterWords (wanTotal j host calls) := by
    rw [wanTotal, map_list_sum, List.map_map]
    exact htotal
  rw [hwords, counterWords_toNat]

end RdmaGateway.Gateway
