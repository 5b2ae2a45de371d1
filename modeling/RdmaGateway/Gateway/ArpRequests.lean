/-
  Gateway/ArpRequests.lean --- ARP requests over whole runs.

  `last_arp_time` is one variable of the process.  Whatever cores the packets reach and
  whatever hops they ask for, two requests are more than five seconds apart.
-/
import RdmaGateway.Gateway.Windows
import RdmaGateway.Processor.ArpRequests

set_option autoImplicit false

namespace RdmaGateway.Gateway

open RdmaGateway.Foundation
open RdmaGateway.Dpdk
open RdmaGateway.Wire
open RdmaGateway.Tunnel
open RdmaGateway.Arq
open RdmaGateway.Processor

variable {L W : Nat}

/-- When the last request was due, as the cores have noted it. -/
def Cores.lastArpTime (g : Cores L W) : Nat := g.host.lastArpTime

/-- For every ARP request of the call, the time noted of it. -/
def Cores.arpTimes (g : Cores L W) (c : CoreCall L W) : List Nat :=
  (arpRequests (g.events c)).map fun _ => (g.step c).lastArpTime

/-- The times of the ARP requests of a run. -/
def arpTimes (g : Cores L W) (calls : List (CoreCall L W)) : List Nat :=
  outputs Cores.step Cores.arpTimes g calls

/-- The time of the last request is in the past, on a clock of `hz` cycles a second. -/
structure ArpInv (hz : Nat) (g : Cores L W) : Prop where
  windows : WanWindowsEmpty g
  runs : ClockRuns g.host
  hz : g.host.io.oracle.timerHz = hz
  past : g.lastArpTime ≤ clock g.host

theorem step_mayAsk {g : Cores L W} (h : WanWindowsEmpty g) (c : CoreCall L W) :
    MayAsk g.host (g.step c).host := by
  cases c with
  | lanRx i m =>
    rw [Cores.step, update_host]
    exact lan_mayAsk _ m g.host
  | wanRx j m =>
    obtain ⟨ev, hnothing⟩ := wan_asksNothing (h j) m g.host
    rw [Cores.step, update_host]
    exact ⟨ev, .inl hnothing⟩
  | timer j =>
    rw [Cores.step, update_host]
    exact ⟨[], .inl (timer_asksNothing (h j) g.host)⟩

/-- A reading taken in between is neither before the clock at the start nor past the one at
the end. -/
theorem clock_of_readBetween {host host' : Host} {now : Nat} (h : ClockRuns host)
    (hlater : Later host.io host'.io) (hread : ReadBetween host host' now) :
    clock host ≤ now ∧ now ≤ clock host' ∧ now < 18446744073709551616 := by
  obtain ⟨k, hle, hlt, rfl⟩ := hread
  refine ⟨h.mono hle, ?_, h.lt k⟩
  rw [clock, hlater.oracle]
  exact h.mono hlt.le

/-- What one call does to the time of the last request, and when it asks. -/
structure ArpStep (hz : Nat) (g : Cores L W) (c : CoreCall L W) : Prop where
  inv : ArpInv hz (g.step c)
  moves : MovesStamp Cores.lastArpTime (hz * 5) g (g.step c) (g.arpTimes c)
  during : ∀ t ∈ g.arpTimes c, clock g.host ≤ t ∧ t ≤ clock (g.step c).host

theorem ArpInv.step {hz : Nat} {g : Cores L W} (h : ArpInv hz g) (c : CoreCall L W) :
    ArpStep hz g c := by
  have hwindows := h.windows.step c
  obtain ⟨ev, hnothing | hasks⟩ := step_mayAsk h.windows c
  · obtain ⟨hruns, hclock⟩ := h.runs.later hnothing.later
    have hnone : g.arpTimes c = [] := by
      rw [Cores.arpTimes, Cores.events_of_adds hnothing.adds, hnothing.none, List.map_nil]
    refine ⟨⟨hwindows, hruns, ?_, ?_⟩, .inl ⟨hnothing.lastArpTime, hnone⟩, ?_⟩
    · rw [hnothing.later.oracle, h.hz]
    · rw [Cores.lastArpTime, hnothing.lastArpTime]
      exact h.past.trans hclock
    · rw [hnone]
      intro t ht
      cases ht
  · obtain ⟨hruns, -⟩ := h.runs.later hasks.later
    obtain ⟨hfrom, hto, hlt⟩ := clock_of_readBetween h.runs hasks.later hasks.read
    have hpast : g.host.lastArpTime ≤ (g.step c).host.lastArpTime := h.past.trans hfrom
    have hdue := hasks.due
    rw [h.hz, sub64_of_le hlt hpast] at hdue
    have hlate : g.lastArpTime + hz * 5 < (g.step c).lastArpTime := Nat.add_lt_of_lt_sub' hdue
    have htimes : g.arpTimes c = (arpRequests ev).map fun _ => (g.step c).lastArpTime := by
      rw [Cores.arpTimes, Cores.events_of_adds hasks.adds]
    refine ⟨⟨hwindows, hruns, ?_, hto⟩, .inr ⟨hlate, ?_⟩, fun t ht => ?_⟩
    · rw [hasks.later.oracle, h.hz]
    · rw [htimes]
      rcases Nat.le_one_iff_eq_zero_or_eq_one.mp hasks.one with hzero | hone
      · rw [List.length_eq_zero_iff.mp hzero]
        exact .inl rfl
      · obtain ⟨f, hf⟩ := List.length_eq_one_iff.mp hone
        rw [hf]
        exact .inr rfl
    · rw [htimes, List.mem_map] at ht
      obtain ⟨-, -, rfl⟩ := ht
      exact ⟨hfrom, hto⟩

theorem arpInv_run {hz : Nat} {g : Cores L W} (h : ArpInv hz g) (calls : List (CoreCall L W)) :
    ArpInv hz (run Cores.step g calls) := by
  have hstep : ∀ (g : Cores L W) c, ArpInv hz g → True → ArpInv hz (g.step c) :=
    fun _ c hg _ => (hg.step c).inv
  exact run_induction hstep h (stepsMeet_of_forall (fun _ _ _ => trivial) g)

theorem arpInv_init {host : Host} (hruns : ClockRuns host) (hpast : host.lastArpTime ≤ clock host) :
    ArpInv host.io.oracle.timerHz (Cores.init L W host) :=
  ⟨wan_windows_empty host [], hruns, rfl, hpast⟩

/-- Each ARP request is noted with a reading of the clock taken in its call, more than five
seconds after the one before it, whichever cores sent the two and whichever hops they ask
for.  So the clock has gone on by more than five seconds for each. -/
theorem arp_requests_paced {host : Host} (hruns : ClockRuns host)
    (hpast : host.lastArpTime ≤ clock host) (calls : List (CoreCall L W)) :
    (∀ before c after, calls = before ++ c :: after →
      ∀ t ∈ (run Cores.step (Cores.init L W host) before).arpTimes c,
        clock (run Cores.step (Cores.init L W host) before).host ≤ t ∧
          t ≤ clock (run Cores.step (Cores.init L W host) (before ++ [c])).host) ∧
      (host.lastArpTime :: arpTimes (Cores.init L W host) calls).Pairwise
        (fun a b => a + host.io.oracle.timerHz * 5 < b) ∧
      host.lastArpTime + (arpTimes (Cores.init L W host) calls).length *
        (host.io.oracle.timerHz * 5 + 1) ≤
          clock (run Cores.step (Cores.init L W host) calls).host := by
  have hinit : ArpInv host.io.oracle.timerHz (Cores.init L W host) := arpInv_init hruns hpast
  have hinv : ∀ (g : Cores L W) c, ArpInv host.io.oracle.timerHz g →
      ArpInv host.io.oracle.timerHz (g.step c) := fun _ c hg => (hg.step c).inv
  have hmoves : ∀ (g : Cores L W) c, ArpInv host.io.oracle.timerHz g →
      MovesStamp Cores.lastArpTime (host.io.oracle.timerHz * 5) g (g.step c) (g.arpTimes c) :=
    fun _ c hg => (hg.step c).moves
  have hapart := outputs_apart hinv hmoves hinit calls
  have hlast := outputs_le_stamp hinv hmoves hinit calls
  refine ⟨fun before c after _ t ht => ?_, hapart, length_mul_le_of_apart hapart fun t ht => ?_⟩
  · rw [run_append]
    exact ((arpInv_run hinit before).step c).during t ht
  · exact (hlast t ht).trans (arpInv_run hinit calls).past

/-- A host of 50 Hz whose clock advances by a hundred cycles with every reading. -/
def slowHost : Host :=
  { Host.unloaded with
    io := .start ⟨fun _ _ => true, fun _ => some ⟨0, 2048, 0, fun _ => 0⟩,
      fun n => min (100 * n + 100) 18446744073709551615, 50⟩ }

/-- Four WRITEs of two queue pairs, on two cores. -/
def unresolvedCalls : List (CoreCall 2 1) :=
  [.lanRx 0 (writeFrame 1 roceOpcodeWriteOnly 7 0),
    .lanRx 1 (writeFrame 2 roceOpcodeWriteOnly 8 0),
    .lanRx 0 (writeFrame 3 roceOpcodeWriteOnly 7 1),
    .lanRx 1 (writeFrame 4 roceOpcodeWriteOnly 8 1)]

/-- All four look for a next hop, and the second and the last ask for it. -/
theorem arp_requests_paced_four :
    arpTimes (Cores.init 2 1 slowHost) unresolvedCalls = [300, 700] ∧
      (slowHost.lastArpTime :: arpTimes (Cores.init 2 1 slowHost) unresolvedCalls).Pairwise
        (fun a b => a + slowHost.io.oracle.timerHz * 5 < b) := by
  have hruns : ClockRuns slowHost := by
    refine ⟨fun a b hab => ?_, fun n => ?_⟩
    · dsimp only [slowHost, Io.start]
      omega
    · dsimp only [slowHost, Io.start]
      omega
  exact ⟨by decide +kernel,
    (arp_requests_paced hruns (Nat.zero_le _) unresolvedCalls).2.1⟩

end RdmaGateway.Gateway
