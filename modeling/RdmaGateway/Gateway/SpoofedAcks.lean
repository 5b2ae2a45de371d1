/-
  Gateway/SpoofedAcks.lean --- the acknowledgements that reach the LAN, over whole runs.

  The sender of a WRITE is told that it arrived as soon as the gateway has seen it.  Each
  such answer is for one WRITE of a queue pair that is served, names it and goes back where
  it came from; the answers of a core come in the order of its WRITEs, and none is missing
  unless the pool is empty (`acks_answer_writes`).
-/
import RdmaGateway.Gateway.Egress
import RdmaGateway.Gateway.Network
import RdmaGateway.Processor.SpoofedAcks

set_option autoImplicit false

namespace RdmaGateway.Gateway

open RdmaGateway.Foundation
open RdmaGateway.Dpdk
open RdmaGateway.Wire
open RdmaGateway.Roce
open RdmaGateway.Tunnel
open RdmaGateway.Arq
open RdmaGateway.Reassembly
open RdmaGateway.Processor

variable {L W : Nat}

/-! ## Runs -/

/-- The WRITEs of LAN core `i` that are answered. -/
def answeredWrites (pm : PeerManager) (i : Fin L) (calls : List (CoreCall L W)) : List Mbuf :=
  (lanPackets i calls).filter fun m => IsAnswered pm (tunnelled pm i calls) m

/-- The acknowledgements that one call passes to the LAN port, if it is one of LAN core `i`. -/
def Cores.acksOf (g : Cores L W) (i : Fin L) : CoreCall L W → List Mbuf
  | .lanRx i' m => if i' = i then spoofedAcks (g.events (.lanRx i' m)) else []
  | _ => []

/-- The acknowledgements that LAN core `i` passes to the LAN port in the course of a run. -/
def sentAcks (i : Fin L) (g : Cores L W) (calls : List (CoreCall L W)) : List Mbuf :=
  outputs Cores.step (fun g c => g.acksOf i c) g calls

theorem answeredWrites_concat_self (pm : PeerManager) (i : Fin L) (calls : List (CoreCall L W))
    (m : Mbuf) :
    answeredWrites pm i (calls ++ [.lanRx i m]) = answeredWrites pm i calls ++
      if IsAnswered pm (writesAfter pm (tunnelled pm i calls) m) m then [m] else [] := by
  have hkeep : ∀ m' ∈ lanPackets i calls,
      (IsAnswered pm (tunnelled pm i (calls ++ [.lanRx i m])) m' ↔
        IsAnswered pm (tunnelled pm i calls) m') := fun m' hm' =>
    and_congr_right fun htunnel => served_concat_self pm hm' htunnel m
  rw [answeredWrites, lanPackets_filter_concat_self hkeep, ← answeredWrites, tunnelled_concat_self]

theorem answeredWrites_concat_of_elsewhere (pm : PeerManager) {i : Fin L}
    (calls : List (CoreCall L W)) {c : CoreCall L W} (h : c.IsElsewhere i) :
    answeredWrites pm i (calls ++ [c]) = answeredWrites pm i calls := by
  rw [answeredWrites, lanPackets_concat_of_elsewhere calls h,
    tunnelled_concat_of_elsewhere pm calls h]
  rfl

/-- A call changes neither the pool nor what the ports take. -/
theorem step_oracle {g : Cores L W} (h : WanWindowsEmpty g) (c : CoreCall L W) :
    (g.step c).host.io.oracle = g.host.io.oracle := by
  cases c with
  | lanRx i m =>
    obtain ⟨ev, hadds, -⟩ := lan_frames (g.procs (lanIndex i)) m g.host
    rw [Cores.step, update_host, hadds.oracle]
  | wanRx j m =>
    obtain ⟨ev, hadds, -⟩ := wan_frames (h j) m g.host
    rw [Cores.step, update_host, hadds.oracle]
  | timer j =>
    rw [Cores.step, update_host, procTimerCallback, h j, foldl_timerVisit_init]
    rfl

theorem hasBuffers_run (host : Host) (calls : List (CoreCall L W)) :
    HasBuffers (run Cores.step (Cores.init L W host) calls).host ↔ HasBuffers host := by
  induction calls using List.reverseRecOn with
  | nil => exact Iff.rfl
  | append_singleton calls c ih =>
    rw [run_append, run_cons, run_nil, HasBuffers, step_oracle (wan_windows_empty host calls)]
    exact ih

/-- One call of LAN core `i`, or of another core. -/
theorem step_acks (host : Host) (calls : List (CoreCall L W)) (i : Fin L) (c : CoreCall L W) :
    ∃ ms : List Mbuf, answeredWrites host.peerManager i (calls ++ [c]) =
        answeredWrites host.peerManager i calls ++ ms ∧
      ((run Cores.step (Cores.init L W host) calls).acksOf i c = [] ∧
          (ms = [] ∨ ¬ HasBuffers host) ∨
        List.Forall₂ IsAckOf ((run Cores.step (Cores.init L W host) calls).acksOf i c) ms) := by
  have hserves := servesQps_run host calls i
  have hpeers := (init_config host calls).1
  have hpool := hasBuffers_run host calls
  generalize run Cores.step (Cores.init L W host) calls = g at hserves hpeers hpool
  rcases c.lanRx_or_elsewhere i with ⟨m, rfl⟩ | helse
  · have hacks := lan_acks hserves m g.host
    rw [hpeers] at hacks
    refine ⟨_, answeredWrites_concat_self host.peerManager i calls m, ?_⟩
    rw [Cores.acksOf, if_pos rfl]
    split at hacks
    · rename_i hanswered
      obtain ⟨ev, hanswers⟩ := hacks
      rw [if_pos hanswered, Cores.events_of_adds (c := .lanRx i m) hanswers.adds]
      rcases hanswers.acks with ⟨hnone, hempty⟩ | ⟨f, hf, hforged⟩
      · exact .inl ⟨hnone, .inr fun h => hempty (hpool.mpr h)⟩
      · rw [hf]
        exact .inr (.cons (isAckOf_of_forged hforged) .nil)
    · rename_i hnot
      obtain ⟨ev, hadds, hnone⟩ := hacks
      rw [if_neg hnot, Cores.events_of_adds (c := .lanRx i m) hadds]
      exact .inl ⟨hnone, .inl rfl⟩
  · refine ⟨[], ?_, .inl ⟨?_, .inl rfl⟩⟩
    · rw [answeredWrites_concat_of_elsewhere _ _ helse, List.append_nil]
    · cases c with
      | lanRx i' m => exact if_neg helse
      | wanRx j m => rfl
      | timer j => rfl

theorem acks_run (host : Host) (calls : List (CoreCall L W)) (i : Fin L) :
    (∃ ms, ms.Sublist (answeredWrites host.peerManager i calls) ∧
        List.Forall₂ IsAckOf (sentAcks i (Cores.init L W host) calls) ms) ∧
      (HasBuffers host → List.Forall₂ IsAckOf (sentAcks i (Cores.init L W host) calls)
        (answeredWrites host.peerManager i calls)) := by
  induction calls using List.reverseRecOn with
  | nil => exact ⟨⟨[], List.Sublist.refl _, .nil⟩, fun _ => .nil⟩
  | append_singleton calls c ih =>
    obtain ⟨⟨ms, hsub, hacks⟩, hall⟩ := ih
    obtain ⟨new, hnew, hstep⟩ := step_acks host calls i c
    rw [sentAcks, outputs_concat, hnew]
    rcases hstep with ⟨hnone, hwhy⟩ | hone
    · rw [hnone, List.append_nil]
      refine ⟨⟨ms, hsub.trans (List.sublist_append_left _ _), hacks⟩, fun hpool => ?_⟩
      rw [hwhy.resolve_right (not_not.mpr hpool), List.append_nil]
      exact hall hpool
    · exact ⟨⟨ms ++ new, hsub.append (List.Sublist.refl new), List.rel_append hacks hone⟩,
        fun hpool => List.rel_append (hall hpool) hone⟩

/-- A WAN core buffers WRITEs only. -/
theorem buffers_writes (host : Host) (calls : List (CoreCall L W)) (j : Fin W) :
    Holds (fun _ m => m.isRoceWrite)
      ((run Cores.step (Cores.init L W host) calls).procs (wanIndex j)).jitterBuffer := by
  induction calls using List.reverseRecOn generalizing j with
  | nil => exact holds_jbInit
  | append_singleton calls c ih =>
    rw [run_append, run_cons, run_nil]
    exact step_buffers (wan_windows_empty host calls) ih c (fun _ _ _ hwrite => hwrite) j

theorem wanCore_acks_nothing (host : Host) (calls : List (CoreCall L W)) {c : CoreCall L W}
    (hc : c.OnWanCore) :
    spoofedAcks ((run Cores.step (Cores.init L W host) calls).events c) = [] := by
  have hwindows := wan_windows_empty host calls
  have hbuffers := buffers_writes host calls
  generalize run Cores.step (Cores.init L W host) calls = g at hwindows hbuffers
  cases c with
  | lanRx i m => exact hc.elim
  | wanRx j m =>
    obtain ⟨ev, hadds, hframes⟩ := wan_frames (hwindows j) m g.host
    rw [Cores.events_of_adds (c := .wanRx j m) hadds]
    apply spoofedAcks_eq_nil
    intro f accepted hf
    cases hframes _ _ _ hf with
    | @delivered seg hwrite hseg =>
      obtain ⟨i, k, -, -, hmbuf⟩ := jbGetOrderedSegs_subset hseg
      have hadd : Holds (fun _ m => m.isRoceWrite)
          (addSegOf (g.procs (wanIndex j)) g.host m).2.1 :=
        Holds.addSeg (hbuffers j) _ _ hwrite _
      have hsent := (setSrcAddr_headers g.host.wanTunnelSrcIp seg).2.mpr (hadd i k seg hmbuf)
      intro hack
      have hop := hsent.2.2.2
      rw [hack] at hop
      exact absurd hop (by decide)
  | timer j =>
    rw [timer_events hwindows]
    rfl

/-- Over every run of the gateway the acknowledgements that a LAN core passes to the LAN port
answer WRITEs that it received for a known peer and a queue pair that it serves: each names
its own WRITE and goes back to its sender, in the order of arrival, at most one for each, and
one for each if the pool never runs out.  WAN cores send none. -/
theorem acks_answer_writes (host : Host) (calls : List (CoreCall L W)) (i : Fin L) :
    List.SublistForall₂ IsAckOf (sentAcks i (Cores.init L W host) calls)
        (answeredWrites host.peerManager i calls) ∧
      (HasBuffers host → List.Forall₂ IsAckOf (sentAcks i (Cores.init L W host) calls)
        (answeredWrites host.peerManager i calls)) ∧
      ∀ c : CoreCall L W, c.OnWanCore →
        spoofedAcks ((run Cores.step (Cores.init L W host) calls).events c) = [] := by
  obtain ⟨⟨ms, hsub, hacks⟩, hall⟩ := acks_run host calls i
  exact ⟨List.sublistForall₂_iff.mpr ⟨ms, hacks, hsub⟩, hall,
    fun _ hc => wanCore_acks_nothing host calls hc⟩

end RdmaGateway.Gateway
