/-
  Gateway/Windows.lean --- the tables of the LAN cores in every run of the gateway.

  Feedback and ticks never reach a LAN core (`Gateway.Cores`), so its tables depend on
  the WRITEs it received and on nothing else: which queue pairs it serves, in which slots,
  and what their windows hold.
-/
import RdmaGateway.Gateway.Replies
import RdmaGateway.Processor.Admission
import RdmaGateway.Processor.Saturation

set_option autoImplicit false

namespace RdmaGateway.Gateway

open RdmaGateway.Foundation
open RdmaGateway.Dpdk
open RdmaGateway.Wire
open RdmaGateway.Tunnel
open RdmaGateway.Arq
open RdmaGateway.Processor

variable {L W : Nat}

/-- The packets that a run hands to LAN core `i`. -/
def lanPackets (i : Fin L) (calls : List (CoreCall L W)) : List Mbuf :=
  calls.filterMap fun
    | .lanRx i' m => if i' = i then some m else none
    | _ => none

theorem lanPackets_append (i : Fin L) (xs ys : List (CoreCall L W)) :
    lanPackets i (xs ++ ys) = lanPackets i xs ++ lanPackets i ys :=
  List.filterMap_append

@[simp] theorem lanPackets_self (i : Fin L) (m : Mbuf) :
    lanPackets i ([.lanRx i m] : List (CoreCall L W)) = [m] := by
  simp [lanPackets]

/-- The WRITEs for a known peer that LAN core `i` received. -/
def tunnelled (pm : PeerManager) (i : Fin L) (calls : List (CoreCall L W)) : List Mbuf :=
  (lanPackets i calls).filter fun m => IsTunnelled pm m

theorem tunnelled_append (pm : PeerManager) (i : Fin L) (xs ys : List (CoreCall L W)) :
    tunnelled pm i (xs ++ ys) = tunnelled pm i xs ++ tunnelled pm i ys := by
  rw [tunnelled, lanPackets_append, List.filter_append]
  rfl

/-- One more packet of the core. -/
theorem tunnelled_concat_self (pm : PeerManager) (i : Fin L) (calls : List (CoreCall L W))
    (m : Mbuf) :
    tunnelled pm i (calls ++ [.lanRx i m]) = writesAfter pm (tunnelled pm i calls) m := by
  rw [tunnelled_append, writesAfter]
  by_cases h : IsTunnelled pm m
  · simp [tunnelled, h]
  · simp [tunnelled, h]

/-- The call does not concern LAN core `i`. -/
def CoreCall.IsElsewhere (i : Fin L) : CoreCall L W → Prop
  | .lanRx i' _ => i' ≠ i
  | _ => True

theorem CoreCall.lanRx_or_elsewhere (i : Fin L) (c : CoreCall L W) :
    (∃ m, c = .lanRx i m) ∨ c.IsElsewhere i := by
  cases c with
  | lanRx i' m =>
    by_cases hi : i' = i
    · exact .inl ⟨m, by rw [hi]⟩
    · exact .inr hi
  | wanRx j m => exact .inr trivial
  | timer j => exact .inr trivial

theorem lanPackets_concat_of_elsewhere {i : Fin L} (calls : List (CoreCall L W))
    {c : CoreCall L W} (h : c.IsElsewhere i) : lanPackets i (calls ++ [c]) = lanPackets i calls := by
  rw [lanPackets_append]
  cases c with
  | lanRx i' m => simp [lanPackets, show i' ≠ i from h]
  | wanRx j m => simp [lanPackets]
  | timer j => simp [lanPackets]

theorem tunnelled_concat_of_elsewhere (pm : PeerManager) {i : Fin L}
    (calls : List (CoreCall L W)) {c : CoreCall L W} (h : c.IsElsewhere i) :
    tunnelled pm i (calls ++ [c]) = tunnelled pm i calls := by
  rw [tunnelled, lanPackets_concat_of_elsewhere calls h]
  rfl

theorem step_procs_self (g : Cores L W) (i : Fin L) (m : Mbuf) :
    (g.step (.lanRx i m)).procs (lanIndex i) =
      (procProcessLanRx (g.procs (lanIndex i)) m g.host).1 := by
  simp [Cores.step, Cores.update]

theorem step_procs_of_elsewhere (g : Cores L W) {i : Fin L} {c : CoreCall L W}
    (h : c.IsElsewhere i) : (g.step c).procs (lanIndex i) = g.procs (lanIndex i) := by
  cases c with
  | lanRx i' m =>
    have hne : (lanIndex i : Fin (L + W)) ≠ lanIndex i' :=
      fun heq => h (Fin.castAdd_injective _ _ heq).symm
    simp [Cores.step, Cores.update, hne]
  | wanRx j m => simp [Cores.step, Cores.update, lanIndex_ne_wanIndex]
  | timer j => simp [Cores.step, Cores.update, lanIndex_ne_wanIndex]

theorem update_host (g : Cores L W) (k : Fin (L + W)) (r : ProcessorContext × Host) :
    (g.update k r).host = r.2 := rfl

/-- A timer callback of a WAN core sends nothing. -/
theorem timer_events {g : Cores L W} (h : WanWindowsEmpty g) (j : Fin W) :
    g.events (.timer j) = [] := by
  rw [Cores.events, Cores.step, update_host, (procTimerCallback_idle (h j) g.host).1,
    List.drop_length]

/-- Peers and address are those of the start. -/
theorem init_config (host : Host) (calls : List (CoreCall L W)) :
    (run Cores.step (Cores.init L W host) calls).host.peerManager = host.peerManager ∧
      (run Cores.step (Cores.init L W host) calls).host.wanTunnelSrcIp = host.wanTunnelSrcIp :=
  run_config (fun _ => rfl) calls

/-! ## The queue pairs served -/

theorem servesQps_run (host : Host) (calls : List (CoreCall L W)) (i : Fin L) :
    ServesQps (tunnelled host.peerManager i calls)
      ((run Cores.step (Cores.init L W host) calls).procs (lanIndex i)) := by
  induction calls using List.reverseRecOn with
  | nil => exact Table.registers_nil fun _ => rfl
  | append_singleton calls c ih =>
    have hpeers := (init_config host calls).1
    rw [run_append, run_cons, run_nil]
    rcases c.lanRx_or_elsewhere i with ⟨m, rfl⟩ | helse
    · rw [tunnelled_concat_self, step_procs_self]
      have hstep := ih.step m (run Cores.step (Cores.init L W host) calls).host
      rwa [hpeers] at hstep
    · rw [tunnelled_concat_of_elsewhere _ _ helse, step_procs_of_elsewhere _ helse]
      exact ih

/-! ## The windows -/

theorem lanTables_run (host : Host) (calls : List (CoreCall L W)) (i : Fin L)
    (hqpn : ∀ m ∈ tunnelled host.peerManager i calls, m.bthGetQpn ≠ 0) :
    LanTables host.wanTunnelSrcIp (tunnelled host.peerManager i calls)
      ((run Cores.step (Cores.init L W host) calls).procs (lanIndex i)) := by
  induction calls using List.reverseRecOn with
  | nil => exact lanTables_init _ _ _ _
  | append_singleton calls c ih =>
    obtain ⟨hpeers, hsrc⟩ := init_config host calls
    have hih := ih fun m hm => hqpn m (by
      rw [tunnelled_append]
      exact List.mem_append_left _ hm)
    rw [run_append, run_cons, run_nil]
    rcases c.lanRx_or_elsewhere i with ⟨m, rfl⟩ | helse
    · rw [tunnelled_concat_self] at hqpn ⊢
      rw [step_procs_self]
      have hstep := hih.step (m := m) hsrc fun hwrite => hqpn m (by
        rw [hpeers] at hwrite
        rw [writesAfter, if_pos hwrite]
        exact List.mem_append_right _ List.mem_cons_self)
      rwa [hpeers] at hstep
    · rw [tunnelled_concat_of_elsewhere _ _ helse, step_procs_of_elsewhere _ helse]
      exact hih

/-- In every run of the gateway the tables of a LAN core are a function of the WRITEs that
the core received, as long as none is for QPN 0: the QP table and the ARQ contexts have the
first 1024 queue pairs in the order in which they came, each in the same slot, and the
window of a queue pair has its base at 0 and holds the first 256 WRITEs, none of which was
ever released or retransmitted. -/
theorem lan_tables_are_first_writes (host : Host) (calls : List (CoreCall L W)) (i : Fin L)
    (hqpn : ∀ m ∈ tunnelled host.peerManager i calls, m.bthGetQpn ≠ 0) :
    LanTables host.wanTunnelSrcIp (tunnelled host.peerManager i calls)
      ((run Cores.step (Cores.init L W host) calls).procs (lanIndex i)) :=
  lanTables_run host calls i hqpn

/-- Two packets of one queue pair. -/
def twoPackets : List (CoreCall 1 1) := [.lanRx 0 writePacket, .lanRx 0 writePacket]

theorem twoPackets_qpn :
    ∀ m ∈ tunnelled Host.unloaded.peerManager (0 : Fin 1) twoPackets, m.bthGetQpn ≠ 0 := by
  have hall : ((tunnelled Host.unloaded.peerManager (0 : Fin 1) twoPackets).all
      fun m => m.bthGetQpn != 0) = true := by decide +kernel
  exact fun m hm => by simpa using List.all_eq_true.mp hall m hm

/-- The window of their queue pair has both, in order. -/
theorem lan_tables_are_first_writes_two :
    LanTables Host.unloaded.wanTunnelSrcIp
        (tunnelled Host.unloaded.peerManager (0 : Fin 1) twoPackets)
        ((run Cores.step (Cores.init 1 1 .unloaded) twoPackets).procs (lanIndex 0)) ∧
      (tunnelled Host.unloaded.peerManager (0 : Fin 1) twoPackets).length = 2 :=
  ⟨lan_tables_are_first_writes .unloaded twoPackets 0 twoPackets_qpn, by decide +kernel⟩

/-! ## The usage -/

/-- What `check_congestion` computes as the usage of the buffers: every served queue pair
counts with its WRITEs, up to a window of them. -/
theorem usage_counts_first_writes (host : Host) (calls : List (CoreCall L W)) (i : Fin L)
    (hqpn : ∀ m ∈ tunnelled host.peerManager i calls, m.bthGetQpn ≠ 0) :
    calculateArqWindowUsage
        ((run Cores.step (Cores.init L W host) calls).procs (lanIndex i)).arqMgr =
      ((servedQps (tunnelled host.peerManager i calls)).map fun qpn =>
        min windowSize (writesOf qpn (tunnelled host.peerManager i calls)).length).sum := by
  have htables := lanTables_run host calls i hqpn
  generalize run Cores.step (Cores.init L W host) calls = g at htables
  generalize tunnelled host.peerManager i calls = writes at htables
  have husage : ∀ s, contextUsage ((g.procs (lanIndex i)).arqMgr.contexts s) =
      (contextKey ((g.procs (lanIndex i)).arqMgr.contexts s)).elim 0
        fun qpn => min windowSize (writesOf qpn writes).length := by
    intro s
    cases hkey : contextKey ((g.procs (lanIndex i)).arqMgr.contexts s) with
    | none => simp [contextUsage, contextKey_eq_none_iff.mp hkey]
    | some qpn =>
      obtain ⟨hused, hqpn⟩ := contextKey_eq_some_iff.mp hkey
      rw [(htables.windows s qpn ((htables.contexts s).symm.trans hkey)).usage, if_pos hused]
      rfl
  have hle : ∀ s, contextUsage ((g.procs (lanIndex i)).arqMgr.contexts s) ≤ windowSize := by
    intro s
    rw [husage]
    cases contextKey ((g.procs (lanIndex i)).arqMgr.contexts s) with
    | none => exact Nat.zero_le _
    | some qpn => exact Nat.min_le_left _ _
  rw [calculateArqWindowUsage_eq_sum hle]
  exact Table.Registers.sum_slots htables.contexts (length_firstKeys_le _) husage

/-- Two slots are in use. -/
theorem usage_counts_first_writes_two :
    calculateArqWindowUsage
      ((run Cores.step (Cores.init 1 1 .unloaded) twoPackets).procs (lanIndex 0)).arqMgr = 2 := by
  rw [usage_counts_first_writes .unloaded twoPackets 0 twoPackets_qpn]
  decide +kernel

/-! ## The congestion flag -/

theorem saturates_run (host : Host) (calls : List (CoreCall L W)) (i : Fin L) :
    Saturates ((run Cores.step (Cores.init L W host) calls).procs (lanIndex i)) := by
  induction calls using List.reverseRecOn with
  | nil => exact saturates_init _ _ _
  | append_singleton calls c ih =>
    rw [run_append, run_cons, run_nil]
    rcases c.lanRx_or_elsewhere i with ⟨m, rfl⟩ | helse
    · rw [step_procs_self]
      exact (ih.step m _).1
    · rw [step_procs_of_elsewhere _ helse]
      exact ih

/-- Over every run of the gateway, from any point of it on: no window of a LAN core gives a
slot back, so the usage does not fall, and the congestion flag, once set, stays set. -/
theorem congestion_never_clears (host : Host) (before after : List (CoreCall L W)) (i : Fin L) :
    let s := (run Cores.step (Cores.init L W host) before).procs (lanIndex i)
    let t := (run Cores.step (Cores.init L W host) (before ++ after)).procs (lanIndex i)
    calculateArqWindowUsage s.arqMgr ≤ calculateArqWindowUsage t.arqMgr ∧
      s.congestionCtrl.congestionDetected ≤ t.congestionCtrl.congestionDetected := by
  induction after using List.reverseRecOn with
  | nil => simp
  | append_singleton after c ih =>
    have hs := saturates_run host (before ++ after) i
    rw [← List.append_assoc, run_append _ _ (before ++ after), run_cons, run_nil]
    dsimp only at ih ⊢
    generalize run Cores.step (Cores.init L W host) (before ++ after) = g at hs ih ⊢
    rcases c.lanRx_or_elsewhere i with ⟨m, rfl⟩ | helse
    · rw [step_procs_self]
      obtain ⟨hnext, hgrows, hflag⟩ := hs.step m g.host
      refine ⟨ih.1.trans ?_, ih.2.trans ?_⟩
      · exact calculateArqWindowUsage_mono hs.undrained hnext.undrained hgrows
      · exact Bool.le_iff_imp.mpr hflag
    · rw [step_procs_of_elsewhere _ helse]
      exact ih

end RdmaGateway.Gateway
