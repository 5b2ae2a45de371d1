/-
  Gateway/Egress.lean --- the WRITEs that leave on the WAN port, over whole runs.

  A LAN core passes a WRITE on once, when it receives it, and never again: what its
  windows keep is never retransmitted, and no other call passes a WRITE to the WAN port.
  What goes out is the received WRITEs in order, less those whose queue pair found the QP
  table full.
-/
import RdmaGateway.Gateway.Frames
import RdmaGateway.Gateway.Windows

set_option autoImplicit false

namespace RdmaGateway.Gateway

open RdmaGateway.Foundation
open RdmaGateway.Dpdk
open RdmaGateway.Wire
open RdmaGateway.Tunnel
open RdmaGateway.Arq
open RdmaGateway.Processor

variable {L W : Nat}

/-! ## The WRITEs in a trace -/

/-- The WRITE frames passed to the WAN port, in order. -/
def wanWrites (trace : List (Event Mbuf)) : List Mbuf :=
  (wanFrames trace).filter fun f => f.isRoceWrite

@[simp] theorem wanWrites_append (ev ev' : List (Event Mbuf)) :
    wanWrites (ev ++ ev') = wanWrites ev ++ wanWrites ev' := by
  rw [wanWrites, wanFrames, List.filterMap_append, List.filter_append]
  rfl

theorem wanWrites_eq_nil {ev : List (Event Mbuf)}
    (h : ∀ f accepted, .txBurst .wan f accepted ∈ ev → ¬ f.isRoceWrite) : wanWrites ev = [] := by
  apply List.filter_eq_nil_iff.mpr
  intro f hf
  obtain ⟨accepted, hev⟩ := mem_wanFrames.mp hf
  simpa using h f accepted hev

/-- One transmission of a WRITE. -/
theorem wanWrites_txEvents {f : Mbuf} (h : f.isRoceWrite) (accepted : Bool) :
    wanWrites (txEvents .wan f accepted) = [f] := by
  cases accepted <;> simp [txEvents, wanWrites, wanFrames, h]

theorem wanWrites_forwardEvents {f : Mbuf} (h : f.isRoceWrite) (inWindow : Int) (accepted : Bool) :
    wanWrites (forwardEvents f inWindow accepted) = [f] := by
  unfold forwardEvents
  split
  · cases accepted <;> simp [keepEvents, wanWrites, wanFrames, h]
  · exact wanWrites_txEvents h accepted

/-! ## One packet -/

/-- The packet is a WRITE for an unknown peer, or one of a queue pair that is served. -/
def IsPassedOn (pm : PeerManager) (writes : List Mbuf) (m : Mbuf) : Prop :=
  m.isRoceWrite ∧ (IsTunnelled pm m → m.bthGetQpn ∈ servedQps writes)

instance (pm : PeerManager) (writes : List Mbuf) (m : Mbuf) : Decidable (IsPassedOn pm writes m) :=
  inferInstanceAs (Decidable (_ ∧ _))

/-- A WRITE for an unknown peer keeps its addresses and is passed on. -/
theorem lan_sends_unknown (proc : ProcessorContext) {m : Mbuf} (host : Host) (hwrite : m.isRoceWrite)
    (hpeer : wanGetPeerIp host (bswap32 m.ipDstAddr) = 0) :
    ∃ ev f, Adds host (procProcessLanRx proc m host).2 ev ∧ wanWrites ev = [f] ∧ IsRelayed m f := by
  obtain ⟨hm, evArp, hadds, hown⟩ := wanSetMacs_emits host m
  have harp : wanWrites evArp = [] :=
    wanWrites_eq_nil fun f accepted hf => (hown.of_mem hf).not_isRoceWrite
  have hsent : Adds host (lanPassthrough proc m host).2 (evArp ++
      txEvents .wan (wanSetMacs host m .wan).1 (Host.accepts (wanSetMacs host m .wan).2 .wan)) :=
    hadds.trans (txOrFree_adds _ .wan _)
  rw [procProcessLanRx_no_peer proc hwrite.1 hpeer]
  refine ⟨_, _, hsent, ?_, hm.2.1, fun i hge _ => hm.2.2 i hge⟩
  rw [wanWrites_append, harp, wanWrites_txEvents (hm.headers.2.mpr hwrite), List.nil_append]

/-- What a LAN core passes to the WAN port of one packet: the packet, if it is a WRITE to be
passed on, and no other WRITE. -/
theorem lan_sends_write {writes : List Mbuf} {proc : ProcessorContext}
    (h : ServesQps writes proc) (m : Mbuf) (host : Host) :
    ∃ ev, Adds host (procProcessLanRx proc m host).2 ev ∧
      if IsPassedOn host.peerManager (writesAfter host.peerManager writes m) m
      then ∃ f, wanWrites ev = [f] ∧ IsRelayed m f else wanWrites ev = [] := by
  by_cases hwrite : m.isRoceWrite
  · by_cases hpeer : wanGetPeerIp host (bswap32 m.ipDstAddr) = 0
    · obtain ⟨ev, f, hadds, hsent, hf⟩ := lan_sends_unknown proc host hwrite hpeer
      refine ⟨ev, hadds, ?_⟩
      rw [if_pos ⟨hwrite, fun htunnel => absurd hpeer htunnel.2⟩]
      exact ⟨f, hsent, hf⟩
    · have htunnel : IsTunnelled host.peerManager m := ⟨hwrite, hpeer⟩
      rw [writesAfter, if_pos htunnel]
      cases h.admits m host with
      | other hother _ => exact absurd htunnel hother
      | refused _ hrefused _ hadds =>
        refine ⟨_, hadds, ?_⟩
        rw [if_neg fun hpassed => hrefused (hpassed.2 htunnel)]
        exact wanWrites_eq_nil (by simp)
      | @served _ before after w inWindow accepted _ hserved _ hfwd =>
        have hw : IsRelayed m w := by
          refine ⟨hfwd.readdressed.2.1, fun i hge hi => ?_⟩
          rw [hfwd.readdressed.2.2 i hge]
          exact (isRelayed_setSrcAddr _ m).2 i hge hi
        have hwWrite : w.isRoceWrite :=
          hfwd.readdressed.headers.2.mpr ((setSrcAddr_headers _ m).2.mpr hwrite)
        have hbefore : wanWrites before = [] := by
          apply wanWrites_eq_nil
          intro f accepted hf
          rcases hfwd.own.of_mem hf with hcnp | hack | harp
          · exact absurd hcnp.1 (by decide)
          · exact absurd hack.1 (by decide)
          · exact harp.not_isRoceWrite
        have hafter : wanWrites after = [] :=
          wanWrites_eq_nil fun f accepted hf => absurd (hfwd.cnps.of_mem hf).1 (by decide)
        refine ⟨_, hfwd.adds, ?_⟩
        rw [if_pos ⟨hwrite, fun _ => hserved⟩, wanWrites_append, wanWrites_append, hbefore, hafter,
          wanWrites_forwardEvents hwWrite]
        exact ⟨w, rfl, hw⟩
  · obtain ⟨ev, hadds, hframes⟩ := lan_frames proc m host
    refine ⟨ev, hadds, ?_⟩
    rw [if_neg fun hpassed => hwrite hpassed.1]
    apply wanWrites_eq_nil
    intro f accepted hf
    cases hframes _ _ _ hf with
    | arp harp => exact harp.not_isRoceWrite
    | passed _ _ hm => exact fun hf => hwrite (hm.headers.2.mp hf)
    | forwarded hwrite' _ _ => exact absurd hwrite' hwrite

/-! ## Runs -/

/-- The WRITEs that LAN core `i` received and passes on. -/
def passedOn (pm : PeerManager) (i : Fin L) (calls : List (CoreCall L W)) : List Mbuf :=
  (lanPackets i calls).filter fun m => IsPassedOn pm (tunnelled pm i calls) m

/-- The WRITEs that one call passes to the WAN port, if it is one of LAN core `i`. -/
def Cores.writesOf (g : Cores L W) (i : Fin L) : CoreCall L W → List Mbuf
  | .lanRx i' m => if i' = i then wanWrites (g.events (.lanRx i' m)) else []
  | _ => []

/-- The WRITEs that LAN core `i` passes to the WAN port in the course of a run. -/
def sentWrites (i : Fin L) (g : Cores L W) (calls : List (CoreCall L W)) : List Mbuf :=
  outputs Cores.step (fun g c => g.writesOf i c) g calls

/-- Whether a queue pair that sent a WRITE is served does not change with what comes later. -/
theorem served_concat_self (pm : PeerManager) {i : Fin L} {calls : List (CoreCall L W)}
    {m' : Mbuf} (hm' : m' ∈ lanPackets i calls) (htunnel : IsTunnelled pm m') (m : Mbuf) :
    m'.bthGetQpn ∈ servedQps (tunnelled pm i (calls ++ [.lanRx i m])) ↔
      m'.bthGetQpn ∈ servedQps (tunnelled pm i calls) := by
  rw [tunnelled_concat_self, writesAfter]
  split
  · rw [servedQps_concat]
    exact mem_firstKeys_concat (List.mem_map_of_mem
      (List.mem_filter.mpr ⟨hm', decide_eq_true htunnel⟩))
  · exact Iff.rfl

/-- One more packet for a selection that keeps its mind about the others. -/
theorem lanPackets_filter_concat_self {i : Fin L} {calls : List (CoreCall L W)} {p q : Mbuf → Prop}
    [DecidablePred p] [DecidablePred q] (hkeep : ∀ m' ∈ lanPackets i calls, (q m' ↔ p m'))
    (m : Mbuf) :
    (lanPackets i (calls ++ [.lanRx i m])).filter (fun m' => q m') =
      (lanPackets i calls).filter (fun m' => p m') ++ if q m then [m] else [] := by
  have hfilter : (lanPackets i calls).filter (fun m' => decide (q m')) =
      (lanPackets i calls).filter (fun m' => decide (p m')) :=
    List.filter_congr fun m' hm' => decide_eq_decide.mpr (hkeep m' hm')
  rw [lanPackets_append, List.filter_append, hfilter, lanPackets_self]
  by_cases hm : q m
  · simp [hm]
  · simp [hm]

theorem passedOn_concat_self (pm : PeerManager) (i : Fin L) (calls : List (CoreCall L W))
    (m : Mbuf) :
    passedOn pm i (calls ++ [.lanRx i m]) = passedOn pm i calls ++
      if IsPassedOn pm (writesAfter pm (tunnelled pm i calls) m) m then [m] else [] := by
  have hkeep : ∀ m' ∈ lanPackets i calls,
      (IsPassedOn pm (tunnelled pm i (calls ++ [.lanRx i m])) m' ↔
        IsPassedOn pm (tunnelled pm i calls) m') := fun m' hm' =>
    and_congr_right fun _ => imp_congr_right fun htunnel => served_concat_self pm hm' htunnel m
  rw [passedOn, lanPackets_filter_concat_self hkeep, ← passedOn, tunnelled_concat_self]

theorem passedOn_concat_of_elsewhere (pm : PeerManager) {i : Fin L}
    (calls : List (CoreCall L W)) {c : CoreCall L W} (h : c.IsElsewhere i) :
    passedOn pm i (calls ++ [c]) = passedOn pm i calls := by
  rw [passedOn, lanPackets_concat_of_elsewhere calls h, tunnelled_concat_of_elsewhere pm calls h]
  rfl

/-- The call is made on a WAN core. -/
def CoreCall.OnWanCore : CoreCall L W → Prop
  | .lanRx _ _ => False
  | _ => True

/-- A WAN core passes no WRITE to the WAN port. -/
theorem wanCore_sends_no_write {g : Cores L W} (hwindows : WanWindowsEmpty g) {c : CoreCall L W}
    (hc : c.OnWanCore) : wanWrites (g.events c) = [] := by
  cases c with
  | lanRx i m => exact hc.elim
  | wanRx j m =>
    obtain ⟨ev, hadds, hframes⟩ := wan_frames (hwindows j) m g.host
    rw [Cores.events_of_adds (c := .wanRx j m) hadds]
    apply wanWrites_eq_nil
    intro f accepted hf
    cases hframes _ _ _ hf with
    | feedback _ hctrl =>
      obtain ⟨psn, hmsg⟩ := hctrl
      exact fun hwrite => IsCtrlMsg.not_isRoce hmsg ⟨hwrite.1, hwrite.2.1, hwrite.2.2.1⟩
  | timer j => rw [timer_events hwindows, wanWrites_eq_nil fun _ _ hf => absurd hf List.not_mem_nil]

theorem sent_relayed (host : Host) (calls : List (CoreCall L W)) (i : Fin L) :
    List.Forall₂ IsRelayed (passedOn host.peerManager i calls)
      (sentWrites i (Cores.init L W host) calls) := by
  induction calls using List.reverseRecOn with
  | nil => exact .nil
  | append_singleton calls c ih =>
    rw [sentWrites, outputs_concat]
    have hserves := servesQps_run host calls i
    have hpeers := (init_config host calls).1
    generalize run Cores.step (Cores.init L W host) calls = g at hserves hpeers
    rcases c.lanRx_or_elsewhere i with ⟨m, rfl⟩ | helse
    · obtain ⟨ev, hadds, hsent⟩ := lan_sends_write hserves m g.host
      rw [hpeers] at hsent
      have hev : g.writesOf i (.lanRx i m) = wanWrites ev := by
        rw [Cores.writesOf, if_pos rfl, Cores.events_of_adds (c := .lanRx i m) hadds]
      rw [passedOn_concat_self, hev]
      split at hsent
      · rename_i hpassed
        obtain ⟨f, hf, hrelayed⟩ := hsent
        rw [if_pos hpassed, hf]
        exact List.rel_append ih (.cons hrelayed .nil)
      · rename_i hpassed
        rw [if_neg hpassed, hsent, List.append_nil, List.append_nil]
        exact ih
    · have hnone : g.writesOf i c = [] := by
        cases c with
        | lanRx i' m => exact if_neg helse
        | wanRx j m => rfl
        | timer j => rfl
      rw [passedOn_concat_of_elsewhere _ _ helse, hnone, List.append_nil]
      exact ih

/-- Over every run of the gateway, each LAN core passes every WRITE it receives to the WAN port
exactly once and in the order of arrival, less those whose queue pair is not among the first
1024 it saw: nothing is lost between the ports and nothing is ever retransmitted.  No call
of a WAN core passes a WRITE to the WAN port. -/
theorem writes_leave_once (host : Host) (calls : List (CoreCall L W)) (i : Fin L) :
    List.Forall₂ IsRelayed (passedOn host.peerManager i calls)
        (sentWrites i (Cores.init L W host) calls) ∧
      ∀ c, CoreCall.OnWanCore c →
        wanWrites ((run Cores.step (Cores.init L W host) calls).events c) = [] :=
  ⟨sent_relayed host calls i, fun _ hc => wanCore_sends_no_write (wan_windows_empty host calls) hc⟩

end RdmaGateway.Gateway
