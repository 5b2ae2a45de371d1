/-
  Processor/Statistics.lean --- what one packet adds to the statistics of its core.

  Every branch of the two receive functions ends in `stat_inc` of some counters.  `lanTally`
  and `wanTally` say which, from the packet and from what happened on the ports in the call.
  A forged acknowledgement is counted whether or not it was sent; CNPs, NACKs and ARQ
  acknowledgements are counted when the port took them; a segment that the LAN port refuses
  is not counted at all.  A tally is a number; the counters are the words of 64 bits that
  `counterWords` makes of it.
-/
import Mathlib.Algebra.Group.Pi.Lemmas
import Mathlib.Data.BitVec
import Mathlib.Data.Nat.Cast.Basic
import RdmaGateway.Processor.Notifications
import RdmaGateway.Processor.Admission
import RdmaGateway.Processor.Reassembler

set_option autoImplicit false

namespace RdmaGateway.Processor

open RdmaGateway.Foundation
open RdmaGateway.Dpdk
open RdmaGateway.Wire
open RdmaGateway.Roce
open RdmaGateway.Tunnel
open RdmaGateway.Arq
open RdmaGateway.Reassembly

/-- How often each counter was incremented. -/
abbrev Tally : Type := StatCounter → Nat

/-- The counters that stand at zero and are then incremented so often. -/
def counterWords : Tally →+ GatewayStats :=
  (Nat.castAddMonoidHom (BitVec 64)).compLeft StatCounter

theorem counterWords_toNat (t : Tally) (c : StatCounter) :
    (counterWords t c).toNat = t c % 2 ^ 64 := by
  simp [counterWords]

/-- `stat_inc` adds one to one counter. -/
theorem statInc_eq (stats : GatewayStats) (c : StatCounter) :
    statInc stats c = stats + counterWords (Pi.single c 1) := by
  funext c'
  by_cases h : c' = c
  · subst h
    simp [statInc, counterWords]
  · simp [statInc, counterWords, h]

theorem count_stats (proc : ProcessorContext) (c : StatCounter) :
    (proc.count c).stats = proc.stats + counterWords (Pi.single c 1) := statInc_eq _ c

theorem single_add (c : StatCounter) (a b : Nat) :
    (Pi.single c a + Pi.single c b : Tally) = Pi.single c (a + b) := by
  funext c'
  by_cases h : c' = c
  · subst h
    simp
  · simp [h]

/-! ## CNPs -/

theorem cnpEmit_stats (proc : ProcessorContext) (i : Fin maxQpCtx) (now : Nat) (host : Host) :
    (cnpEmit proc i now host).1.stats =
      proc.stats + counterWords (Pi.single .cnpSent (cnpEmitLog proc i now host).length) := by
  have hlog : ∀ {r : ProcessorContext × Host} {ev : List (Event Mbuf)}, Adds host r.2 ev →
      ((lanAccepted (newEvents (proc, host) r)).map fun f => (⟨f, now⟩ : CnpTx)).length =
        (lanAccepted ev).length := by
    intro r ev hadds
    rw [newEvents_of_adds hadds, List.length_map]
  unfold cnpEmitLog cnpEmit
  dsimp only
  split
  · rw [hlog (.refl host)]
    simp
  split
  · rw [hlog (.refl host)]
    simp
  unfold ccBuildCnp
  rcases allocAppend_cases (fun _ _ => False) host 74 with
    ⟨host', ev, heq, hadds, hown⟩ | ⟨b, f, host', heq, hadds, -, -⟩
  · rw [heq]
    dsimp only
    rw [hlog hadds, lanAccepted_of_silent hown]
    simp
  · rw [heq]
    dsimp only
    generalize hcnp : Mbuf.withData { f with data := _, dataLen := 74 } _ = cnp
    have hsent := hadds.trans (txOrFree_adds host' .lan cnp)
    rw [txOrFree_fst]
    cases hacc : Host.accepts host' .lan with
    | true =>
      rw [hacc] at hsent
      rw [if_pos rfl]
      dsimp only
      rw [hlog hsent, lanAccepted_append, (txEvents_lan cnp true).2.1, count_stats]
      rfl
    | false =>
      rw [hacc] at hsent
      rw [if_neg (by decide)]
      dsimp only
      rw [hlog hsent, lanAccepted_append, (txEvents_lan cnp false).2.1]
      simp [lanAccepted]

theorem sweep_stats (now : Nat) (is : List (Fin maxQpCtx)) (s : ProcessorContext × Host) :
    (is.foldl (fun (s : ProcessorContext × Host) i =>
        if (s.1.qpMgr.qps i).active then cnpEmit s.1 i now s.2 else s) s).1.stats =
      s.1.stats + counterWords (Pi.single .cnpSent (sweepLog now is s).length) := by
  induction is generalizing s with
  | nil => simp [sweepLog]
  | cons i is ih =>
    rw [List.foldl_cons, sweepLog, ih]
    split
    · rw [cnpEmit_stats, List.length_append, add_assoc, ← map_add, single_add]
    · rfl

theorem checkCongestion_stats (proc : ProcessorContext) (host : Host) :
    (checkCongestion proc host).1.stats =
      proc.stats + counterWords (Pi.single .cnpSent (checkLog proc host).length) := by
  rw [checkCongestion_eq, checkLog]
  split
  · simp [checked]
  · exact sweep_stats _ _ (checked proc, _)

theorem lanNotify_stats (proc : ProcessorContext) (i : Fin maxQpCtx) (m : Mbuf) (host : Host) :
    (lanNotify proc i m host).1.stats =
      proc.stats + counterWords (Pi.single .cnpSent (notifyLog proc i m host).length) := by
  rw [lanNotify_eq, notifyLog]
  split
  · exact cnpEmit_stats _ _ _ _
  · simp [refreshed]

theorem lanCount_stats (proc : ProcessorContext) (host : Host) :
    (lanCount proc host).1.stats =
      proc.stats + counterWords (Pi.single .cnpSent
        (if ChecksAfter proc then checkLog (counted proc) host else []).length) := by
  rw [lanCount_eq]
  split
  · exact checkCongestion_stats (counted proc) host
  · simp [counted]

/-! ## WRITEs on the way to the WAN -/

/-- What the WAN port answered to the WRITEs that were passed to it, in order. -/
def writeAnswers (trace : List (Event Mbuf)) : List Bool :=
  trace.filterMap fun
    | .txBurst .wan f accepted => if f.isRoceWrite then some accepted else none
    | _ => none

theorem writeAnswers_append (ev ev' : List (Event Mbuf)) :
    writeAnswers (ev ++ ev') = writeAnswers ev ++ writeAnswers ev' :=
  List.filterMap_append

theorem writeAnswers_eq_nil {ev : List (Event Mbuf)}
    (h : ∀ f accepted, .txBurst .wan f accepted ∈ ev → ¬ f.isRoceWrite) : writeAnswers ev = [] := by
  apply List.filterMap_eq_nil_iff.mpr
  intro e he
  split
  · exact if_neg (h _ _ he)
  · rfl

theorem writeAnswers_forwardEvents {f : Mbuf} (h : f.isRoceWrite) (inWindow : Int)
    (accepted : Bool) : writeAnswers (forwardEvents f inWindow accepted) = [accepted] := by
  unfold forwardEvents
  split
  · cases accepted <;> simp [keepEvents, writeAnswers, h]
  · cases accepted <;> simp [txEvents, writeAnswers, h]

theorem lanTransmit_stats (proc : ProcessorContext) (w : Mbuf) (inWindow : Int) (host : Host) :
    ∃ accepted, Adds host (lanTransmit proc w inWindow host).2
        (forwardEvents w inWindow accepted) ∧
      (lanTransmit proc w inWindow host).1.stats =
        proc.stats + counterWords (Pi.single .pktsDropped (if accepted then 0 else 1)) := by
  unfold lanTransmit forwardEvents
  by_cases hin : inWindow = 0
  · simp only [if_pos hin]
    refine ⟨(txKeeping w host.io).1, adds_withIo (txKeeping_trace w host.io).1
      (txKeeping_trace w host.io).2, ?_⟩
    cases (txKeeping w host.io).1 with
    | true => simp
    | false => exact count_stats proc .pktsDropped
  · simp only [if_neg hin]
    refine ⟨Host.accepts host .wan, txOrFree_adds host .wan w, ?_⟩
    rw [txOrFree_fst]
    cases Host.accepts host .wan with
    | true => simp
    | false => exact count_stats proc .pktsDropped

/-- Acknowledging, tracking and transmitting a WRITE. -/
theorem lanSend_stats (proc : ProcessorContext) {m : Mbuf} (hwrite : m.isRoceWrite) (peerIp : Nat)
    (host : Host) :
    ∃ ev accepted, Adds host (lanSend proc m peerIp host).2 ev ∧ writeAnswers ev = [accepted] ∧
      (lanSend proc m peerIp host).1.stats =
        proc.stats + counterWords (Pi.single .writePktsProcessed 1 + Pi.single .pktsLanToWan 1 +
          Pi.single .ackSpoofedSent 1 + Pi.single .pktsDropped (if accepted then 0 else 1)) := by
  obtain ⟨evAck, hadds₁, hown₁⟩ := forgeAndSendAck_emits host m
  have hack : writeAnswers evAck = [] :=
    writeAnswers_eq_nil fun f accepted hf => absurd (hown₁.of_mem hf).1 (by decide)
  unfold lanSend
  dsimp only
  generalize (forgeAndSendAck host m).2 = host₁ at hadds₁ ⊢
  obtain ⟨hm, evArp, hadds₂, hown₂⟩ := wanSetMacs_emits host₁ (setSrcAddr host₁.wanTunnelSrcIp m)
  have harp : writeAnswers evArp = [] :=
    writeAnswers_eq_nil fun f accepted hf => (hown₂.of_mem hf).not_isRoceWrite
  rw [wanFwdRoce]
  generalize wanSetMacs host₁ (setSrcAddr host₁.wanTunnelSrcIp m) .wan = fwd at hm hadds₂ ⊢
  have hfwd : fwd.1.isRoceWrite :=
    hm.headers.2.mpr ((setSrcAddr_headers host₁.wanTunnelSrcIp m).2.mpr hwrite)
  obtain ⟨hadds₃, mgr, hproc, -⟩ := lanTrack_tracks
    (((proc.count .writePktsProcessed).count .pktsLanToWan).count .ackSpoofedSent) fwd.1
    m.bthGetQpn m.bthGetPsn (getSegmentType m.bthOpcode) peerIp fwd.2
  generalize lanTrack _ fwd.1 m.bthGetQpn m.bthGetPsn (getSegmentType m.bthOpcode) peerIp fwd.2 =
    track at hadds₃ hproc ⊢
  obtain ⟨accepted, hadds₄, hstats⟩ := lanTransmit_stats track.2.1 fwd.1 track.1 track.2.2
  refine ⟨_, accepted, (hadds₁.trans hadds₂).trans (hadds₃.trans hadds₄), ?_, ?_⟩
  · rw [writeAnswers_append, writeAnswers_append, hack, harp, List.nil_append, List.nil_append,
      List.nil_append, writeAnswers_forwardEvents hfwd]
  · rw [hstats, hproc, count_stats, count_stats, count_stats]
    simp only [map_add, add_assoc]

/-! ## A packet from the LAN -/

/-- What a packet from the LAN adds to the statistics, with the events of its call. -/
def lanTally (pm : PeerManager) (m : Mbuf) (ev : List (Event Mbuf)) : Tally
  | .writePktsProcessed | .pktsLanToWan | .ackSpoofedSent =>
    if IsTunnelled pm m then (writeAnswers ev).length else 0
  | .pktsPassthrough => if m.etherType = rteEtherTypeIpv4 ∧ ¬ IsTunnelled pm m then 1 else 0
  | .pktsDropped =>
    if m.etherType ≠ rteEtherTypeIpv4 ∨ IsTunnelled pm m ∧ true ∉ writeAnswers ev then 1 else 0
  | .cnpSent => (lanCnps ev).length
  | _ => 0

/-- From the one state to the other CNPs were sent and counted, and nothing else. -/
def CountsCnps (s s' : ProcessorContext × Host) : Prop :=
  ∃ ev, Adds s.2 s'.2 ev ∧ writeAnswers ev = [] ∧
    s'.1.stats = s.1.stats + counterWords (Pi.single .cnpSent (lanCnps ev).length)

theorem Adds.events_eq {a b : Host} {ev ev' : List (Event Mbuf)} (h : Adds a b ev)
    (h' : Adds a b ev') : ev = ev' :=
  List.append_cancel_left (h.trace.symm.trans h'.trace)

theorem countsCnps_of_log {s s' : ProcessorContext × Host} {srcIp : Nat} {log : List CnpTx}
    (hemits : ∃ ev, Adds s.2 s'.2 ev ∧ OwnTraffic (IsCnp srcIp) ev)
    (hsent : Transmits s.2 s'.2 log)
    (hstats : s'.1.stats = s.1.stats + counterWords (Pi.single .cnpSent log.length)) :
    CountsCnps s s' := by
  obtain ⟨ev, hadds, hown⟩ := hemits
  obtain ⟨ev', hadds', hlog⟩ := hsent
  obtain rfl := hadds'.events_eq hadds
  refine ⟨_, hadds', writeAnswers_eq_nil fun f accepted hf => ?_, ?_⟩
  · exact absurd (hown.of_mem hf).1 (by decide)
  · rw [hstats, hlog, List.length_map]

theorem lanNotify_counts (proc : ProcessorContext) (i : Fin maxQpCtx) (m : Mbuf) (host : Host) :
    CountsCnps (proc, host) (lanNotify proc i m host) :=
  countsCnps_of_log (lanNotify_emits proc i m host).2 (lanNotify_transmits proc i m host)
    (lanNotify_stats proc i m host)

theorem lanCount_counts (proc : ProcessorContext) (host : Host) :
    CountsCnps (proc, host) (lanCount proc host) := by
  refine countsCnps_of_log (lanCount_emits proc host).2 ?_ (lanCount_stats proc host)
  rw [lanCount_eq]
  split
  · exact checkCongestion_transmits (counted proc) host
  · exact transmits_of_adds (.refl host)

/-- A WRITE for a known peer. -/
theorem lanWrite_tally (proc : ProcessorContext) {m : Mbuf} {host : Host}
    (hwrite : IsTunnelled host.peerManager m) :
    ∃ ev, Adds host (lanWrite proc m (wanGetPeerIp host (bswap32 m.ipDstAddr)) host).2 ev ∧
      (writeAnswers ev).length ≤ 1 ∧
      (lanWrite proc m (wanGetPeerIp host (bswap32 m.ipDstAddr)) host).1.stats =
        proc.stats + counterWords (lanTally host.peerManager m ev) := by
  rw [lanWrite]
  rcases qpGetOrCreate proc.qpMgr m.bthGetQpn with ⟨_ | i, qpMgr⟩
  · refine ⟨[.free m], free_adds host m, Nat.zero_le 1, ?_⟩
    dsimp only
    rw [count_stats]
    congr 2
    funext c
    cases c <;> simp [lanTally, hwrite, writeAnswers, lanCnps, lanAccepted]
  · dsimp only
    obtain ⟨ev₁, hadds₁, hans₁, hstats₁⟩ := lanNotify_counts { proc with qpMgr := qpMgr } i m host
    generalize lanNotify { proc with qpMgr := qpMgr } i m host = notified at hadds₁ hstats₁ ⊢
    obtain ⟨ev₂, accepted, hadds₂, hans₂, hstats₂⟩ := lanSend_stats notified.1 hwrite.1
      (wanGetPeerIp host (bswap32 m.ipDstAddr)) notified.2
    obtain ⟨ev₂', hadds₂', hcnps₂⟩ := lanSend_transmits notified.1 m
      (wanGetPeerIp host (bswap32 m.ipDstAddr)) notified.2
    obtain rfl := hadds₂'.events_eq hadds₂
    rw [lanForward_eq]
    generalize lanSend notified.1 m (wanGetPeerIp host (bswap32 m.ipDstAddr)) notified.2 = sent
      at hadds₂ hstats₂ ⊢
    obtain ⟨ev₃, hadds₃, hans₃, hstats₃⟩ := lanCount_counts sent.1 sent.2
    refine ⟨_, (hadds₁.trans hadds₂).trans hadds₃, ?_⟩
    have hans : writeAnswers (ev₁ ++ ev₂' ++ ev₃) = [accepted] := by
      rw [writeAnswers_append, writeAnswers_append, hans₁, hans₂, hans₃]
      rfl
    have hcnps : lanCnps (ev₁ ++ ev₂' ++ ev₃) = lanCnps ev₁ ++ lanCnps ev₃ := by
      rw [lanCnps_append, lanCnps_append, hcnps₂, List.map_nil, List.append_nil]
    rw [hstats₃, hstats₂, hstats₁, add_assoc, add_assoc, ← map_add, ← map_add]
    generalize ev₁ ++ ev₂' ++ ev₃ = ev at hans hcnps
    refine ⟨by rw [hans]; exact le_rfl, ?_⟩
    congr 2
    funext c
    cases c <;> cases accepted <;> simp [lanTally, hwrite, hwrite.1.1, hans, hcnps]

/-- Any other IPv4 packet. -/
theorem lanPassthrough_tally (proc : ProcessorContext) {m : Mbuf} {host : Host}
    (htype : m.etherType = rteEtherTypeIpv4) (hno : ¬ IsTunnelled host.peerManager m) :
    ∃ ev, Adds host (lanPassthrough proc m host).2 ev ∧
      (lanPassthrough proc m host).1.stats = proc.stats + counterWords (lanTally host.peerManager m ev) := by
  obtain ⟨-, evArp, hadds, hown⟩ := wanSetMacs_emits host m
  refine ⟨_, hadds.trans (txOrFree_adds _ .wan _), ?_⟩
  rw [lanPassthrough, count_stats]
  congr 2
  have hcnps : ∀ f accepted, lanCnps (evArp ++ txEvents .wan f accepted) = [] := by
    intro f accepted
    rw [lanCnps_append, lanCnps_of_arp hown]
    cases accepted <;> rfl
  funext c
  cases c <;> simp [lanTally, htype, hno, hcnps]

/-- One packet from the LAN. -/
theorem lan_tally (proc : ProcessorContext) (m : Mbuf) (host : Host) :
    ∃ ev, Adds host (procProcessLanRx proc m host).2 ev ∧
      (IsTunnelled host.peerManager m → (writeAnswers ev).length ≤ 1) ∧
      (procProcessLanRx proc m host).1.stats =
        proc.stats + counterWords (lanTally host.peerManager m ev) := by
  rcases lan_path proc m host with ⟨htype, heq⟩ | ⟨htype, hno, heq⟩ | ⟨hwrite, heq⟩
  · rw [heq]
    have hno : ¬ IsTunnelled host.peerManager m := fun h => htype h.1.1
    refine ⟨[.free m], free_adds host m, fun h => absurd h hno, ?_⟩
    rw [count_stats]
    congr 2
    funext c
    cases c <;> simp [lanTally, htype, hno, lanCnps, lanAccepted]
  · rw [heq]
    obtain ⟨ev, hadds, hstats⟩ := lanPassthrough_tally proc htype hno
    exact ⟨ev, hadds, fun h => absurd h hno, hstats⟩
  · rw [heq]
    obtain ⟨ev, hadds, hone, hstats⟩ := lanWrite_tally proc hwrite
    exact ⟨ev, hadds, fun _ => hone, hstats⟩

/-- A packet is sent to the WAN, passed on or dropped, and a WRITE that the WAN port refuses is
counted as sent and as dropped. -/
theorem lanTally_covers (pm : PeerManager) (m : Mbuf) {ev : List (Event Mbuf)}
    (hone : IsTunnelled pm m → (writeAnswers ev).length ≤ 1) :
    lanTally pm m ev .pktsLanToWan + lanTally pm m ev .pktsPassthrough +
        lanTally pm m ev .pktsDropped =
      1 + if IsTunnelled pm m then (writeAnswers ev).count false else 0 := by
  by_cases hwrite : IsTunnelled pm m
  · have htype : m.etherType = rteEtherTypeIpv4 := hwrite.1.1
    have hlen := hone hwrite
    simp only [lanTally, hwrite, htype, if_true]
    generalize writeAnswers ev = answers at hlen ⊢
    cases answers with
    | nil => rfl
    | cons a rest =>
      obtain rfl : rest = [] := List.length_eq_zero_iff.mp (by simpa using hlen)
      cases a <;> simp
  · by_cases htype : m.etherType = rteEtherTypeIpv4
    · simp [lanTally, hwrite, htype]
    · simp [lanTally, hwrite, htype]

/-! ## Control messages -/

/-- The control messages of a type that the WAN port took, in order. -/
def wanCtrls (type : Nat) (trace : List (Event Mbuf)) : List ArqControlMsg :=
  trace.filterMap fun
    | .txBurst .wan f true => (ctrlMsgOf f).filter fun msg => msg.type == type
    | _ => none

theorem wanCtrls_append (type : Nat) (ev ev' : List (Event Mbuf)) :
    wanCtrls type (ev ++ ev') = wanCtrls type ev ++ wanCtrls type ev' :=
  List.filterMap_append

theorem wanCtrls_eq_nil {type : Nat} {ev : List (Event Mbuf)}
    (h : ∀ f msg, .txBurst .wan f true ∈ ev → ctrlMsgOf f = some msg → msg.type ≠ type) :
    wanCtrls type ev = [] := by
  apply List.filterMap_eq_nil_iff.mpr
  intro e he
  split
  · rename_i f
    apply Option.filter_eq_none_iff.mpr
    intro msg hmsg
    simpa using h f msg he hmsg
  · rfl

/-- One transmission of a message. -/
theorem wanCtrls_txEvents {type : Nat} {f : Mbuf} {msg : ArqControlMsg} (h : ctrlMsgOf f = some msg)
    (htype : msg.type = type) (accepted : Bool) :
    wanCtrls type (txEvents .wan f accepted) = if accepted then [msg] else [] := by
  have hkept : (ctrlMsgOf f).filter (fun msg => msg.type == type) = some msg := by
    rw [h]
    simp [Option.filter, htype]
  cases accepted with
  | true => exact List.filterMap_cons_some hkept
  | false => rfl

/-- Messages of the one type are none of the other. -/
theorem wanCtrls_of_other {type type' : Nat} {host : Host} {m : Mbuf} {ev : List (Event Mbuf)}
    (h : OwnTraffic (IsCtrlFor host m type) ev) (hne : type % 256 ≠ type') :
    wanCtrls type' ev = [] := by
  apply wanCtrls_eq_nil
  intro f msg hf hmsg
  obtain ⟨psn, hctrl⟩ := h.of_mem hf
  rw [hctrl.ctrlMsgOf] at hmsg
  cases hmsg
  exact hne

/-- A control message is counted when the port took it. -/
theorem wanSendCtrl_stats (proc : ProcessorContext) (qpn : Nat) {type : Nat} (htype : type < 256)
    (psn : Nat) (m : Mbuf) (counter : StatCounter) (host : Host) :
    ∃ ev, Adds host (wanSendCtrl proc qpn type psn m counter host).2 ev ∧
      (wanSendCtrl proc qpn type psn m counter host).1.stats =
        proc.stats + counterWords (Pi.single counter (wanCtrls type ev).length) := by
  unfold wanSendCtrl arqBuildCtrlMsg
  dsimp only
  rcases allocAppend_cases (fun _ _ => False) host 318 with
    ⟨host', ev, heq, hadds, hown⟩ | ⟨b, f, host', heq, hadds, -, -⟩
  · rw [heq]
    refine ⟨ev, hadds, ?_⟩
    rw [wanCtrls_eq_nil fun f msg hf _ => (hown.of_mem hf).elim]
    simp
  · rw [heq]
    dsimp only
    generalize hmsg : ({ f with data := _, dataLen := 318 } : Mbuf) = msg
    have hctrl : ctrlMsgOf msg =
        some ⟨arqMagic, type, qpn % 4294967296, psn % 4294967296, 0, []⟩ := by
      have hbuilt : IsCtrlMsg host'.wanTunnelSrcIp (wanGetPeerIp host (bswap32 m.ipDstAddr)) qpn
          type psn .wan msg := ⟨rfl, f.data, _, by rw [← hmsg]⟩
      rw [hbuilt.ctrlMsgOf, Nat.mod_eq_of_lt htype]
    refine ⟨_, hadds.trans (txOrFree_adds host' .wan msg), ?_⟩
    rw [txOrFree_fst, wanCtrls_append, wanCtrls_txEvents hctrl rfl]
    cases Host.accepts host' .wan with
    | true => exact count_stats proc counter
    | false =>
      have hquiet : wanCtrls type [.alloc b] = [] := rfl
      simp [hquiet]

/-- From the one state to the other control messages were sent and counted, and nothing
else was counted. -/
def CountsCtrls (s s' : ProcessorContext × Host) : Prop :=
  ∃ ev, Adds s.2 s'.2 ev ∧
    s'.1.stats = s.1.stats + counterWords (Pi.single .nackSent (wanCtrls arqMsgNack ev).length +
      Pi.single .arqAckSent (wanCtrls arqMsgAck ev).length)

theorem countsCtrls_of_silent {s s' : ProcessorContext × Host} {ev : List (Event Mbuf)}
    (hadds : Adds s.2 s'.2 ev) (hsilent : ∀ f, .txBurst .wan f true ∉ ev)
    (hstats : s'.1.stats = s.1.stats) : CountsCtrls s s' := by
  have hnone : ∀ type, wanCtrls type ev = [] :=
    fun type => wanCtrls_eq_nil fun f msg hf _ => absurd hf (hsilent f)
  refine ⟨ev, hadds, ?_⟩
  rw [hnone, hnone, hstats]
  simp

theorem CountsCtrls.refl (s : ProcessorContext × Host) : CountsCtrls s s :=
  countsCtrls_of_silent (.refl s.2) (fun _ => List.not_mem_nil) rfl

theorem CountsCtrls.trans {a b c : ProcessorContext × Host} (hab : CountsCtrls a b)
    (hbc : CountsCtrls b c) : CountsCtrls a c := by
  obtain ⟨ev, hadds, hstats⟩ := hab
  obtain ⟨ev', hadds', hstats'⟩ := hbc
  refine ⟨ev ++ ev', hadds.trans hadds', ?_⟩
  rw [hstats', hstats, wanCtrls_append, wanCtrls_append, List.length_append, List.length_append,
    ← single_add, ← single_add, add_assoc, ← map_add, add_add_add_comm]

/-- Sending a NACK or an acknowledgement, each with its counter. -/
theorem wanSendCtrl_counts (proc : ProcessorContext) (psn : Nat) (m : Mbuf) (host : Host) :
    CountsCtrls (proc, host) (wanSendCtrl proc m.bthGetQpn arqMsgNack psn m .nackSent host) ∧
      CountsCtrls (proc, host) (wanSendCtrl proc m.bthGetQpn arqMsgAck psn m .arqAckSent host) := by
  have hother : ∀ (type type' : Nat) (counter : StatCounter) {ev : List (Event Mbuf)},
      type % 256 ≠ type' →
        Adds host (wanSendCtrl proc m.bthGetQpn type psn m counter host).2 ev →
          wanCtrls type' ev = [] := by
    intro type type' counter ev hne hadds
    obtain ⟨-, -, ev', hadds', hown⟩ := wanSendCtrl_emits proc m.bthGetQpn type psn m counter host
    obtain rfl := hadds'.events_eq hadds
    exact wanCtrls_of_other (hown.mono fun _ _ h => ⟨psn, h⟩ : OwnTraffic (IsCtrlFor host m type) _)
      hne
  constructor
  · obtain ⟨ev, hadds, hstats⟩ := wanSendCtrl_stats proc m.bthGetQpn (by decide : arqMsgNack < 256)
      psn m .nackSent host
    refine ⟨ev, hadds, ?_⟩
    rw [hstats, hother arqMsgNack arqMsgAck .nackSent (by decide) hadds]
    simp
  · obtain ⟨ev, hadds, hstats⟩ := wanSendCtrl_stats proc m.bthGetQpn (by decide : arqMsgAck < 256)
      psn m .arqAckSent host
    refine ⟨ev, hadds, ?_⟩
    rw [hstats, hother arqMsgAck arqMsgNack .arqAckSent (by decide) hadds]
    simp

theorem wanNack_counts (proc : ProcessorContext) (m : Mbuf) (host : Host) :
    CountsCtrls (proc, host) (wanNack proc m host) := by
  unfold wanNack
  dsimp only
  split
  · exact (wanSendCtrl_counts proc _ m host).1
  · exact .refl _

theorem wanDeliver_counts (proc : ProcessorContext) (m : Mbuf) (host : Host) :
    CountsCtrls (proc, host) (wanDeliver proc m host) := by
  unfold wanDeliver
  dsimp only
  split
  · generalize jbGetOrderedSegs proc.jitterBuffer m.bthGetQpn = segs
    split
    · obtain ⟨evHand, hadds₁, hhands⟩ := handOver_events segs.2 host
      generalize segs.2.foldl wanHandOver host = host₁ at hadds₁ ⊢
      have hremoved : Adds host₁
          { host₁ with io := (jbRemoveWrite proc.jitterBuffer m.bthGetQpn host₁.io).2 }
          ((heldOf proc.jitterBuffer m.bthGetQpn).map .free) := by
        refine adds_withIo ?_ (by simp)
        rw [jbRemoveWrite_trace, heldOf]
        cases proc.jitterBuffer.ctxOf m.bthGetQpn <;> rfl
      have hhanded : CountsCtrls (proc, host) (proc, host₁) :=
        countsCtrls_of_silent hadds₁ (fun f hf => by cases (hhands.of_mem hf).1) rfl
      refine hhanded.trans (.trans ?_ (wanSendCtrl_counts _ m.bthGetPsn m _).2)
      exact countsCtrls_of_silent hremoved (fun f hf => by simp at hf) rfl
    · exact .refl _
  · exact .refl _

/-! ## A packet from the WAN -/

/-- The frame is a control message of the type for QPN 0. -/
def isFeedback (type : Nat) (m : Mbuf) : Bool :=
  (ctrlMsgOf m).any fun msg => msg.qpn == 0 && msg.type == type

/-- What a packet from the WAN adds to the statistics, with the buffer that it finds and the
events of its call. -/
def wanTally (jb : JitterBuffer Mbuf) (m : Mbuf) (ev : List (Event Mbuf)) : Tally
  | .pktsWanToLan => if m.isRoceWrite then 1 else 0
  | .pktsDropped =>
    if m.isRoceWrite then if (takeSegment jb m).1 < 0 then 1 else 0
    else if IsForCtrlPort m then 0 else 1
  | .nackSent => (wanCtrls arqMsgNack ev).length
  | .arqAckSent => (wanCtrls arqMsgAck ev).length
  | .arqAckReceived => if isFeedback arqMsgAck m then 1 else 0
  | .arqNackReceived => if isFeedback arqMsgNack m then 1 else 0
  | _ => 0

theorem isFeedback_of_not_ctrl {m : Mbuf} (h : ¬ IsForCtrlPort m) (type : Nat) :
    isFeedback type m = false := by
  have hnone : ctrlMsgOf m = none := if_neg h
  rw [isFeedback, hnone]
  rfl

section Write

variable {proc : ProcessorContext} {m : Mbuf} {host : Host}

/-- A WRITE that the buffer does not refuse. -/
theorem wanWrite_tally_of_added (hwrite : m.isRoceWrite) {rc : Int} {jb : JitterBuffer Mbuf}
    {io : Io Mbuf} {evAdd : List (Event Mbuf)} (hadd : addSegOf proc host m = (rc, jb, io))
    (hnot : ¬ rc < 0) (hadds : Adds host { host with io := io } evAdd)
    (hsilent : ∀ f, .txBurst .wan f true ∉ evAdd) :
    ∃ ev, Adds host (wanWrite proc m host).2 ev ∧
      (wanWrite proc m host).1.stats = proc.stats + counterWords (wanTally proc.jitterBuffer m ev) := by
  have hfree : ∀ type, isFeedback type m = false :=
    isFeedback_of_not_ctrl (not_isForCtrlPort_of_write hwrite)
  have htaken : ¬ (takeSegment proc.jitterBuffer m).1 < 0 := by
    rw [← (addSegOf_eq_takeSegment proc host m).1, hadd]
    exact hnot
  have hstored : CountsCtrls (proc.count .pktsWanToLan, host)
      ({ proc.count .pktsWanToLan with jitterBuffer := jb }, { host with io := io }) :=
    countsCtrls_of_silent hadds hsilent rfl
  rw [wanWrite_of_added hadd hnot]
  have hcounts : CountsCtrls (proc.count .pktsWanToLan, host)
      (let s := if rc = 1
        then wanNack { proc.count .pktsWanToLan with jitterBuffer := jb } m { host with io := io }
        else ({ proc.count .pktsWanToLan with jitterBuffer := jb }, { host with io := io })
      wanDeliver s.1 m s.2) := by
    dsimp only
    split
    · exact (hstored.trans (wanNack_counts _ m _)).trans (wanDeliver_counts _ m _)
    · exact hstored.trans (wanDeliver_counts _ m _)
  obtain ⟨ev, hadds', hstats⟩ := hcounts
  refine ⟨ev, hadds', ?_⟩
  rw [hstats, count_stats, add_assoc, ← map_add]
  congr 2
  funext c
  cases c <;> simp [wanTally, hwrite, htaken, hfree]

/-- A WRITE. -/
theorem wanWrite_tally (proc : ProcessorContext) (hwrite : m.isRoceWrite) (host : Host) :
    ∃ ev, Adds host (wanWrite proc m host).2 ev ∧
      (wanWrite proc m host).1.stats = proc.stats + counterWords (wanTally proc.jitterBuffer m ev) := by
  cases jbAddSeg_outcome proc.jitterBuffer m.bthGetQpn m.bthGetPsn (getSegmentType m.bthOpcode) m
      host.io with
  | full _ _ hr =>
    have hrefused : wanWrite proc m host =
        ((proc.count .pktsWanToLan).count .pktsDropped, host.free m) := by
      simp only [wanWrite, count_jitterBuffer, hr]
      rfl
    have hneg : (takeSegment proc.jitterBuffer m).1 < 0 := by
      rw [← (addSegOf_eq_takeSegment proc host m).1, addSegOf, hr]
      exact Int.negSucc_lt_zero 0
    have hfree : ∀ type, isFeedback type m = false :=
      isFeedback_of_not_ctrl (not_isForCtrlPort_of_write hwrite)
    rw [hrefused, count_stats, count_stats, add_assoc, ← map_add]
    refine ⟨[.free m], free_adds host m, ?_⟩
    congr 2
    funext c
    cases c <;> simp [wanTally, hwrite, hneg, hfree, wanCtrls]
  | duplicate _ _ hr =>
    exact wanWrite_tally_of_added hwrite hr (by decide) (free_adds host m) (by simp)
  | stored _ _ _ hr =>
    exact wanWrite_tally_of_added hwrite hr (by decide) (.refl host) (by simp)
  | opened _ _ hr =>
    exact wanWrite_tally_of_added hwrite hr (by decide) (.refl host) (by simp)

end Write

/-- A core that never used a window finds one for QPN 0 and for no other. -/
theorem arqLookup_init (qpn : Nat) :
    arqLookup (arqMgrInit : ArqManager Mbuf) qpn = if qpn = 0 then some 0 else none := by
  rw [arqLookup, arqFind]
  split
  · rename_i hzero
    rw [hzero]
    exact Table.findSlot_zero rfl
  · rename_i hne
    apply Table.findSlot_eq_none.mpr
    intro i
    have hkey : ((arqMgrInit : ArqManager Mbuf).contexts i).qpn = 0 := rfl
    rw [hkey]
    exact beq_eq_false_iff_ne.mpr fun h => hne h.symm

/-- Feedback counts when it is for QPN 0. -/
theorem wanFeedback_stats {proc : ProcessorContext} (harq : proc.arqMgr = arqMgrInit)
    (msg : ArqControlMsg) (host : Host) :
    (wanFeedback proc msg host).1.stats = proc.stats + counterWords
      (Pi.single .arqAckReceived (if msg.qpn = 0 ∧ msg.type = arqMsgAck then 1 else 0) +
      Pi.single .arqNackReceived (if msg.qpn = 0 ∧ msg.type = arqMsgNack then 1 else 0)) := by
  rw [wanFeedback, harq, arqLookup_init]
  by_cases hzero : msg.qpn = 0
  · rw [if_pos hzero]
    dsimp only
    by_cases hack : msg.type = arqMsgAck
    · have hnack : ¬ (msg.qpn = 0 ∧ msg.type = arqMsgNack) := by
        rw [hack]
        exact fun h => absurd h.2 (by decide)
      rw [if_pos hack, count_stats, if_pos ⟨hzero, hack⟩, if_neg hnack]
      simp
    · have hno : ¬ (msg.qpn = 0 ∧ msg.type = arqMsgAck) := fun h => hack h.2
      rw [if_neg hack, if_neg hno]
      by_cases hnack : msg.type = arqMsgNack
      · rw [if_pos hnack, count_stats, if_pos ⟨hzero, hnack⟩]
        simp
      · have hno' : ¬ (msg.qpn = 0 ∧ msg.type = arqMsgNack) := fun h => hnack h.2
        rw [if_neg hnack, if_neg hno']
        simp
  · rw [if_neg hzero, if_neg fun h => hzero h.1, if_neg fun h => hzero h.1]
    simp

/-- One packet from the WAN, on a core that never used a window. -/
theorem wan_tally {proc : ProcessorContext} (harq : proc.arqMgr = arqMgrInit) (m : Mbuf)
    (host : Host) :
    ∃ ev, Adds host (procProcessWanRx proc m host).2 ev ∧
      (procProcessWanRx proc m host).1.stats =
        proc.stats + counterWords (wanTally proc.jitterBuffer m ev) := by
  have hquiet : ∀ type, wanCtrls type [.free m] = [] := fun type => rfl
  rcases wan_path proc m host with ⟨hwrite, hno, heq⟩ | ⟨hctrl, heq⟩ | ⟨hwrite, heq⟩
  · rw [heq]
    refine ⟨[.free m], free_adds host m, ?_⟩
    rw [count_stats]
    congr 2
    funext c
    cases c <;> simp [wanTally, hwrite, hno, hquiet, isFeedback_of_not_ctrl hno]
  · have hwrite : ¬ m.isRoceWrite := fun hwrite => not_isForCtrlPort_of_write hwrite hctrl
    have hmsg : ctrlMsgOf m = arqParseCtrlMsg m := if_pos hctrl
    rw [heq]
    unfold wanControl
    split
    · rename_i hnone
      have hnothing : wanTally proc.jitterBuffer m [.free m] = 0 := by
        funext c
        cases c <;> simp [wanTally, hwrite, hctrl, hquiet, isFeedback, hmsg, hnone]
      refine ⟨[.free m], free_adds host m, ?_⟩
      rw [hnothing, map_zero, add_zero]
    · rename_i msg hsome
      refine ⟨_, (wanFeedback_init harq msg host).trans (free_adds _ m), ?_⟩
      dsimp only
      rw [wanFeedback_stats harq]
      congr 2
      funext c
      cases c <;> simp [wanTally, hwrite, hctrl, hquiet, isFeedback, hmsg, hsome]
  · rw [heq]
    exact wanWrite_tally proc hwrite host

/-- The timer of such a core counts nothing. -/
theorem procTimerCallback_stats {proc : ProcessorContext} (harq : proc.arqMgr = arqMgrInit)
    (host : Host) : (procTimerCallback proc host).1.stats = proc.stats := by
  rw [procTimerCallback, harq, foldl_timerVisit_init]
  dsimp only
  split <;> rfl

end RdmaGateway.Processor
