/-
  Processor/SpoofedAcks.lean --- the acknowledgements that one packet sends back to the LAN.

  `proc_process_lan_rx` answers a WRITE itself, before anything has crossed the WAN.  Only
  `forge_and_send_ack` builds such an answer, and `lan_acks` says for which packets it is
  called: the WRITEs for a known peer whose queue pair has a slot, once each.
-/
import RdmaGateway.Processor.Admission
import RdmaGateway.Processor.Frames
import RdmaGateway.Processor.Notifications

set_option autoImplicit false

namespace RdmaGateway.Processor

open RdmaGateway.Foundation
open RdmaGateway.Dpdk
open RdmaGateway.Wire
open RdmaGateway.Roce
open RdmaGateway.Tunnel
open RdmaGateway.Arq

/-- The RoCE acknowledgements passed to the LAN port, in order. -/
def spoofedAcks (trace : List (Event Mbuf)) : List Mbuf :=
  trace.filterMap fun
    | .txBurst .lan f _ => if f.bthOpcode = roceOpcodeAck then some f else none
    | _ => none

theorem spoofedAcks_append (ev ev' : List (Event Mbuf)) :
    spoofedAcks (ev ++ ev') = spoofedAcks ev ++ spoofedAcks ev' :=
  List.filterMap_append

theorem spoofedAcks_eq_nil {ev : List (Event Mbuf)}
    (h : ∀ f accepted, .txBurst .lan f accepted ∈ ev → f.bthOpcode ≠ roceOpcodeAck) :
    spoofedAcks ev = [] := by
  apply List.filterMap_eq_nil_iff.mpr
  intro e he
  split
  · exact if_neg (h _ _ he)
  · rfl

/-- A part of a call that answers nothing. -/
def AnswersNothing (host host' : Host) : Prop := ∃ ev, Adds host host' ev ∧ spoofedAcks ev = []

theorem AnswersNothing.trans {a b c : Host} (h : AnswersNothing a b) (h' : AnswersNothing b c) :
    AnswersNothing a c := by
  obtain ⟨ev, hadds, hnone⟩ := h
  obtain ⟨ev', hadds', hnone'⟩ := h'
  exact ⟨_, hadds.trans hadds', by rw [spoofedAcks_append, hnone, hnone', List.append_nil]⟩

/-- Traffic of the gateway's own that is no acknowledgement. -/
theorem answersNothing_of_own {host host' : Host} {P : Port → Mbuf → Prop}
    (hemits : ∃ ev, Adds host host' ev ∧ OwnTraffic P ev)
    (hP : ∀ f, P .lan f → f.bthOpcode ≠ roceOpcodeAck) : AnswersNothing host host' := by
  obtain ⟨ev, hadds, hown⟩ := hemits
  exact ⟨ev, hadds, spoofedAcks_eq_nil fun f _ hf => hP f (hown.of_mem hf)⟩

theorem IsCnp.not_ack {srcIp : Nat} {port : Port} {f : Mbuf} (h : IsCnp srcIp port f) :
    f.bthOpcode ≠ roceOpcodeAck := by
  obtain ⟨-, -, b, dstIp, qpn, pkey, dstMac, srcMac, hdata⟩ := h
  rw [(cnpFrame_bth f hdata).1]
  decide

/-- The pool never runs out of buffers that an acknowledgement fits in. -/
def HasBuffers (host : Host) : Prop := ∀ n, ∃ b, host.io.oracle.allocs n = some b ∧ 62 ≤ b.room

/-- Packet `m` is answered, or the pool had no buffer for the answer. -/
structure Answers (m : Mbuf) (host host' : Host) (ev : List (Event Mbuf)) : Prop where
  adds : Adds host host' ev
  acks : spoofedAcks ev = [] ∧ ¬ HasBuffers host ∨
    ∃ f, spoofedAcks ev = [f] ∧ IsForgedAck m .lan f

section Answers

variable {m : Mbuf} {a b c : Host} {ev : List (Event Mbuf)}

theorem Answers.trans (h : Answers m a b ev) (h' : AnswersNothing b c) :
    ∃ ev, Answers m a c ev := by
  obtain ⟨ev', hadds, hnone⟩ := h'
  refine ⟨ev ++ ev', h.adds.trans hadds, ?_⟩
  rw [spoofedAcks_append, hnone, List.append_nil]
  exact h.acks

theorem AnswersNothing.answers (h : AnswersNothing a b) (h' : Answers m b c ev) :
    ∃ ev, Answers m a c ev := by
  obtain ⟨ev', hadds, hnone⟩ := h
  refine ⟨ev' ++ ev, hadds.trans h'.adds, ?_⟩
  rw [spoofedAcks_append, hnone, List.nil_append]
  have hacks := h'.acks
  rwa [HasBuffers, hadds.oracle] at hacks

end Answers

theorem forgeAndSendAck_answers (host : Host) (m : Mbuf) :
    ∃ ev, Answers m host (forgeAndSendAck host m).2 ev := by
  unfold forgeAndSendAck
  rcases allocAppend_cases (fun _ _ => False) host 62 with
    ⟨host', ev, heq, hadds, hown⟩ | ⟨b, f, host', heq, hadds, -, hlen⟩
  · rw [heq]
    refine ⟨ev, hadds, .inl ⟨spoofedAcks_eq_nil fun f _ hf => (hown.of_mem hf).elim, ?_⟩⟩
    intro hpool
    obtain ⟨b, hb, hroom⟩ := hpool host.io.allocCount
    rw [allocAppend_of_room hb hroom] at heq
    cases heq
  · rw [heq]
    have hsent : IsForgedAck m .lan (f.withData (ackFrame f.data m)) := ⟨rfl, hlen, f.data, rfl⟩
    have hop := (ackFrame_bth (f.withData (ackFrame f.data m)) rfl).1
    refine ⟨_, hadds.trans (txOrFree_adds host' .lan _), .inr ⟨_, ?_, hsent⟩⟩
    rw [spoofedAcks_append, show spoofedAcks [.alloc b] = [] from rfl, List.nil_append]
    generalize Host.accepts host' .lan = accepted
    cases accepted <;> simp [txEvents, spoofedAcks, hop]

/-- Frames for the WAN port are no answers. -/
theorem answersNothing_of_wan {host host' : Host} {ev : List (Event Mbuf)}
    (hadds : Adds host host' ev)
    (hwan : ∀ port f accepted, .txBurst port f accepted ∈ ev → port = .wan) :
    AnswersNothing host host' :=
  ⟨ev, hadds, spoofedAcks_eq_nil fun f _ hf => absurd (hwan _ f _ hf) (by decide)⟩

theorem mem_txEvents_port {port port' : Port} {f f' : Mbuf} {accepted accepted' : Bool}
    (h : .txBurst port' f' accepted' ∈ txEvents port f accepted) : port' = port := by
  cases accepted <;> simp [txEvents] at h <;> exact h.1

theorem wanSetMacs_answersNothing (host : Host) (m : Mbuf) :
    AnswersNothing host (wanSetMacs host m .wan).2 :=
  answersNothing_of_own (wanSetMacs_emits host m).2 fun _ hf => absurd hf.1 (by decide)

theorem lanPassthrough_answersNothing (proc : ProcessorContext) (m : Mbuf) (host : Host) :
    AnswersNothing host (lanPassthrough proc m host).2 :=
  (wanSetMacs_answersNothing host m).trans
    (answersNothing_of_wan (txOrFree_adds _ .wan _) fun _ _ _ hf => mem_txEvents_port hf)

theorem lanSend_answers (proc : ProcessorContext) (m : Mbuf) (peerIp : Nat) (host : Host) :
    ∃ ev, Answers m host (lanSend proc m peerIp host).2 ev := by
  obtain ⟨evAck, hack⟩ := forgeAndSendAck_answers host m
  unfold lanSend
  dsimp only
  generalize (forgeAndSendAck host m).2 = host₁ at hack ⊢
  have hmacs := wanSetMacs_answersNothing host₁ (setSrcAddr host₁.wanTunnelSrcIp m)
  rw [wanFwdRoce]
  generalize wanSetMacs host₁ (setSrcAddr host₁.wanTunnelSrcIp m) .wan = fwd at hmacs ⊢
  obtain ⟨hadds₃, -⟩ := lanTrack_tracks
    (((proc.count .writePktsProcessed).count .pktsLanToWan).count .ackSpoofedSent) fwd.1
    m.bthGetQpn m.bthGetPsn (getSegmentType m.bthOpcode) peerIp fwd.2
  generalize lanTrack _ fwd.1 m.bthGetQpn m.bthGetPsn (getSegmentType m.bthOpcode) peerIp fwd.2 =
    track at hadds₃ ⊢
  obtain ⟨-, accepted, hadds₄⟩ := lanTransmit_adds track.2.1 fwd.1 track.1 track.2.2
  have htracked : AnswersNothing fwd.2 track.2.2 := ⟨[], hadds₃, rfl⟩
  have hsent : AnswersNothing track.2.2 (lanTransmit track.2.1 fwd.1 track.1 track.2.2).2 := by
    apply answersNothing_of_wan hadds₄
    intro port f accepted' hf
    unfold forwardEvents keepEvents txEvents at hf
    split at hf <;> cases accepted <;> simp at hf <;> exact hf.1
  exact hack.trans ((hmacs.trans htracked).trans hsent)

/-- A WRITE for a known peer is answered if its queue pair has a slot, and freed if not. -/
theorem lanWrite_answers (proc : ProcessorContext) (m : Mbuf) (peerIp : Nat) (host : Host) :
    ((qpGetOrCreate proc.qpMgr m.bthGetQpn).1 = none ∧
        AnswersNothing host (lanWrite proc m peerIp host).2) ∨
      ∃ i, (qpGetOrCreate proc.qpMgr m.bthGetQpn).1 = some i ∧
        ∃ ev, Answers m host (lanWrite proc m peerIp host).2 ev := by
  rw [lanWrite]
  rcases qpGetOrCreate proc.qpMgr m.bthGetQpn with ⟨_ | i, qpMgr⟩
  · exact .inl ⟨rfl, [.free m], free_adds host m, rfl⟩
  · refine .inr ⟨i, rfl, ?_⟩
    dsimp only
    have hnotify := answersNothing_of_own (lanNotify_emits { proc with qpMgr := qpMgr } i m host).2
      fun _ hf => hf.not_ack
    generalize lanNotify { proc with qpMgr := qpMgr } i m host = notified at hnotify ⊢
    rw [lanForward_eq]
    obtain ⟨ev, hsend⟩ := lanSend_answers notified.1 m peerIp notified.2
    generalize lanSend notified.1 m peerIp notified.2 = sent at hsend ⊢
    have hcount := answersNothing_of_own (lanCount_emits sent.1 sent.2).2 fun _ hf => hf.not_ack
    obtain ⟨ev', hanswers⟩ := hsend.trans hcount
    exact hnotify.answers hanswers

/-- The packet is a WRITE for a known peer of a queue pair that is served. -/
def IsAnswered (pm : PeerManager) (writes : List Mbuf) (m : Mbuf) : Prop :=
  IsTunnelled pm m ∧ m.bthGetQpn ∈ servedQps writes

instance (pm : PeerManager) (writes : List Mbuf) (m : Mbuf) : Decidable (IsAnswered pm writes m) :=
  inferInstanceAs (Decidable (_ ∧ _))

/-- One packet from the LAN. -/
theorem lan_acks {writes : List Mbuf} {proc : ProcessorContext} (h : ServesQps writes proc)
    (m : Mbuf) (host : Host) :
    if IsAnswered host.peerManager (writesAfter host.peerManager writes m) m
    then ∃ ev, Answers m host (procProcessLanRx proc m host).2 ev
    else AnswersNothing host (procProcessLanRx proc m host).2 := by
  rcases lan_path proc m host with ⟨htype, heq⟩ | ⟨-, hno, heq⟩ | ⟨hwrite, heq⟩
  · rw [if_neg fun hans => htype hans.1.1.1, heq]
    exact ⟨[.free m], free_adds host m, rfl⟩
  · rw [if_neg fun hans => hno hans.1, heq]
    exact lanPassthrough_answersNothing proc m host
  · obtain ⟨-, hslot⟩ := h.concat m
    rw [heq, writesAfter, if_pos hwrite]
    rcases lanWrite_answers proc m (wanGetPeerIp host (bswap32 m.ipDstAddr)) host with
      ⟨hnone, hnothing⟩ | ⟨i, hi, hanswers⟩
    · rw [if_neg ?_]
      · exact hnothing
      · rintro ⟨-, hserved⟩
        obtain ⟨i, hi⟩ := Table.exists_slot (length_firstKeys_le _) hserved
        exact absurd ((hslot i).mpr hi) (by simp [hnone])
    · rw [if_pos ⟨hwrite, List.mem_of_getElem? ((hslot i).mp hi)⟩]
      exact hanswers

end RdmaGateway.Processor
