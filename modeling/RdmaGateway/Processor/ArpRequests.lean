/-
  Processor/ArpRequests.lean --- when an ARP request goes out.

  `resolve_next_hop` asks for one when more than five seconds have passed since the last,
  and notes the time in `last_arp_time`, which all cores share.  Nothing else writes that
  time.  `AsksNothing` says of a part of a call that it leaves the time alone and sends no
  request, `Asks` that it sends at most one and notes when.
-/
import RdmaGateway.Processor.Admission
import RdmaGateway.Processor.Congestion
import RdmaGateway.Processor.Frames

set_option autoImplicit false

namespace RdmaGateway.Processor

open RdmaGateway.Foundation
open RdmaGateway.Dpdk
open RdmaGateway.Wire
open RdmaGateway.Roce
open RdmaGateway.Tunnel
open RdmaGateway.Arq
open RdmaGateway.Reassembly

/-! ## The time of the last request -/

section LastArpTime

variable (host : Host)

theorem allocAppend_lastArpTime (len : Nat) :
    (host.allocAppend len).2.lastArpTime = host.lastArpTime := by
  unfold Host.allocAppend
  dsimp only
  split
  · rfl
  · split <;> rfl

theorem txOrFree_lastArpTime (port : Port) (m : Mbuf) :
    (host.txOrFree port m).2.lastArpTime = host.lastArpTime := by
  unfold Host.txOrFree
  dsimp only
  split <;> rfl

theorem forgeAndSendAck_lastArpTime (orig : Mbuf) :
    (forgeAndSendAck host orig).2.lastArpTime = host.lastArpTime := by
  have halloc := allocAppend_lastArpTime host 62
  unfold forgeAndSendAck
  generalize host.allocAppend 62 = r at halloc ⊢
  obtain ⟨_ | m, host'⟩ := r
  · exact halloc
  · exact (txOrFree_lastArpTime host' .lan _).trans halloc

theorem sendArpRequest_lastArpTime (targetIp : Nat) (port : Port) :
    (sendArpRequest host targetIp port).2.lastArpTime = host.lastArpTime := by
  have halloc := allocAppend_lastArpTime host 42
  unfold sendArpRequest
  generalize host.allocAppend 42 = r at halloc ⊢
  obtain ⟨_ | m, host'⟩ := r
  · exact halloc
  · exact (txOrFree_lastArpTime host' port _).trans halloc

theorem cnpEmit_lastArpTime (proc : ProcessorContext) (i : Fin maxQpCtx) (now : Nat) :
    (cnpEmit proc i now host).2.lastArpTime = host.lastArpTime := by
  have halloc := allocAppend_lastArpTime host 74
  unfold cnpEmit ccBuildCnp
  dsimp only
  split
  · rfl
  split
  · rfl
  generalize host.allocAppend 74 = r at halloc ⊢
  obtain ⟨_ | m, host'⟩ := r
  · exact halloc
  · dsimp only
    split <;> exact (txOrFree_lastArpTime host' .lan _).trans halloc

theorem sweep_lastArpTime (now : Nat) (is : List (Fin maxQpCtx)) (s : ProcessorContext × Host) :
    (is.foldl (fun (s : ProcessorContext × Host) i =>
      if (s.1.qpMgr.qps i).active then cnpEmit s.1 i now s.2 else s) s).2.lastArpTime =
        s.2.lastArpTime := by
  induction is generalizing s with
  | nil => rfl
  | cons i is ih =>
    rw [List.foldl_cons, ih]
    split
    · exact cnpEmit_lastArpTime s.2 s.1 i now
    · rfl

theorem lanNotify_lastArpTime (proc : ProcessorContext) (i : Fin maxQpCtx) (m : Mbuf) :
    (lanNotify proc i m host).2.lastArpTime = host.lastArpTime := by
  rw [lanNotify_eq]
  split
  · exact cnpEmit_lastArpTime host.rdtsc.2 _ i _
  · rfl

theorem lanCount_lastArpTime (proc : ProcessorContext) :
    (lanCount proc host).2.lastArpTime = host.lastArpTime := by
  rw [lanCount_eq]
  split
  · rw [checkCongestion_eq]
    split
    · rfl
    · exact sweep_lastArpTime _ _ (_, host.rdtsc.2)
  · rfl

theorem lanTrack_lastArpTime (proc : ProcessorContext) (w : Mbuf) (qpn psn : Nat)
    (ty : WriteSegmentType) (peerIp : Nat) :
    (lanTrack proc w qpn psn ty peerIp host).2.2.lastArpTime = host.lastArpTime := by
  unfold lanTrack
  split <;> rfl

theorem lanTransmit_lastArpTime (proc : ProcessorContext) (w : Mbuf) (inWindow : Int) :
    (lanTransmit proc w inWindow host).2.lastArpTime = host.lastArpTime := by
  unfold lanTransmit
  split
  · rfl
  · exact txOrFree_lastArpTime host .wan w

end LastArpTime

/-! ## Requests in a trace -/

/-- The ARP frames passed to the WAN port, in order. -/
def arpRequests (trace : List (Event Mbuf)) : List Mbuf :=
  trace.filterMap fun
    | .txBurst .wan f _ => if f.etherType = rteEtherTypeArp then some f else none
    | _ => none

theorem arpRequests_append (ev ev' : List (Event Mbuf)) :
    arpRequests (ev ++ ev') = arpRequests ev ++ arpRequests ev' :=
  List.filterMap_append

theorem arpRequests_eq_nil {ev : List (Event Mbuf)}
    (h : ∀ f accepted, .txBurst .wan f accepted ∈ ev → f.etherType ≠ rteEtherTypeArp) :
    arpRequests ev = [] := by
  refine List.filterMap_eq_nil_iff.mpr fun e he => ?_
  split
  · exact if_neg (h _ _ he)
  · rfl

/-- A part of a call that sends no ARP request. -/
structure AsksNothing (host host' : Host) (ev : List (Event Mbuf)) : Prop where
  adds : Adds host host' ev
  later : Later host.io host'.io
  lastArpTime : host'.lastArpTime = host.lastArpTime
  none : arpRequests ev = []

/-- A reading of the clock between two states. -/
def ReadBetween (host host' : Host) (now : Nat) : Prop :=
  ∃ k, host.io.tscCount ≤ k ∧ k < host'.io.tscCount ∧ now = host.io.oracle.tsc k

/-- A part of a call that sends one, or tries to: the last is long ago, and the time is
noted. -/
structure Asks (host host' : Host) (ev : List (Event Mbuf)) : Prop where
  adds : Adds host host' ev
  later : Later host.io host'.io
  read : ReadBetween host host' host'.lastArpTime
  due : host.io.oracle.timerHz * 5 < sub64 host'.lastArpTime host.lastArpTime
  one : (arpRequests ev).length ≤ 1

section Asks

variable {a b c : Host} {ev ev' : List (Event Mbuf)}

theorem AsksNothing.refl (host : Host) : AsksNothing host host [] :=
  ⟨.refl host, .refl host.io, rfl, rfl⟩

theorem AsksNothing.trans (h : AsksNothing a b ev) (h' : AsksNothing b c ev') :
    AsksNothing a c (ev ++ ev') where
  adds := h.adds.trans h'.adds
  later := h.later.trans h'.later
  lastArpTime := h'.lastArpTime.trans h.lastArpTime
  none := by rw [arpRequests_append, h.none, h'.none, List.append_nil]

theorem AsksNothing.asks (h : AsksNothing a b ev) (h' : Asks b c ev') : Asks a c (ev ++ ev') where
  adds := h.adds.trans h'.adds
  later := h.later.trans h'.later
  read := by
    obtain ⟨k, hle, hlt, hnow⟩ := h'.read
    exact ⟨k, h.later.tscCount.trans hle, hlt, by rw [hnow, h.later.oracle]⟩
  due := by
    have hdue := h'.due
    rwa [h.later.oracle, h.lastArpTime] at hdue
  one := by
    rw [arpRequests_append, h.none, List.nil_append]
    exact h'.one

theorem Asks.asksNothing (h : Asks a b ev) (h' : AsksNothing b c ev') : Asks a c (ev ++ ev') where
  adds := h.adds.trans h'.adds
  later := h.later.trans h'.later
  read := by
    obtain ⟨k, hle, hlt, hnow⟩ := h.read
    exact ⟨k, hle, Nat.lt_of_lt_of_le hlt h'.later.tscCount, by rw [h'.lastArpTime, hnow]⟩
  due := by
    rw [h'.lastArpTime]
    exact h.due
  one := by
    rw [arpRequests_append, h'.none, List.append_nil]
    exact h.one

/-- Traffic of the gateway's own that is no ARP request. -/
theorem asksNothing_of_own {P : Port → Mbuf → Prop}
    (hemits : ∃ ev, Adds a b ev ∧ OwnTraffic P ev)
    (hP : ∀ f, P .wan f → f.etherType ≠ rteEtherTypeArp) (hlater : Later a.io b.io)
    (hlast : b.lastArpTime = a.lastArpTime) : ∃ ev, AsksNothing a b ev := by
  obtain ⟨ev, hadds, hown⟩ := hemits
  exact ⟨ev, hadds, hlater, hlast, arpRequests_eq_nil fun f _ hf => hP f (hown.of_mem hf)⟩

end Asks

/-! ## A packet from the LAN -/

/-- The step sends no ARP request, or it asks once. -/
def MayAsk (host host' : Host) : Prop := ∃ ev, AsksNothing host host' ev ∨ Asks host host' ev

theorem MayAsk.trans {a b c : Host} {ev : List (Event Mbuf)} (h : MayAsk a b)
    (h' : AsksNothing b c ev) : MayAsk a c := by
  obtain ⟨ev₁, hnothing | hasks⟩ := h
  · exact ⟨_, .inl (hnothing.trans h')⟩
  · exact ⟨_, .inr (hasks.asksNothing h')⟩

theorem AsksNothing.mayAsk {a b c : Host} {ev : List (Event Mbuf)} (h : AsksNothing a b ev)
    (h' : MayAsk b c) : MayAsk a c := by
  obtain ⟨ev₁, hnothing | hasks⟩ := h'
  · exact ⟨_, .inl (h.trans hnothing)⟩
  · exact ⟨_, .inr (h.asks hasks)⟩

theorem arpRequests_txEvents_le (port : Port) (f : Mbuf) (accepted : Bool) :
    (arpRequests (txEvents port f accepted)).length ≤ 1 := by
  have hfree : arpRequests (if accepted then [] else [.free f]) = [] := by cases accepted <;> rfl
  rw [txEvents, ← List.singleton_append, arpRequests_append, hfree, List.append_nil]
  exact List.length_filterMap_le _ _

theorem sendArpRequest_one (host : Host) (targetIp : Nat) :
    ∃ ev, Adds host (sendArpRequest host targetIp .wan).2 ev ∧ (arpRequests ev).length ≤ 1 := by
  unfold sendArpRequest
  rcases allocAppend_cases (fun _ _ => False) host 42 with
    ⟨host', ev, heq, hadds, hown⟩ | ⟨b, f, host', heq, hadds, -, -⟩
  · rw [heq]
    refine ⟨ev, hadds, ?_⟩
    rw [arpRequests_eq_nil fun f _ hf => (hown.of_mem hf).elim]
    exact Nat.zero_le 1
  · rw [heq]
    refine ⟨_, hadds.trans (txOrFree_adds host' .wan _), ?_⟩
    rw [arpRequests_append, show arpRequests [.alloc b] = [] from rfl, List.nil_append]
    exact arpRequests_txEvents_le .wan _ _

/-- The next hop is found without a request, or one is due and the time is noted. -/
theorem resolveNextHop_cases (host : Host) (dstIpBe : Nat) :
    ((resolveNextHop host dstIpBe).1 = false ∧
        AsksNothing host (resolveNextHop host dstIpBe).2.2 []) ∨
      (resolveNextHop host dstIpBe).1 = true ∧
        host.io.oracle.timerHz * 5 < sub64 host.rdtsc.1 host.lastArpTime ∧
        (resolveNextHop host dstIpBe).2.2 =
          { host.rdtsc.2 with lastArpTime := host.rdtsc.1 } := by
  unfold resolveNextHop
  split
  · exact .inl ⟨rfl, .refl host⟩
  dsimp only
  split
  · rename_i hdue
    exact .inr ⟨rfl, hdue, rfl⟩
  · exact .inl ⟨rfl, rdtsc_adds host, later_rdtsc host, rfl, rfl⟩

theorem wanSetMacs_mayAsk (host : Host) (m : Mbuf) : MayAsk host (wanSetMacs host m .wan).2 := by
  unfold wanSetMacs
  rcases resolveNextHop_cases host m.ipDstAddr with ⟨hno, hnothing⟩ | ⟨hyes, hdue, hhost⟩
  · dsimp only
    rw [hno, if_neg (by decide)]
    exact ⟨[], .inl hnothing⟩
  · dsimp only
    rw [hyes, if_pos rfl, hhost]
    obtain ⟨ev, hadds, hone⟩ := sendArpRequest_one
      { host.rdtsc.2 with lastArpTime := host.rdtsc.1 } (bswap32 m.ipDstAddr)
    have hlater := later_sendArpRequest
      { host.rdtsc.2 with lastArpTime := host.rdtsc.1 } (bswap32 m.ipDstAddr)
    have hlast := sendArpRequest_lastArpTime
      { host.rdtsc.2 with lastArpTime := host.rdtsc.1 } (bswap32 m.ipDstAddr) .wan
    have hread : Adds host { host.rdtsc.2 with lastArpTime := host.rdtsc.1 } [] :=
      ⟨(rdtsc_adds host).trace, rfl, rfl, rfl⟩
    refine ⟨_, .inr ⟨hread.trans hadds, (later_rdtsc host).trans hlater, ?_, ?_, hone⟩⟩
    · exact ⟨host.io.tscCount, le_rfl, hlater.tscCount, hlast⟩
    · rw [hlast]
      exact hdue

/-- Sending a frame that is no ARP frame. -/
theorem asksNothing_txOrFree (host : Host) {m : Mbuf} (htype : m.etherType ≠ rteEtherTypeArp) :
    AsksNothing host (host.txOrFree .wan m).2 (txEvents .wan m (Host.accepts host .wan)) := by
  refine ⟨txOrFree_adds host .wan m, later_txOrFree host .wan m, txOrFree_lastArpTime host .wan m,
    arpRequests_eq_nil fun f accepted hf => ?_⟩
  have hself : f = m := by
    rcases List.mem_cons.mp hf with heq | hfree
    · cases heq
      rfl
    · split at hfree <;> simp at hfree
  rw [hself]
  exact htype

theorem lanPassthrough_mayAsk (proc : ProcessorContext) {m : Mbuf} (host : Host)
    (htype : m.etherType ≠ rteEtherTypeArp) : MayAsk host (lanPassthrough proc m host).2 := by
  obtain ⟨hm, -⟩ := wanSetMacs_emits host m
  have hmacs := wanSetMacs_mayAsk host m
  have hpass : (lanPassthrough proc m host).2 =
      ((wanSetMacs host m .wan).2.txOrFree .wan (wanSetMacs host m .wan).1).2 := rfl
  rw [hpass]
  generalize wanSetMacs host m .wan = fwd at hm hmacs ⊢
  refine hmacs.trans (asksNothing_txOrFree fwd.2 ?_)
  rw [hm.headers.1]
  exact htype

/-- Acknowledging, tracking and transmitting a WRITE. -/
theorem lanSend_mayAsk (proc : ProcessorContext) {m : Mbuf} (hwrite : m.isRoceWrite) (peerIp : Nat)
    (host : Host) : MayAsk host (lanSend proc m peerIp host).2 := by
  obtain ⟨evAck, hack⟩ := asksNothing_of_own (forgeAndSendAck_emits host m)
    (fun f hf => absurd hf.1 (by decide)) (later_forgeAndSendAck host m)
    (forgeAndSendAck_lastArpTime host m)
  unfold lanSend
  dsimp only
  generalize (forgeAndSendAck host m).2 = host₁ at hack ⊢
  obtain ⟨hm, -⟩ := wanSetMacs_emits host₁ (setSrcAddr host₁.wanTunnelSrcIp m)
  have hmacs := wanSetMacs_mayAsk host₁ (setSrcAddr host₁.wanTunnelSrcIp m)
  rw [wanFwdRoce]
  generalize wanSetMacs host₁ (setSrcAddr host₁.wanTunnelSrcIp m) .wan = fwd at hm hmacs ⊢
  have hfwd : fwd.1.etherType ≠ rteEtherTypeArp := by
    rw [hm.headers.1, (setSrcAddr_headers host₁.wanTunnelSrcIp m).1, hwrite.1]
    decide
  generalize hproc : ((proc.count .writePktsProcessed).count .pktsLanToWan).count .ackSpoofedSent =
    proc₀
  obtain ⟨hadds₃, -⟩ := lanTrack_tracks proc₀ fwd.1 m.bthGetQpn m.bthGetPsn
    (getSegmentType m.bthOpcode) peerIp fwd.2
  have htrack : AsksNothing fwd.2 (lanTrack proc₀ fwd.1 m.bthGetQpn m.bthGetPsn
      (getSegmentType m.bthOpcode) peerIp fwd.2).2.2 [] :=
    ⟨hadds₃, later_lanTrack .., lanTrack_lastArpTime .., rfl⟩
  generalize lanTrack proc₀ fwd.1 m.bthGetQpn m.bthGetPsn (getSegmentType m.bthOpcode) peerIp
    fwd.2 = track at htrack ⊢
  obtain ⟨-, accepted, hadds₄⟩ := lanTransmit_adds track.2.1 fwd.1 track.1 track.2.2
  have hsent : AsksNothing track.2.2 (lanTransmit track.2.1 fwd.1 track.1 track.2.2).2
      (forwardEvents fwd.1 track.1 accepted) := by
    refine ⟨hadds₄, later_lanTransmit .., lanTransmit_lastArpTime .., ?_⟩
    unfold forwardEvents keepEvents txEvents
    split <;> cases accepted <;> simp [arpRequests, hfwd]
  exact hack.mayAsk ((hmacs.trans htrack).trans hsent)

theorem later_lanNotify (proc : ProcessorContext) (i : Fin maxQpCtx) (m : Mbuf) (host : Host) :
    Later host.io (lanNotify proc i m host).2.io := by
  rw [lanNotify_eq]
  split
  · exact (later_rdtsc host).trans (later_cnpEmit _ _ _ _)
  · exact .refl _

theorem later_lanCount (proc : ProcessorContext) (host : Host) :
    Later host.io (lanCount proc host).2.io := by
  rw [lanCount_eq]
  split
  · rw [checkCongestion_eq]
    split
    · exact .refl _
    · exact (later_rdtsc host).trans (sweep_sameControl _ _ (_, host.rdtsc.2)).2
  · exact .refl _

theorem lanWrite_mayAsk (proc : ProcessorContext) {m : Mbuf} (hwrite : m.isRoceWrite)
    (peerIp : Nat) (host : Host) : MayAsk host (lanWrite proc m peerIp host).2 := by
  have hcnp : ∀ (srcIp : Nat) (f : Mbuf), IsCnp srcIp .wan f → f.etherType ≠ rteEtherTypeArp :=
    fun _ _ hf => absurd hf.1 (by decide)
  rw [lanWrite]
  rcases qpGetOrCreate proc.qpMgr m.bthGetQpn with ⟨_ | i, qpMgr⟩
  · exact ⟨[.free m], .inl ⟨free_adds host m, ⟨rfl, le_rfl⟩, rfl, rfl⟩⟩
  · dsimp only
    obtain ⟨ev₁, hnotify⟩ := asksNothing_of_own
      (lanNotify_emits { proc with qpMgr := qpMgr } i m host).2 (hcnp _) (later_lanNotify ..)
      (lanNotify_lastArpTime host _ i m)
    generalize lanNotify { proc with qpMgr := qpMgr } i m host = notified at hnotify ⊢
    rw [lanForward_eq]
    have hsend := lanSend_mayAsk notified.1 hwrite peerIp notified.2
    generalize lanSend notified.1 m peerIp notified.2 = sent at hsend ⊢
    obtain ⟨ev₃, hcount⟩ := asksNothing_of_own (lanCount_emits sent.1 sent.2).2 (hcnp _)
      (later_lanCount sent.1 sent.2) (lanCount_lastArpTime sent.2 sent.1)
    exact hnotify.mayAsk (hsend.trans hcount)

/-- One packet from the LAN. -/
theorem lan_mayAsk (proc : ProcessorContext) (m : Mbuf) (host : Host) :
    MayAsk host (procProcessLanRx proc m host).2 := by
  rcases lan_path proc m host with ⟨-, heq⟩ | ⟨htype, -, heq⟩ | ⟨hwrite, heq⟩
  · rw [heq]
    exact ⟨[.free m], .inl ⟨free_adds host m, ⟨rfl, le_rfl⟩, rfl, rfl⟩⟩
  · rw [heq]
    refine lanPassthrough_mayAsk proc host ?_
    rw [htype]
    decide
  · rw [heq]
    exact lanWrite_mayAsk proc hwrite.1 _ host

/-! ## A packet from the WAN, and the timer -/

/-- The clock goes on, and the time of the last ARP request stays. -/
structure KeepsTime (host host' : Host) : Prop where
  later : Later host.io host'.io
  lastArpTime : host'.lastArpTime = host.lastArpTime

section KeepsTime

variable {a b c : Host}

theorem KeepsTime.refl (host : Host) : KeepsTime host host := ⟨.refl host.io, rfl⟩

theorem KeepsTime.trans (hab : KeepsTime a b) (hbc : KeepsTime b c) : KeepsTime a c :=
  ⟨hab.later.trans hbc.later, hbc.lastArpTime.trans hab.lastArpTime⟩

theorem keepsTime_withIo (host : Host) {io : Io Mbuf} (h : Later host.io io) :
    KeepsTime host { host with io := io } := ⟨h, rfl⟩

theorem later_frees (ms : List Mbuf) (io : Io Mbuf) :
    Later io (ms.foldl (fun io m => rtePktmbufFree m io) io) := by
  induction ms generalizing io with
  | nil => exact .refl io
  | cons m ms ih =>
    have hone : Later io (rtePktmbufFree m io) := ⟨rfl, le_rfl⟩
    rw [List.foldl_cons]
    exact hone.trans (ih _)

theorem later_jbAddSeg (jb : JitterBuffer Mbuf) (qpn psn : Nat) (ty : WriteSegmentType) (m : Mbuf)
    (io : Io Mbuf) : Later io (jbAddSeg jb qpn psn ty m io).2.2 := by
  cases jbAddSeg_outcome jb qpn psn ty m io with
  | full _ _ hr => rw [hr]; exact .refl io
  | duplicate _ _ hr => rw [hr]; exact ⟨rfl, le_rfl⟩
  | stored _ _ _ hr => rw [hr]; exact .refl io
  | opened _ _ hr => rw [hr]; exact .refl io

theorem later_jbRemoveWrite (jb : JitterBuffer Mbuf) (qpn : Nat) (io : Io Mbuf) :
    Later io (jbRemoveWrite jb qpn io).2 := by
  unfold jbRemoveWrite
  split
  · exact .refl io
  · exact later_frees _ io

theorem keepsTime_wanSendCtrl (proc : ProcessorContext) (qpn type psn : Nat) (m : Mbuf)
    (counter : StatCounter) (host : Host) :
    KeepsTime host (wanSendCtrl proc qpn type psn m counter host).2 := by
  have halloc : KeepsTime host (host.allocAppend 318).2 :=
    ⟨later_allocAppend host 318, allocAppend_lastArpTime host 318⟩
  unfold wanSendCtrl arqBuildCtrlMsg
  generalize host.allocAppend 318 = r at halloc ⊢
  obtain ⟨_ | f, host'⟩ := r
  · exact halloc
  · exact halloc.trans ⟨later_txOrFree host' .wan _, txOrFree_lastArpTime host' .wan _⟩

theorem keepsTime_wanNack (proc : ProcessorContext) (m : Mbuf) (host : Host) :
    KeepsTime host (wanNack proc m host).2 := by
  unfold wanNack
  dsimp only
  split
  · exact keepsTime_wanSendCtrl ..
  · exact .refl host

theorem keepsTime_handOver (segs : List Mbuf) (host : Host) :
    KeepsTime host (segs.foldl wanHandOver host) := by
  induction segs generalizing host with
  | nil => exact .refl host
  | cons seg segs ih =>
    have hone : KeepsTime host (wanHandOver host seg) :=
      ⟨later_txOrFree host .lan _, txOrFree_lastArpTime host .lan _⟩
    exact hone.trans (ih _)

theorem keepsTime_wanDeliver (proc : ProcessorContext) (m : Mbuf) (host : Host) :
    KeepsTime host (wanDeliver proc m host).2 := by
  unfold wanDeliver
  dsimp only
  split
  · generalize jbGetOrderedSegs proc.jitterBuffer m.bthGetQpn = segs
    split
    · exact (keepsTime_handOver segs.2 host).trans ((keepsTime_withIo _
        (later_jbRemoveWrite _ _ _)).trans (keepsTime_wanSendCtrl ..))
    · exact .refl host
  · exact .refl host

theorem keepsTime_wanWrite (proc : ProcessorContext) (m : Mbuf) (host : Host) :
    KeepsTime host (wanWrite proc m host).2 := by
  have hadd := keepsTime_withIo host (later_jbAddSeg (proc.count .pktsWanToLan).jitterBuffer
    m.bthGetQpn m.bthGetPsn (getSegmentType m.bthOpcode) m host.io)
  unfold wanWrite
  dsimp only
  split
  · exact hadd.trans ⟨⟨rfl, le_rfl⟩, rfl⟩
  split
  · exact hadd.trans ((keepsTime_wanNack ..).trans (keepsTime_wanDeliver ..))
  · exact hadd.trans (keepsTime_wanDeliver ..)

theorem keepsTime_wanFeedback (proc : ProcessorContext) (msg : ArqControlMsg) (host : Host) :
    KeepsTime host (wanFeedback proc msg host).2 := by
  unfold wanFeedback
  split
  · exact .refl host
  dsimp only
  split
  · exact keepsTime_withIo host (later_arqHandleAck ..)
  split
  · exact keepsTime_withIo host (later_arqHandleNack ..)
  · exact .refl host

theorem keepsTime_wan (proc : ProcessorContext) (m : Mbuf) (host : Host) :
    KeepsTime host (procProcessWanRx proc m host).2 := by
  have hfree : KeepsTime host (host.free m) := ⟨⟨rfl, le_rfl⟩, rfl⟩
  rcases wan_path proc m host with ⟨-, -, heq⟩ | ⟨-, heq⟩ | ⟨-, heq⟩
  · rw [heq]
    exact hfree
  · rw [heq]
    unfold wanControl
    split
    · exact hfree
    · exact (keepsTime_wanFeedback ..).trans ⟨⟨rfl, le_rfl⟩, rfl⟩
  · rw [heq]
    exact keepsTime_wanWrite ..

end KeepsTime

/-- A WAN core that never used a window sends nothing but control messages to the WAN. -/
theorem wan_asksNothing {proc : ProcessorContext} (harq : proc.arqMgr = arqMgrInit) (m : Mbuf)
    (host : Host) : ∃ ev, AsksNothing host (procProcessWanRx proc m host).2 ev := by
  obtain ⟨ev, hadds, hframes⟩ := wan_frames harq m host
  obtain ⟨hlater, hlast⟩ := keepsTime_wan proc m host
  refine ⟨ev, hadds, hlater, hlast, arpRequests_eq_nil fun f accepted hf harp => ?_⟩
  cases hframes .wan f accepted hf with
  | feedback _ hctrl =>
    obtain ⟨psn, hmsg⟩ := hctrl
    have hsome := hmsg.ctrlMsgOf
    unfold Arq.ctrlMsgOf at hsome
    rw [harp, if_neg fun hudp => absurd hudp.1 (by decide)] at hsome
    cases hsome

theorem timer_asksNothing {proc : ProcessorContext} (harq : proc.arqMgr = arqMgrInit)
    (host : Host) : AsksNothing host (procTimerCallback proc host).2 [] := by
  rw [procTimerCallback, harq, foldl_timerVisit_init]
  exact ⟨rdtsc_adds host, later_rdtsc host, rfl, rfl⟩

end RdmaGateway.Processor
