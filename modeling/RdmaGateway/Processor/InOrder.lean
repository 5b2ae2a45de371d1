/-
  Processor/InOrder.lean --- a WAN core without network faults.

  WRITEs of many queue pairs arrive interleaved, those of one queue pair in order.  Then the
  core is one queue for each queue pair: what it holds are the packets of the messages that
  are still open, and the final packet of a message hands the message to the LAN, whole and
  in order.  Nothing is lost as long as no more than 64 messages are open at once.
-/
import RdmaGateway.Foundation.Groups
import RdmaGateway.Processor.Isolation
import RdmaGateway.Processor.Ownership
import RdmaGateway.Reassembly.InOrder

set_option autoImplicit false

namespace RdmaGateway.Processor

open RdmaGateway.Foundation
open RdmaGateway.Dpdk
open RdmaGateway.Wire
open RdmaGateway.Roce
open RdmaGateway.Tunnel
open RdmaGateway.Reassembly

/-! ## Messages -/

/-- The packet is the last of its message. -/
def endsMessage (m : Mbuf) : Bool := (getSegmentType m.bthOpcode).isFinal

/-- The packets of queue pair `q`. -/
def ofQpn (q : Nat) (ms : List Mbuf) : List Mbuf := ofKey Mbuf.bthGetQpn q ms

/-- What has come of the message that queue pair `q` is in the middle of. -/
def openMessage (q : Nat) (ms : List Mbuf) : List Mbuf := openGroup endsMessage (ofQpn q ms)

/-- The messages of queue pair `q` that have come whole, one behind the other. -/
def wholeMessages (q : Nat) (ms : List Mbuf) : List Mbuf := wholeGroups endsMessage (ofQpn q ms)

/-- The queue pairs that are in the middle of a message. -/
def openQpns (ms : List Mbuf) : List Nat := openKeys Mbuf.bthGetQpn endsMessage ms

/-- After the packets `ms`, the packet is the next of its message, which has no more than 256
packets, or it starts a message and no more than 63 others are open. -/
structure IsNext (ms : List Mbuf) (m : Mbuf) : Prop where
  qpn_ne : m.bthGetQpn ≠ 0
  continues : ∀ first rest, openMessage m.bthGetQpn ms = first :: rest →
    m.bthGetPsn = psnAdd first.bthGetPsn (rest.length + 1) ∧ rest.length + 1 < jbMaxSegments
  room : openMessage m.bthGetQpn ms = [] → (openQpns ms).length < jbMaxPendingWrites

/-- Every packet is the next of its message. -/
def InOrder (ms : List Mbuf) : Prop :=
  ∀ before m after, ms = before ++ m :: after → IsNext before m

theorem InOrder.left {ms ms' : List Mbuf} (h : InOrder (ms ++ ms')) : InOrder ms :=
  fun before m after hms => h before m (after ++ ms') (by rw [hms]; simp)

theorem InOrder.isNext {ms : List Mbuf} {m : Mbuf} (h : InOrder (ms ++ [m])) : IsNext ms m :=
  h ms m [] rfl

theorem inOrder_nil : InOrder [] := fun before m after h => by simp at h

theorem InOrder.concat {ms : List Mbuf} {m : Mbuf} (h : InOrder ms) (hm : IsNext ms m) :
    InOrder (ms ++ [m]) := by
  intro before x after heq
  rcases List.eq_nil_or_concat after with rfl | ⟨after, y, rfl⟩
  · obtain ⟨rfl, hx⟩ := List.append_inj' heq rfl
    obtain rfl : m = x := by simpa using hx
    exact hm
  · rw [List.concat_eq_append, ← List.cons_append, ← List.append_assoc] at heq
    obtain ⟨rfl, -⟩ := List.append_inj' heq rfl
    exact h before x after rfl

/-- The message that the packet completes, if it does. -/
def completes (ms : List Mbuf) (m : Mbuf) : List Mbuf :=
  if endsMessage m then openMessage m.bthGetQpn ms ++ [m] else []

section Messages

variable {ms : List Mbuf} {m : Mbuf} {q : Nat}

theorem openMessage_concat_of_ne (h : m.bthGetQpn ≠ q) :
    openMessage q (ms ++ [m]) = openMessage q ms := by
  rw [openMessage, ofQpn, ofKey_concat_of_ne _ h]
  rfl

theorem openMessage_concat_self :
    openMessage m.bthGetQpn (ms ++ [m]) =
      if endsMessage m then [] else openMessage m.bthGetQpn ms ++ [m] := by
  rw [openMessage, ofQpn, ofKey_concat_self]
  split
  · rename_i hends
    exact openGroup_concat_of_last _ hends
  · rename_i hends
    exact openGroup_concat _ (Bool.eq_false_iff.mpr hends)

theorem wholeMessages_concat :
    wholeMessages q (ms ++ [m]) =
      wholeMessages q ms ++ if m.bthGetQpn = q then completes ms m else [] := by
  by_cases hq : m.bthGetQpn = q
  · subst hq
    rw [if_pos rfl, completes, wholeMessages, ofQpn, ofKey_concat_self]
    split
    · rename_i hends
      rw [wholeGroups_concat_of_last _ hends, wholeMessages, openMessage, ← List.append_assoc,
        wholeGroups_append_openGroup]
      rfl
    · rename_i hends
      rw [wholeGroups_concat _ (Bool.eq_false_iff.mpr hends), List.append_nil]
      rfl
  · rw [if_neg hq, List.append_nil, wholeMessages, ofQpn, ofKey_concat_of_ne _ hq]
    rfl

theorem mem_openMessage (h : m ∈ openMessage q ms) :
    m.bthGetQpn = q ∧ endsMessage m = false := by
  refine ⟨?_, not_last_of_mem_openGroup h⟩
  have hmem : m ∈ ofQpn q ms := (List.rtakeWhile_suffix _ _).subset h
  simpa [ofQpn, ofKey] using (List.mem_filter.mp hmem).2

theorem mem_completes {x : Mbuf} (h : x ∈ completes ms m) : x.bthGetQpn = m.bthGetQpn := by
  rw [completes] at h
  split at h
  · rcases List.mem_append.mp h with hopen | hself
    · exact (mem_openMessage hopen).1
    · rw [List.mem_singleton.mp hself]
  · cases h

end Messages

/-! ## The buffer between two arrivals -/

/-- The segment that a packet is stored as. -/
def segmentOf (m : Mbuf) : JbSegment Mbuf :=
  ⟨m.bthGetPsn, some m, .received, getSegmentType m.bthOpcode⟩

theorem filterMap_segmentOf (ms : List Mbuf) :
    (ms.map segmentOf).filterMap JbSegment.mbuf = ms := by
  rw [List.filterMap_map]
  exact List.filterMap_some

/-- After the WRITEs `ms` the buffer holds the open messages and nothing else. -/
structure HoldsOpen (ms : List Mbuf) (jb : JitterBuffer Mbuf) : Prop where
  rep : RepInv jb
  stray : ∀ i, NoStray (jb.writes i)
  idle : ∀ q ≠ 0, openMessage q ms = [] → jb.ctxOf q = none
  busy : ∀ q ≠ 0, ∀ first rest, openMessage q ms = first :: rest →
    ∃ ctx, jb.ctxOf q = some ctx ∧ ctx.firstPsn = first.bthGetPsn ∧
      HoldsInOrder ctx ((first :: rest).map segmentOf) ∧ rest.length < jbMaxSegments

theorem holdsOpen_jbInit : HoldsOpen [] jbInit :=
  ⟨repInv_jbInit, fun _ => noStray_zero, fun _ hq _ => ctxOf_eq_none.mpr fun _ h => hq h.symm,
    fun _ _ _ _ h => by cases h⟩

/-- The buffers held for a queue pair are the packets of its open message. -/
theorem HoldsOpen.held_eq {ms : List Mbuf} {jb : JitterBuffer Mbuf} (h : HoldsOpen ms jb) {q : Nat}
    (hq : q ≠ 0) : (jb.ctxOf q).elim [] JbWriteContext.held = openMessage q ms := by
  cases hopen : openMessage q ms with
  | nil => rw [h.idle q hq hopen, Option.elim_none]
  | cons first rest =>
    obtain ⟨ctx, hfound, -, hheld, hlen⟩ := h.busy q hq first rest hopen
    obtain ⟨i, -, rfl⟩ := ctxOf_eq_some hfound
    have heq := hheld.held_eq (by rw [List.length_map]; exact hlen) (h.stray i)
    rw [hfound, Option.elim_some, heq, filterMap_segmentOf]

theorem noStray_removeWrite {jb : JitterBuffer Mbuf} (h : ∀ i, NoStray (jb.writes i)) (q : Nat)
    (io : Io Mbuf) : ∀ i, NoStray ((jbRemoveWrite jb q io).1.writes i) := by
  cases hfind : jbFind jb q with
  | none =>
    rw [jbRemoveWrite_of_none (by rw [JitterBuffer.ctxOf, hfind]; rfl)]
    exact h
  | some i => exact noStray_update (jbRemoveWrite_writes hfind) h noStray_zero

section Step

variable {ms : List Mbuf} {m : Mbuf} {s : ProcessorContext × Host}

/-- A buffer without a free slot has 64 open messages. -/
theorem HoldsOpen.hasFreeSlot {jb : JitterBuffer Mbuf} (h : HoldsOpen ms jb)
    (hroom : (openQpns ms).length < jbMaxPendingWrites) : jb.HasFreeSlot := by
  by_contra hfull
  have hused : ∀ i, (jb.writes i).qpn ≠ 0 := by
    intro i hzero
    have hfree := h.rep.free i fun hmem => mem_occupied.mp hmem hzero
    exact hfull ⟨i, by rw [hfree]; rfl, by rw [hfree]; rfl⟩
  have hopen : ∀ i, (jb.writes i).qpn ∈ openQpns ms := by
    intro i
    refine mem_openKeys fun hnil => ?_
    exact ctxOf_eq_none.mp (h.idle _ (hused i) hnil) i rfl
  have hinj : Function.Injective fun i => (jb.writes i).qpn :=
    fun i j heq => h.rep.distinct i j heq (hused i)
  have hnodup := (List.nodup_finRange jbMaxPendingWrites).map hinj
  have hsub : (List.finRange jbMaxPendingWrites).map (fun i => (jb.writes i).qpn) ⊆ openQpns ms := by
    intro q hq
    obtain ⟨i, -, rfl⟩ := List.mem_map.mp hq
    exact hopen i
  have hle := (List.subperm_of_subset hnodup hsub).length_le
  rw [List.length_map, List.length_finRange] at hle
  omega

/-- The arrival of the next packet of a message, at the context of its queue pair. -/
theorem HoldsOpen.arrive {jb : JitterBuffer Mbuf} (h : HoldsOpen ms jb) (hnext : IsNext ms m) :
    ∃ ctx,
      arrive (jb.ctxOf m.bthGetQpn) m =
        (if endsMessage m then none else some ctx, completes ms m) ∧
      (endsMessage m = false →
        (∀ first rest, openMessage m.bthGetQpn ms ++ [m] = first :: rest →
          ctx.firstPsn = first.bthGetPsn) ∧
        HoldsInOrder ctx ((openMessage m.bthGetQpn ms ++ [m]).map segmentOf) ∧
        (openMessage m.bthGetQpn ms).length < jbMaxSegments) := by
  -- the context before: the one found, or the one that is set up
  obtain ⟨ctx, hctx, hfirst, hslot, hlen, hheld⟩ : ∃ ctx,
      accept (jb.ctxOf m.bthGetQpn) m.bthGetQpn m.bthGetPsn (getSegmentType m.bthOpcode) m =
        accept (some ctx) m.bthGetQpn m.bthGetPsn (getSegmentType m.bthOpcode) m ∧
      (∀ first rest, openMessage m.bthGetQpn ms ++ [m] = first :: rest →
        ctx.firstPsn = first.bthGetPsn) ∧
      ctx.slotOf m.bthGetPsn = (openMessage m.bthGetQpn ms).length ∧
      (openMessage m.bthGetQpn ms).length < jbMaxSegments ∧
      HoldsInOrder ctx ((openMessage m.bthGetQpn ms).map segmentOf) := by
    cases hopen : openMessage m.bthGetQpn ms with
    | nil =>
      refine ⟨.opened m.bthGetQpn m.bthGetPsn, ?_, ?_, slotOf_self, by decide,
        holdsInOrder_opened _ _⟩
      · rw [h.idle _ hnext.qpn_ne hopen]
        exact accept_none_eq ..
      · rintro first rest hcons
        obtain ⟨rfl, -⟩ := List.cons.inj hcons
        rfl
    | cons first rest =>
      obtain ⟨ctx, hfound, hfirst, hheld, -⟩ := h.busy _ hnext.qpn_ne first rest hopen
      obtain ⟨hpsn, hlt⟩ := hnext.continues first rest hopen
      refine ⟨ctx, by rw [hfound], ?_, ?_, hlt, hheld⟩
      · rintro first' rest' hcons
        obtain ⟨rfl, -⟩ := List.cons.inj hcons
        exact hfirst
      · have hmax : jbMaxSegments < maxPsn := by decide
        rw [JbWriteContext.slotOf, hfirst, hpsn, psnForwardDist_psnAdd _ (by omega),
          Nat.mod_eq_of_lt hlt]
        rfl
  have hlen' : ((openMessage m.bthGetQpn ms).map segmentOf).length < jbMaxSegments := by
    rwa [List.length_map]
  have hslot' : ctx.slotOf m.bthGetPsn = ((openMessage m.bthGetQpn ms).map segmentOf).length := by
    rwa [List.length_map]
  refine ⟨accept (some ctx) m.bthGetQpn m.bthGetPsn (getSegmentType m.bthOpcode) m, ?_,
    fun hopen => ⟨fun first rest hcons => ?_, ?_, hlen⟩⟩
  · rw [Processor.arrive, hctx, completes]
    by_cases hends : endsMessage m = true
    · rw [if_pos hends, if_pos hends, hheld.last hlen' hslot' hends, filterMap_segmentOf]
    · rw [if_neg hends, if_neg hends]
      exact (hheld.next hlen' hslot' (Bool.eq_false_iff.mpr hends)).1
  · rw [accept_firstPsn]
    exact hfirst first rest hcons
  · rw [List.map_append]
    exact (hheld.next hlen' hslot' hopen).2

/-- One WRITE, the next of its message: the buffer holds the open messages again, and the LAN
is handed the message that the packet completes, if it does. -/
theorem HoldsOpen.step (h : HoldsOpen ms s.1.jitterBuffer) (harq : s.1.arqMgr = Arq.arqMgrInit)
    (hwrite : m.isRoceWrite) (hnext : IsNext ms m) :
    HoldsOpen (ms ++ [m]) (wanStep s m).1.jitterBuffer ∧
      ∃ ev, Adds s.2 (wanStep s m).2 ev ∧
        lanHanded ev = (completes ms m).map (setSrcAddr s.2.wanTunnelSrcIp) := by
  have hroom : s.1.jitterBuffer.ctxOf m.bthGetQpn = none → s.1.jitterBuffer.HasFreeSlot := by
    intro hnone
    refine h.hasFreeSlot (hnext.room ?_)
    cases hopen : openMessage m.bthGetQpn ms with
    | nil => rfl
    | cons first rest =>
      obtain ⟨ctx, hfound, -⟩ := h.busy _ hnext.qpn_ne first rest hopen
      rw [hnone] at hfound
      cases hfound
  obtain ⟨hctx, -, ev, hdel⟩ := wanStep_arrive hwrite hnext.qpn_ne hroom
  obtain ⟨ctx, harrive, hheld⟩ := h.arrive hnext
  rw [harrive] at hdel
  replace hctx := hctx (.inl h.rep.distinct)
  rw [harrive] at hctx
  refine ⟨⟨?_, ?_, fun q hq hidle => ?_, fun q hq first rest hbusy => ?_⟩, ev, hdel.adds,
    hdel.handed⟩
  · have hadd := h.rep.addSeg hnext.qpn_ne m.bthGetPsn_lt (getSegmentType m.bthOpcode) m s.2.io
    exact wanStep_keeps h.rep hadd fun io => hadd.removeWrite hnext.qpn_ne io
  · obtain ⟨-, hstray, -⟩ := WanInv.addSeg ⟨h.rep, h.stray, harq⟩ hnext.qpn_ne
    exact wanStep_keeps (P := fun jb => ∀ i, NoStray (jb.writes i)) h.stray hstray
      fun io => noStray_removeWrite hstray _ io
  · by_cases hself : m.bthGetQpn = q
    · subst hself
      rw [openMessage_concat_self] at hidle
      split at hidle
      · rename_i hends
        rwa [if_pos hends] at hctx
      · simp at hidle
    · rw [openMessage_concat_of_ne hself] at hidle
      rw [wanStep_ctxOf_of_ne s (Ne.symm hself) hq]
      exact h.idle q hq hidle
  · by_cases hself : m.bthGetQpn = q
    · subst hself
      rw [openMessage_concat_self] at hbusy
      split at hbusy
      · cases hbusy
      · rename_i hends
        obtain ⟨hfirst, hsegs, hlen⟩ := hheld (Bool.eq_false_iff.mpr hends)
        rw [if_neg hends] at hctx
        refine ⟨ctx, hctx, hfirst first rest hbusy, hbusy ▸ hsegs, ?_⟩
        have hcount := congrArg List.length hbusy
        rw [List.length_append, List.length_singleton, List.length_cons] at hcount
        omega
    · rw [openMessage_concat_of_ne hself] at hbusy
      rw [wanStep_ctxOf_of_ne s (Ne.symm hself) hq]
      exact h.busy q hq first rest hbusy

end Step

/-- Any other frame changes neither the buffer nor what the LAN sees. -/
theorem wanStep_no_write {s : ProcessorContext × Host} (harq : s.1.arqMgr = Arq.arqMgrInit)
    {m : Mbuf} (hwrite : ¬ m.isRoceWrite) :
    (wanStep s m).1.jitterBuffer = s.1.jitterBuffer ∧
      ∃ ev, Adds s.2 (wanStep s m).2 ev ∧ lanHanded ev = [] := by
  refine ⟨?_, ?_⟩
  · cases wan_outcome s.1 m s.2 with
    | freed _ hjb _ => exact hjb
    | wrote hyes _ => exact absurd hyes hwrite
  · obtain ⟨ev, hadds, hframes⟩ := wan_frames harq m s.2
    refine ⟨ev, hadds, List.eq_nil_iff_forall_not_mem.mpr fun f hf => ?_⟩
    obtain ⟨accepted, hmem⟩ := mem_lanHanded.mp hf
    cases hframes _ _ _ hmem with
    | delivered hyes _ => exact hwrite hyes

end RdmaGateway.Processor
