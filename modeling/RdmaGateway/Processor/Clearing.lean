/-
  Processor/Clearing.lean --- the acknowledgement of a delivered WRITE, at the
  sender.

  The receiver acknowledges the PSN of the packet that completed the message, and
  the sender releases what that PSN covers, an initial part of the message.  So
  the message is cleared exactly when the packet that completes it is its final
  segment and the window has not wrapped (`ack_clears_iff_final_completes`); when
  an earlier segment completes it, the segments behind that one stay in the window
  although they were delivered, and with `send_next` wrapped past `send_base` the
  loop of `arq_handle_ack` does not run at all.
-/
import RdmaGateway.Processor.Order
import Mathlib.Data.List.Induction

set_option autoImplicit false

namespace RdmaGateway.Processor

open RdmaGateway.Foundation
open RdmaGateway.Dpdk
open RdmaGateway.Wire
open RdmaGateway.Roce
open RdmaGateway.Tunnel
open RdmaGateway.Arq
open RdmaGateway.Reassembly

/-! ## At the sender -/

/-- The window tracks exactly the `n` segments of the message that starts at PSN
`start`, all of them in flight.  `send_next` counts as the `uint32_t` it is and may
have wrapped past `send_base`. -/
structure TracksMessage (arq : ArqContext Mbuf) (start n : Nat) : Prop where
  base_lt : arq.sendBase < 2 ^ 32
  next_eq : arq.sendNext = add32 arq.sendBase n
  entries : ∀ i < n, (arq.entry (arq.sendBase + i)).psn = psnAdd start i ∧
    (arq.entry (arq.sendBase + i)).inFlight = true

/-- None of the `n` segments that `arq` tracks is left in flight in `arq'`. -/
def AllCleared (arq arq' : ArqContext Mbuf) (n : Nat) : Prop :=
  ∀ i < n, (arq'.entry (arq.sendBase + i)).inFlight = false

/-- A window whose counters are in order has not wrapped. -/
theorem TracksMessage.next_eq_add {arq : ArqContext Mbuf} {start n : Nat}
    (h : TracksMessage arq start n) (hmax : n ≤ windowSize)
    (hle : arq.sendBase ≤ arq.sendNext) (hn : 0 < n) :
    arq.sendNext = arq.sendBase + n ∧ arq.sendNext < 2 ^ 32 := by
  have hnext := h.next_eq
  have hbase := h.base_lt
  have hsize : windowSize = 256 := rfl
  rw [add32] at hnext
  omega

/-- Once `send_next` has wrapped past `send_base` nothing is cleared. -/
theorem TracksMessage.not_cleared_of_wrapped {arq : ArqContext Mbuf} {start n : Nat}
    (h : TracksMessage arq start n) (hn : 0 < n) (hwrapped : arq.sendNext < arq.sendBase)
    (ackPsn : Nat) (io : Io Mbuf) : ¬ AllCleared arq (arqHandleAck arq ackPsn io).1 n := by
  intro hcleared
  have hfirst := hcleared 0 hn
  rw [arqHandleAck_empty hwrapped.le, (h.entries 0 hn).2] at hfirst
  cases hfirst

/-- Acknowledging the PSN of segment `j` clears the message exactly when `j` is its
last segment and the window has not wrapped. -/
theorem TracksMessage.cleared_iff {arq : ArqContext Mbuf} {start n j : Nat}
    (h : TracksMessage arq start n) (hmax : n ≤ windowSize) (hj : j < n) (io : Io Mbuf) :
    AllCleared arq (arqHandleAck arq (psnAdd start j) io).1 n ↔
      j + 1 = n ∧ arq.sendBase ≤ arq.sendNext := by
  rcases Nat.lt_or_ge arq.sendNext arq.sendBase with hwrapped | hle
  · have hnot := h.not_cleared_of_wrapped (by omega) hwrapped (psnAdd start j) io
    exact ⟨fun hcleared => absurd hcleared hnot, fun hlast => by omega⟩
  obtain ⟨hnext, hlt⟩ := h.next_eq_add hmax hle (by omega)
  have hhalf : windowSize < psnHalf := by decide
  obtain ⟨k, hpop⟩ := arqHandleAck_popped (psnAdd start j) io hle hlt (by omega)
  have hkn := hpop.le_next
  have hcovers : ∀ i < n,
      Covers (psnAdd start j) (arq.entry (arq.sendBase + i)).psn ↔ i ≤ j := by
    intro i hi
    rw [Covers, (h.entries i hi).1]
    exact psnForwardDist_psnAdd_lt_half_iff start (by omega) (by omega)
  constructor
  · intro hcleared
    refine ⟨?_, hle⟩
    by_contra hlast
    -- the segment behind `j` is not covered, so the loop stopped before it
    have hstop : ¬ j + 1 < k := by
      intro hk
      have hcov := hpop.covered (arq.sendBase + (j + 1)) (by omega) (by omega)
      rw [hcovers (j + 1) (by omega)] at hcov
      omega
    have hkept : (arqHandleAck arq (psnAdd start j) io).1.entry (arq.sendBase + (j + 1)) =
        arq.entry (arq.sendBase + (j + 1)) := by
      apply hpop.kept
      intro i hi hi'
      exact (Ring.mod_ne_of_lt_of_sub_lt (by omega) (by omega)).symm
    have hclear := hcleared (j + 1) (by omega)
    rw [hkept, (h.entries (j + 1) (by omega)).2] at hclear
    cases hclear
  · rintro ⟨hlast, -⟩
    have hall : k = n := by
      by_contra hne
      apply hpop.stops (by omega)
      rw [hcovers k (by omega)]
      omega
    intro i hi
    rw [hpop.released (arq.sendBase + i) (by omega) (by omega), released_inFlight]

/-! ## At the receiver -/

/-- A stream of one message. -/
def oneMessage (start n : Nat) (hn : 0 < n) : SenderStream := ⟨start, [n], by simpa using hn⟩

section Receiver

variable {qpn start n : Nat} {hn : 0 < n} {pos : Nat → Nat}

theorem oneMessage_tail (start : Nat) (hn : 0 < n) : (oneMessage start n hn).Tail 0 n := by
  have hmsg : (oneMessage start n hn).Message 0 n := ⟨[], [], rfl, rfl⟩
  exact hmsg.tail

theorem oneMessage_length (start : Nat) (hn : 0 < n) : (oneMessage start n hn).length = n := by
  simp [oneMessage, SenderStream.length]

/-- After the arrivals `ms` the flow has a context that collects the message and
has received exactly the segments among them. -/
def Gathers (start n : Nat) (hn : 0 < n) (qpn : Nat) (pos : Nat → Nat) (ms : List Mbuf)
    (jb : JitterBuffer Mbuf) : Prop :=
  ∃ ctx, jb.ctxOf qpn = some ctx ∧
    CollectsAt (oneMessage start n hn) (fun m => pos m.id) ctx 0 n ∧
    ∀ i < n, ctx.Received i ↔ i ∈ positions pos ms

/-- The step that takes the last of the arrivals `ms`: such a context, followed by
the test for a complete WRITE. -/
def StoresLast (start n : Nat) (hn : 0 < n) (qpn : Nat) (pos : Nat → Nat) (ms : List Mbuf)
    (s : ProcessorContext × Host) (m : Mbuf) : Prop :=
  ∃ ctx ev, CollectsAt (oneMessage start n hn) (fun m => pos m.id) ctx 0 n ∧
    (∀ i < n, ctx.Received i ↔ i ∈ positions pos ms) ∧
    ((release ctx).2 = [] → (wanStep s m).1.jitterBuffer.ctxOf qpn = (release ctx).1) ∧
    Delivers s.2 (wanStep s m).2 m (release ctx).2 ev

/-- Every packet of a single message fits the context that collects it. -/
theorem oneMessage_fits {ctx : JbWriteContext Mbuf} {m : Mbuf}
    (h : CollectsAt (oneMessage start n hn) (fun m => pos m.id) ctx 0 n) (hm : pos m.id < n) :
    Fits (oneMessage start n hn) (fun m => pos m.id) ctx m := by
  intro opener k hopener htail _ _
  obtain ⟨opener', hopener', hzero⟩ := h.opener
  rw [hopener] at hopener'
  cases hopener'
  dsimp only at htail hzero ⊢
  rw [hzero] at htail ⊢
  rw [htail.length_unique (oneMessage_tail start hn)]
  omega

theorem IsCopy.pos_lt {m : Mbuf} (h : IsCopy (oneMessage start n hn) qpn pos m) :
    pos m.id < n := by
  have hlt := h.inStream
  rwa [oneMessage_length] at hlt

/-- The leading packet of the message, when the flow has no context. -/
theorem storesLast_first {s : ProcessorContext × Host} {m : Mbuf} (hq : qpn ≠ 0)
    (hmax : n ≤ jbMaxSegments) (hnone : s.1.jitterBuffer.ctxOf qpn = none)
    (hfree : s.1.jitterBuffer.HasFreeSlot)
    (hcopy : IsCopy (oneMessage start n hn) qpn pos m) (hlead : pos m.id = 0) :
    StoresLast start n hn qpn pos [m] s m := by
  obtain ⟨hctx, -, ev, hdel⟩ := wanStep_arrive hcopy.write
    (by rw [hcopy.qpn_eq]; exact hq) fun _ => hfree
  rw [hcopy.qpn_eq, hnone, hcopy.arrive_eq] at hctx hdel
  have htail : (oneMessage start n hn).Tail (pos m.id) n := by
    rw [hlead]
    exact oneMessage_tail start hn
  have hcollects := @collectsAt_accept_none Mbuf _ (fun m => pos m.id) qpn n m htail hmax
  have hrec : ∀ i < n, (accept none qpn ((oneMessage start n hn).psn (pos m.id))
      ((oneMessage start n hn).segType (pos m.id)) m).Received i ↔ i = 0 :=
    fun i hi => received_accept_none_iff (by omega)
  generalize accept none qpn ((oneMessage start n hn).psn (pos m.id))
    ((oneMessage start n hn).segType (pos m.id)) m = ctx at hctx hdel hcollects hrec
  rw [hlead] at hcollects
  refine ⟨ctx, ev, hcollects, fun i hi => ?_, fun h => hctx (Or.inr h), hdel⟩
  simp [hrec i hi, positions, hlead]

/-- A further packet of the message. -/
theorem Gathers.storesLast {ms : List Mbuf} {s : ProcessorContext × Host} {m : Mbuf}
    (h : Gathers start n hn qpn pos ms s.1.jitterBuffer) (hq : qpn ≠ 0)
    (hcopy : IsCopy (oneMessage start n hn) qpn pos m) :
    StoresLast start n hn qpn pos (ms ++ [m]) s m := by
  obtain ⟨ctx, hfound, hcollects, hrec⟩ := h
  obtain ⟨hctx, -, ev, hdel⟩ := wanStep_arrive hcopy.write
    (by rw [hcopy.qpn_eq]; exact hq) (by rw [hcopy.qpn_eq, hfound]; exact nofun)
  rw [hcopy.qpn_eq, hfound, hcopy.arrive_eq] at hctx hdel
  refine ⟨_, ev, hcollects.accept (oneMessage_fits hcollects hcopy.pos_lt), fun i hi => ?_,
    fun h => hctx (Or.inr h), hdel⟩
  rw [hcollects.received_accept_iff hi hcopy.pos_lt (Nat.zero_add _).symm, hrec i hi,
    positions_append, List.mem_append]
  simp [positions]

/-- As long as a segment has not arrived, the step only stores. -/
theorem StoresLast.gathers {ms : List Mbuf} {s : ProcessorContext × Host} {m : Mbuf}
    (h : StoresLast start n hn qpn pos ms s m) (hmiss : ∃ i < n, i ∉ positions pos ms) :
    Gathers start n hn qpn pos ms (wanStep s m).1.jitterBuffer := by
  obtain ⟨ctx, ev, hcollects, hrec, hctx, -⟩ := h
  obtain ⟨i, hi, hnot⟩ := hmiss
  have hmiss' : ∃ i < n, ¬ ctx.Received i := ⟨i, hi, by rwa [hrec i hi]⟩
  rw [hcollects.release_of_missing hmiss'] at hctx
  exact ⟨ctx, hctx rfl, hcollects, hrec⟩

/-- The arrivals of a message whose leading segment comes first, up to the last of
them. -/
theorem storesLast_run {s : ProcessorContext × Host} (hq : qpn ≠ 0) (hmax : n ≤ jbMaxSegments)
    (hnone : s.1.jitterBuffer.ctxOf qpn = none) (hfree : s.1.jitterBuffer.HasFreeSlot)
    (before : List Mbuf) :
    ∀ x : Mbuf, (∀ m ∈ before ++ [x], IsCopy (oneMessage start n hn) qpn pos m) →
      (positions pos (before ++ [x])).head? = some 0 →
      (∃ i < n, i ∉ positions pos before) →
      StoresLast start n hn qpn pos (before ++ [x]) (run wanStep s before) x := by
  -- induction on the arrivals before the last, taken from the end
  induction before using List.reverseRecOn with
  | nil =>
    intro x hcopies hlead _
    have hzero : pos x.id = 0 := by simpa [positions] using hlead
    exact storesLast_first hq hmax hnone hfree (hcopies x (by simp)) hzero
  | append_singleton before y ih =>
    intro x hcopies hlead hmiss
    have hlead' : (positions pos (before ++ [y])).head? = some 0 := by
      rw [positions_append, List.head?_append] at hlead
      cases hhead : (positions pos (before ++ [y])).head? with
      | none => simp [positions] at hhead
      | some k => rwa [hhead] at hlead
    obtain ⟨i, hi, hnot⟩ := hmiss
    have hmiss' : ∃ i < n, i ∉ positions pos before := by
      refine ⟨i, hi, fun hmem => hnot ?_⟩
      rw [positions_append]
      exact List.mem_append_left _ hmem
    have hbefore := ih y (fun m hm => hcopies m (List.mem_append_left _ hm)) hlead' hmiss'
    have hgathers := hbefore.gathers ⟨i, hi, hnot⟩
    rw [run_append]
    exact hgathers.storesLast hq (hcopies x (by simp))

end Receiver

/-- A WRITE of at most 256 segments, its leading segment first and the rest in any
order with any retransmissions.  The arrival `x` that completes it hands the whole
message to the LAN; and an acknowledgement it sends clears the message from a
sender that tracks it exactly when `x` is the final segment, that is, when the
final segment is the last to arrive for the first time, and the sender's
`send_next` has not wrapped past its `send_base`. -/
theorem ack_clears_iff_final_completes {qpn start n : Nat} (hq : qpn ≠ 0) (hn : 0 < n)
    (hmax : n ≤ jbMaxSegments) (pos : Nat → Nat) (s : ProcessorContext × Host)
    (hnone : s.1.jitterBuffer.ctxOf qpn = none) (hfree : s.1.jitterBuffer.HasFreeSlot)
    (before : List Mbuf) (x : Mbuf)
    (hcopies : ∀ m ∈ before ++ [x], IsCopy (oneMessage start n hn) qpn pos m)
    (hlead : (positions pos (before ++ [x])).head? = some 0)
    (hmiss : ∃ i < n, i ∉ positions pos before)
    (hall : ∀ i < n, i ∈ positions pos (before ++ [x])) :
    ∃ ev, (run wanStep s (before ++ [x])).2.io.trace =
        (run wanStep s before).2.io.trace ++ ev ∧
      positions pos (lanHanded ev) = List.range n ∧
      ∀ msg ∈ wanAcks ev, msg.qpn = qpn ∧
        ∀ (arq : ArqContext Mbuf) (io : Io Mbuf), TracksMessage arq start n →
          (AllCleared arq (arqHandleAck arq msg.psn io).1 n ↔
            pos x.id + 1 = n ∧ arq.sendBase ≤ arq.sendNext) := by
  obtain ⟨ctx, ev, hcollects, hrec, -, hdel⟩ :=
    storesLast_run hq hmax hnone hfree before x hcopies hlead hmiss
  obtain ⟨out, hrel, hout⟩ := hcollects.release_of_all fun i hi => (hrec i hi).mpr (hall i hi)
  have hx := hcopies x (by simp)
  rw [hrel] at hdel
  refine ⟨ev, ?_, ?_, fun msg hmsg => ?_⟩
  · rw [run_append]
    exact hdel.adds.trace
  · rw [hdel.handed, positions_setSrcAddr, hout, List.range_eq_range']
  · obtain ⟨-, rfl⟩ := hdel.acks msg hmsg
    refine ⟨hx.qpn_eq, fun arq io htracks => ?_⟩
    have hpsn : (ackFor x).psn = psnAdd start (pos x.id) := hx.psn_eq
    rw [hpsn]
    exact htracks.cleared_iff hmax hx.pos_lt io

/-! ## A message of three segments -/

/-- Segment `k` of a WRITE of three segments from PSN 0 on QPN 7. -/
def segFrame (k : Nat) : Mbuf :=
  writeFrame k
    (if k = 0 then roceOpcodeWriteFirst else if k = 1 then roceOpcodeWriteMiddle
      else roceOpcodeWriteLast) 7 k

/-- A sender that has offered the three segments to a fresh window. -/
def threeSent : ArqContext Mbuf :=
  [0, 1, 2].foldl
    (fun arq k => (arqSendPkt arq (segFrame k) k (getSegmentType (segFrame k).bthOpcode)
      (.start (.accepting none))).2.1) (.fresh 7)

theorem threeSent_tracks : TracksMessage threeSent 0 3 := by
  constructor <;> decide +kernel

theorem segFrame_isCopy {k : Nat} (hk : k < 3) :
    IsCopy (oneMessage 0 3 (by decide)) 7 id (segFrame k) := by
  obtain rfl | rfl | rfl : k = 0 ∨ k = 1 ∨ k = 2 := by omega
  all_goals
    constructor <;> decide +kernel

theorem wanCore_hasFreeSlot : wanCore.1.jitterBuffer.HasFreeSlot :=
  (onlyFlow_jbInit 7).hasFreeSlot (ctxOf_jbInit (by decide))

/-- The three segments in order: the acknowledgement clears the sender. -/
theorem ack_clears_iff_final_completes_inOrder :
    ∃ ev, (run wanStep wanCore [segFrame 0, segFrame 1, segFrame 2]).2.io.trace =
        (run wanStep wanCore [segFrame 0, segFrame 1]).2.io.trace ++ ev ∧
      positions id (lanHanded ev) = List.range 3 ∧
      ∀ msg ∈ wanAcks ev, msg.qpn = 7 ∧
        AllCleared threeSent (arqHandleAck threeSent msg.psn (.start (.accepting none))).1 3 := by
  obtain ⟨ev, htrace, hhanded, hack⟩ := @ack_clears_iff_final_completes 7 0 3 (by decide)
    (by decide) (by decide) id wanCore (ctxOf_jbInit (by decide)) wanCore_hasFreeSlot
    [segFrame 0, segFrame 1] (segFrame 2)
    (by simp [segFrame_isCopy]) rfl ⟨2, by decide, by decide⟩ (by decide)
  refine ⟨ev, htrace, hhanded, fun msg hmsg => ?_⟩
  obtain ⟨hqpn, hclears⟩ := hack msg hmsg
  exact ⟨hqpn, (hclears threeSent _ threeSent_tracks).mpr ⟨rfl, by decide +kernel⟩⟩

/-- FIRST, LAST, MIDDLE: the whole message is delivered and acknowledged with the
PSN of the MIDDLE, and the LAST stays in flight at the sender. -/
theorem last_stays_in_flight :
    (∀ m ∈ [segFrame 0, segFrame 2, segFrame 1], IsCopy (oneMessage 0 3 (by decide)) 7 id m) ∧
    wanCore.1.jitterBuffer.ctxOf 7 = none ∧ wanCore.1.jitterBuffer.HasFreeSlot ∧
    TracksMessage threeSent 0 3 ∧
    positions id (lanHanded
      (run wanStep wanCore [segFrame 0, segFrame 2, segFrame 1]).2.io.trace) = [0, 1, 2] ∧
    ∃ msg ∈ wanAcks (run wanStep wanCore [segFrame 0, segFrame 2, segFrame 1]).2.io.trace,
      msg.qpn = 7 ∧
      ¬ AllCleared threeSent (arqHandleAck threeSent msg.psn (.start (.accepting none))).1 3 := by
  refine ⟨by simp [segFrame_isCopy], ctxOf_jbInit (by decide), wanCore_hasFreeSlot,
    threeSent_tracks, by decide +kernel, ackFor (segFrame 1), by decide +kernel,
    by decide +kernel, fun hcleared => ?_⟩
  have hlast := hcleared 2 (by decide)
  revert hlast
  decide +kernel

end RdmaGateway.Processor
