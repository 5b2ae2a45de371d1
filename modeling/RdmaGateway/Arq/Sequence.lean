/-
  Arq/Sequence.lean --- sequence numbers and slots over whole runs of one window.

  A run interleaves `arq_send_pkt`, `arq_handle_ack`, `arq_handle_nack` and
  `arq_check_timeouts` on one context.  Next to the context it keeps the list of
  accepted packets: the packet accepted under sequence number `i` is entry `i` of
  that list, as long as fewer than `2^32` were accepted.

  Admission looks at the `in_flight` bit of one slot only.  That bit is cleared
  by `arq_handle_ack`, which also advances `send_base`, and by retry exhaustion,
  which does not; so a full window whose oldest entry was dropped admits a packet
  it has no room for.  `window_holds_iff` says that nothing else breaks the
  window.
-/
import RdmaGateway.Foundation.Run
import RdmaGateway.Arq.Slots

set_option autoImplicit false

namespace RdmaGateway.Arq

open RdmaGateway.Foundation
open RdmaGateway.Dpdk
open RdmaGateway.Roce

variable {μ : Type}

/-- The operations on one context. -/
inductive ArqOp (μ : Type) where
  | send (m : μ) (psn : Nat) (segmentType : WriteSegmentType)
  | ack (psn : Nat)
  | nack (psn : Nat)
  | timeouts

/-- A context in the course of a run, with the packets accepted so far. -/
structure ArqRun (μ : Type) where
  arq : ArqContext μ
  io : Io μ
  accepted : List (μ × Nat × WriteSegmentType)

/-- A fresh context. -/
def ArqRun.start (qpn : Nat) (io : Io μ) : ArqRun μ := ⟨.fresh qpn, io, []⟩

/-- One operation. -/
def arqStep (s : ArqRun μ) : ArqOp μ → ArqRun μ
  | .send m psn ty =>
    let (rc, arq, io) := arqSendPkt s.arq m psn ty s.io
    ⟨arq, io, if rc = 0 then s.accepted ++ [(m, psn, ty)] else s.accepted⟩
  | .ack psn =>
    let (arq, io) := arqHandleAck s.arq psn s.io
    ⟨arq, io, s.accepted⟩
  | .nack psn =>
    let (_, arq, io) := arqHandleNack s.arq psn s.io
    ⟨arq, io, s.accepted⟩
  | .timeouts =>
    let (arq, io) := arqCheckTimeouts s.arq s.io
    ⟨arq, io, s.accepted⟩

theorem arqStep_send_accepted {s : ArqRun μ} {m : μ} {psn : Nat} {ty : WriteSegmentType}
    (h : (s.arq.entry s.arq.sendNext).inFlight = false) :
    arqStep s (.send m psn ty) =
      ⟨s.arq.sent m psn ty (rteRdtsc s.io).1, (rteRdtsc s.io).2,
        s.accepted ++ [(m, psn, ty)]⟩ := by
  simp [arqStep, arqSendPkt_accepted h]

theorem arqStep_send_rejected {s : ArqRun μ} {m : μ} {psn : Nat} {ty : WriteSegmentType}
    (h : (s.arq.entry s.arq.sendNext).inFlight = true) : arqStep s (.send m psn ty) = s := by
  simp [arqStep, arqSendPkt_rejected h]

/-- The accepted packets only grow. -/
theorem accepted_le_step (s : ArqRun μ) (op : ArqOp μ) :
    s.accepted.length ≤ (arqStep s op).accepted.length := by
  cases op with
  | send m psn ty =>
    cases h : (s.arq.entry s.arq.sendNext).inFlight with
    | false => simp [arqStep_send_accepted h]
    | true => simp [arqStep_send_rejected h]
  | ack psn => exact le_rfl
  | nack psn => exact le_rfl
  | timeouts => exact le_rfl

theorem accepted_le_run (ops : List (ArqOp μ)) :
    ∀ s : ArqRun μ, s.accepted.length ≤ (run arqStep s ops).accepted.length := by
  induction ops with
  | nil => intro s; exact le_rfl
  | cons op ops ih => intro s; exact (accepted_le_step s op).trans (ih (arqStep s op))

/-! ## The window invariant -/

/-- The slot of sequence number `i` holds the packet accepted under `i`: it
carries that packet's PSN and type, and its buffer unless it was released. -/
def HoldsAccepted (s : ArqRun μ) (i : Nat) : Prop :=
  ∃ m psn ty, s.accepted[i]? = some (m, psn, ty) ∧ (s.arq.entry i).psn = psn ∧
    (s.arq.entry i).segmentType = ty ∧
    (s.arq.entry i).mbuf = if (s.arq.entry i).inFlight then some m else none

/-- The window invariant: no more than 256 sequence numbers are outstanding,
distinct ones occupy distinct slots, and each slot still holds its own packet. -/
structure WindowHolds (s : ArqRun μ) : Prop where
  span : sub32 s.arq.sendNext s.arq.sendBase ≤ windowSize
  slots : ∀ i j, s.arq.sendBase ≤ i → i < j → j < s.arq.sendNext →
    i % windowSize ≠ j % windowSize
  holds : ∀ i, s.arq.sendBase ≤ i → i < s.arq.sendNext → HoldsAccepted s i

/-- The counters of a run with fewer than `2^32` accepted packets, and the
invariant in terms of them. -/
structure SeqInv (s : ArqRun μ) : Prop where
  next_eq : s.arq.sendNext = s.accepted.length
  base_le : s.arq.sendBase ≤ s.arq.sendNext
  next_le : s.arq.sendNext ≤ s.arq.sendBase + windowSize
  holds : ∀ i, s.arq.sendBase ≤ i → i < s.arq.sendNext → HoldsAccepted s i

/-- A send on a window that spans 256 sequence numbers finds the oldest entry
still in flight: it was not dropped by retry exhaustion. -/
def OldestHeld (s : ArqRun μ) : ArqOp μ → Prop
  | .send _ _ _ => sub32 s.arq.sendNext s.arq.sendBase = windowSize →
      (s.arq.entry s.arq.sendBase).inFlight = true
  | _ => True

theorem SeqInv.windowHolds {s : ArqRun μ} (h : SeqInv s) (hlen : s.accepted.length < 2 ^ 32) :
    WindowHolds s := by
  have hnext := h.next_eq
  have hbase := h.base_le
  have hle := h.next_le
  refine ⟨?_, ?_, h.holds⟩
  · rw [sub32_of_le (by omega) hbase]
    omega
  · intro i j hi hij hj
    exact Ring.mod_ne_of_lt_of_sub_lt hij (by omega)

theorem seqInv_start (qpn : Nat) (io : Io μ) : SeqInv (ArqRun.start qpn io) where
  next_eq := rfl
  base_le := le_rfl
  next_le := Nat.zero_le _
  holds := fun i _ hi => absurd hi (Nat.not_lt_zero i)

/-- An operation that keeps the accepted packets and the counter `send_next`,
moves `send_base` forward at most, and leaves every outstanding slot its packet
or releases it, keeps the invariant. -/
theorem SeqInv.of_slots {s t : ArqRun μ} (h : SeqInv s) (hacc : t.accepted = s.accepted)
    (hnext : t.arq.sendNext = s.arq.sendNext) (hbase : s.arq.sendBase ≤ t.arq.sendBase)
    (hbase' : t.arq.sendBase ≤ t.arq.sendNext)
    (hentry : ∀ i, (t.arq.entry i).psn = (s.arq.entry i).psn ∧
      (t.arq.entry i).segmentType = (s.arq.entry i).segmentType ∧
      ((t.arq.entry i).mbuf = (s.arq.entry i).mbuf ∧
          (t.arq.entry i).inFlight = (s.arq.entry i).inFlight ∨
        (t.arq.entry i).mbuf = none ∧ (t.arq.entry i).inFlight = false)) : SeqInv t := by
  have hle := h.next_le
  refine ⟨by rw [hnext, hacc, h.next_eq], hbase', by omega, fun i hi hi' => ?_⟩
  obtain ⟨m, psn, ty, hget, hpsn, hty, hmbuf⟩ := h.holds i (by omega) (by omega)
  obtain ⟨hpsn', hty', hm⟩ := hentry i
  refine ⟨m, psn, ty, by rw [hacc, hget], hpsn'.trans hpsn, hty'.trans hty, ?_⟩
  rcases hm with ⟨hm, hf⟩ | ⟨hm, hf⟩
  · rw [hm, hf, hmbuf]
  · rw [hm, hf]
    rfl

/-- An accepted send extends the window by one slot that no outstanding sequence
number occupies. -/
theorem SeqInv.send {s : ArqRun μ} (h : SeqInv s) {m : μ} {psn : Nat} {ty : WriteSegmentType}
    (hfits : OldestHeld s (.send m psn ty)) (hlen : s.accepted.length + 1 < 2 ^ 32)
    (hfree : (s.arq.entry s.arq.sendNext).inFlight = false) :
    SeqInv (arqStep s (.send m psn ty)) := by
  have hnext := h.next_eq
  have hbase := h.base_le
  have hle := h.next_le
  -- a full window would have its oldest entry in the slot just found free
  have hroom : s.arq.sendNext < s.arq.sendBase + windowSize := by
    by_contra hfull
    have hspan : sub32 s.arq.sendNext s.arq.sendBase = windowSize := by
      rw [sub32_of_le (by omega) hbase]
      omega
    have hsame : s.arq.entry s.arq.sendNext = s.arq.entry s.arq.sendBase :=
      entry_congr s.arq (by
        rw [show s.arq.sendNext = s.arq.sendBase + windowSize by omega, Nat.add_mod_right])
    rw [hsame, hfits hspan] at hfree
    cases hfree
  have hinc : add32 s.arq.sendNext 1 = s.arq.sendNext + 1 := add32_of_lt (by omega)
  rw [arqStep_send_accepted hfree]
  have hbase' : (s.arq.sent m psn ty (rteRdtsc s.io).1).sendBase = s.arq.sendBase := rfl
  have hnext' : (s.arq.sent m psn ty (rteRdtsc s.io).1).sendNext = s.arq.sendNext + 1 := hinc
  refine ⟨?_, ?_, ?_, fun i hi hi' => ?_⟩
  · simp only [hnext', List.length_append, List.length_singleton]
    omega
  · simp only [hbase', hnext']
    omega
  · simp only [hbase', hnext']
    omega
  · simp only [hbase', hnext'] at hi hi'
    unfold HoldsAccepted
    by_cases hi : i = s.arq.sendNext
    · subst hi
      refine ⟨m, psn, ty, ?_, ?_⟩
      · rw [hnext, List.getElem?_append_right le_rfl]
        simp
      · simp [sent_entry]
    · obtain ⟨m', psn', ty', hget, hrest⟩ := h.holds i (by omega) (by omega)
      refine ⟨m', psn', ty', ?_, ?_⟩
      · rw [List.getElem?_append_left (by omega), hget]
      · rwa [sent_entry, if_neg (Ring.mod_ne_of_lt_of_sub_lt (by omega) (by omega))]

/-- Every operation that meets the condition keeps the invariant. -/
theorem SeqInv.step {s : ArqRun μ} {op : ArqOp μ} (h : SeqInv s) (hfits : OldestHeld s op)
    (hlen : (arqStep s op).accepted.length < 2 ^ 32) : SeqInv (arqStep s op) := by
  have hnext := h.next_eq
  cases op with
  | send m psn ty =>
    cases hslot : (s.arq.entry s.arq.sendNext).inFlight with
    | true => rwa [arqStep_send_rejected hslot]
    | false =>
      rw [arqStep_send_accepted hslot] at hlen
      exact h.send hfits (by simpa using hlen) hslot
  | ack psn =>
    have hlen' : s.accepted.length < 2 ^ 32 := hlen
    obtain ⟨n, hpop⟩ := arqHandleAck_popped psn s.io h.base_le (by omega) h.next_le
    refine h.of_slots rfl hpop.sendNext (hpop.sendBase ▸ Nat.le_add_right _ _)
      ((hpop.sendBase ▸ hpop.le_next).trans hpop.sendNext.ge) fun i => ?_
    rcases arqHandleAck_entry s.arq psn s.io i with he | ⟨_, he⟩
    · simp [arqStep, he]
    · simp [arqStep, he]
  | nack psn =>
    have hsame := arqHandleNack_sameWindow s.arq psn s.io
    refine h.of_slots rfl hsame.sendNext hsame.sendBase.ge
      (hsame.sendBase.le.trans (h.base_le.trans hsame.sendNext.ge)) fun i => ?_
    obtain ⟨t, r, he⟩ := hsame.entry i
    simp [arqStep, he]
  | timeouts =>
    obtain ⟨_, hb, hn, he⟩ := arqCheckTimeouts_spec s.arq s.io
    refine h.of_slots rfl hn hb.ge (hb.le.trans (h.base_le.trans hn.ge)) fun i => ?_
    simp only [arqStep, he i]
    split
    · rcases timeoutEntry_cases (tickNow s.io) (timeoutCycles s.io) (s.arq.entry i) with
        ⟨t, r, hr⟩ | ⟨_, hr⟩
      · simp [hr]
      · simp [hr]
    · simp

/-- A run that meets the condition at every step keeps the invariant. -/
theorem seqInv_run {ops : List (ArqOp μ)} : ∀ {s : ArqRun μ}, SeqInv s →
    StepsMeet arqStep OldestHeld s ops → (run arqStep s ops).accepted.length < 2 ^ 32 →
    SeqInv (run arqStep s ops) := by
  induction ops with
  | nil => intro s h _ _; exact h
  | cons op ops ih =>
    intro s h hmeet hlen
    have hstep : (arqStep s op).accepted.length < 2 ^ 32 :=
      (accepted_le_run ops (arqStep s op)).trans_lt hlen
    exact ih (h.step hmeet.1 hstep) hmeet.2 hlen

/-- A send that finds a full window with its oldest entry dropped is accepted and
makes the window span 257 sequence numbers. -/
theorem SeqInv.oldestHeld {s : ArqRun μ} {op : ArqOp μ} (h : SeqInv s)
    (hlen : (arqStep s op).accepted.length < 2 ^ 32) (hafter : WindowHolds (arqStep s op)) :
    OldestHeld s op := by
  cases op with
  | send m psn ty =>
    intro hspan
    by_contra hdropped
    have hnext := h.next_eq
    have hbase := h.base_le
    have hacc := accepted_le_step s (.send m psn ty)
    rw [sub32_of_le (by omega) hbase] at hspan
    have hsame : s.arq.entry s.arq.sendNext = s.arq.entry s.arq.sendBase :=
      entry_congr s.arq (by
        rw [show s.arq.sendNext = s.arq.sendBase + windowSize by omega, Nat.add_mod_right])
    have hfree : (s.arq.entry s.arq.sendNext).inFlight = false := by
      rw [hsame]
      simpa using hdropped
    rw [arqStep_send_accepted hfree] at hlen hafter
    simp only [List.length_append, List.length_singleton] at hlen
    have hspan' := hafter.span
    have hinc : (s.arq.sent m psn ty (rteRdtsc s.io).1).sendNext = s.arq.sendNext + 1 :=
      add32_of_lt (by omega)
    have hbase' : (s.arq.sent m psn ty (rteRdtsc s.io).1).sendBase = s.arq.sendBase := rfl
    simp only [hinc, hbase', sub32_of_le (show s.arq.sendNext + 1 < 4294967296 by omega)
      (show s.arq.sendBase ≤ s.arq.sendNext + 1 by omega)] at hspan'
    omega
  | ack psn => trivial
  | nack psn => trivial
  | timeouts => trivial

theorem stepsMeet_of_windowHolds {ops : List (ArqOp μ)} : ∀ {s : ArqRun μ}, SeqInv s →
    (run arqStep s ops).accepted.length < 2 ^ 32 →
    (∀ before after, ops = before ++ after → WindowHolds (run arqStep s before)) →
    StepsMeet arqStep OldestHeld s ops := by
  induction ops with
  | nil => intro s _ _ _; trivial
  | cons op ops ih =>
    intro s h hlen hholds
    have hstep : (arqStep s op).accepted.length < 2 ^ 32 :=
      (accepted_le_run ops (arqStep s op)).trans_lt hlen
    have hheld := h.oldestHeld hstep (hholds [op] ops rfl)
    exact ⟨hheld, ih (h.step hheld hstep) hlen fun before after hops =>
      hholds (op :: before) after (by rw [hops]; rfl)⟩

/-- The context is reached from a fresh one by a run that meets the condition. -/
def ReachedHeld (arq : ArqContext μ) : Prop :=
  ∃ qpn io ops, (run arqStep (.start qpn io) ops).accepted.length < 2 ^ 32 ∧
    StepsMeet arqStep OldestHeld (.start qpn io) ops ∧
    (run arqStep (.start qpn io) ops).arq = arq

theorem calculateArqWindowUsage_le {mgr : ArqManager μ}
    (h : ∀ i, sub32 (mgr.contexts i).sendNext (mgr.contexts i).sendBase ≤ windowSize) :
    calculateArqWindowUsage mgr ≤ maxQpCtx * windowSize := by
  have hfold : ∀ (is : List (Fin maxQpCtx)) (used : Nat),
      is.foldl (fun used i =>
        if (mgr.contexts i).qpn ≠ 0
        then add32 used (sub32 (mgr.contexts i).sendNext (mgr.contexts i).sendBase)
        else used) used ≤ used + is.length * windowSize := by
    intro is
    induction is with
    | nil => intro used; simp
    | cons i is ih =>
      intro used
      have hi := h i
      have hadd : add32 used (sub32 (mgr.contexts i).sendNext (mgr.contexts i).sendBase) ≤
          used + windowSize := (Nat.mod_le _ _).trans (by omega)
      rw [List.foldl_cons, List.length_cons, Nat.succ_mul]
      split
      · exact (ih _).trans (by omega)
      · exact (ih _).trans (by omega)
  have htotal := hfold (Table.slots maxQpCtx) 0
  rw [Table.length_slots, Nat.zero_add] at htotal
  exact htotal

/-- The window invariant holds throughout a run exactly when no send of the run
meets a full window whose oldest entry was dropped; and as long as every context
of a manager is reached that way, the usage that the congestion check computes
stays within the buffers there are. -/
theorem window_holds_iff :
    (∀ (qpn : Nat) (io : Io μ) (ops : List (ArqOp μ)),
      (run arqStep (.start qpn io) ops).accepted.length < 2 ^ 32 →
      ((∀ before after, ops = before ++ after →
          WindowHolds (run arqStep (.start qpn io) before)) ↔
        StepsMeet arqStep OldestHeld (.start qpn io) ops)) ∧
    ∀ mgr : ArqManager μ, (∀ i, ReachedHeld (mgr.contexts i)) →
      calculateArqWindowUsage mgr ≤ maxQpCtx * windowSize := by
  refine ⟨fun qpn io ops hlen => ⟨?_, ?_⟩, fun mgr hmgr => ?_⟩
  · exact stepsMeet_of_windowHolds (seqInv_start qpn io) hlen
  · intro hmeet before after hops
    subst hops
    rw [run_append] at hlen
    have hbefore : (run arqStep (.start qpn io) before).accepted.length < 2 ^ 32 :=
      (accepted_le_run after _).trans_lt hlen
    exact (seqInv_run (seqInv_start qpn io) (stepsMeet_append.mp hmeet).1 hbefore).windowHolds
      hbefore
  · refine calculateArqWindowUsage_le fun i => ?_
    obtain ⟨qpn, io, ops, hlen, hmeet, hreach⟩ := hmgr i
    have hspan := ((seqInv_run (seqInv_start qpn io) hmeet hlen).windowHolds hlen).span
    rwa [hreach] at hspan

/-- One packet sent and acknowledged, on every context: the run meets the
condition, the invariant holds at its end, and the usage is within bounds. -/
theorem window_holds_send_ack :
    WindowHolds (run arqStep (.start 7 (.start (.accepting none))) [.send 1 5 .only, .ack 5]) ∧
    calculateArqWindowUsage ⟨fun _ => (run arqStep (.start 7 (.start (.accepting none)))
      [.send 1 5 .only, .ack 5]).arq⟩ ≤ maxQpCtx * windowSize := by
  have hlen : (run arqStep (.start 7 (.start (.accepting none)))
      [.send 1 5 .only, .ack 5]).accepted.length < 2 ^ 32 := by decide +kernel
  have hmeet : StepsMeet arqStep OldestHeld (.start 7 (.start (.accepting none)))
      [.send 1 5 .only, .ack 5] := by
    refine ⟨fun hspan => ?_, trivial, trivial⟩
    exact absurd hspan (by decide +kernel)
  exact ⟨((window_holds_iff.1 _ _ _ hlen).mpr hmeet) _ [] (by simp),
    window_holds_iff.2 _ fun _ => ⟨_, _, _, hlen, hmeet, rfl⟩⟩

/-- One packet dropped after its three retries, and then 256 more sends: the
last of them reuses the slot of the dropped packet while `send_base` still points
at it, and the window spans 257 sequence numbers. -/
def overfullRun : List (ArqOp Nat) :=
  .send 0 0 .only :: (List.replicate 4 .timeouts ++
    (List.range 256).map fun i => .send (i + 1) (i + 1) .only)

theorem window_spans_257 :
    (run arqStep (.start 7 (.start (.accepting none))) overfullRun).accepted.length = 257 ∧
    sub32 (run arqStep (.start 7 (.start (.accepting none))) overfullRun).arq.sendNext
      (run arqStep (.start 7 (.start (.accepting none))) overfullRun).arq.sendBase = 257 ∧
    ¬ WindowHolds (run arqStep (.start 7 (.start (.accepting none))) overfullRun) := by
  have hcounts : (run arqStep (.start 7 (.start (.accepting none))) overfullRun).accepted.length =
      257 ∧
      sub32 (run arqStep (.start 7 (.start (.accepting none))) overfullRun).arq.sendNext
        (run arqStep (.start 7 (.start (.accepting none))) overfullRun).arq.sendBase = 257 := by
    decide +kernel
  refine ⟨hcounts.1, hcounts.2, fun h => ?_⟩
  have hle := h.span
  rw [hcounts.2] at hle
  exact absurd hle (by decide)

end RdmaGateway.Arq
