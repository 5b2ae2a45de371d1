/-
  Arq/Slots.lean --- what each window operation can do to one slot.

  Every invariant of the window is about single slots and the two counters, so
  each operation gets one inversion lemma here and no later proof unfolds it
  again:

  * `arq_send_pkt` fills the slot of `send_next` and no other;
  * `arq_handle_ack` leaves a slot alone or releases it, and releases it only
    when the acknowledged PSN covers it;
  * `arq_handle_nack` changes time stamp and retry count only;
  * `arq_check_timeouts` applies `timeoutEntry`, once, to the slots it visits.
-/
import RdmaGateway.Arq.Window

set_option autoImplicit false

namespace RdmaGateway.Arq

open RdmaGateway.Foundation
open RdmaGateway.Dpdk
open RdmaGateway.Roce

variable {μ : Type}

/-- The entry in the slot of a sequence number. -/
def ArqContext.entry (arq : ArqContext μ) (i : Nat) : ArqSendEntry μ := arq.sendWindow.get i

/-- `psn_forward_dist(psn, ack) < 0x800000`: the acknowledged PSN covers `psn`. -/
def Covers (ackPsn psn : Nat) : Prop := psnForwardDist psn ackPsn < psnHalf

instance (ackPsn psn : Nat) : Decidable (Covers ackPsn psn) :=
  inferInstanceAs (Decidable (_ < _))

theorem entry_congr (arq : ArqContext μ) {i j : Nat} (h : i % windowSize = j % windowSize) :
    arq.entry i = arq.entry j :=
  Ring.get_congr h

@[simp] theorem released_psn (e : ArqSendEntry μ) : e.released.psn = e.psn := rfl
@[simp] theorem released_mbuf (e : ArqSendEntry μ) : e.released.mbuf = none := rfl
@[simp] theorem released_inFlight (e : ArqSendEntry μ) : e.released.inFlight = false := rfl
@[simp] theorem released_segmentType (e : ArqSendEntry μ) :
    e.released.segmentType = e.segmentType := rfl
@[simp] theorem released_released (e : ArqSendEntry μ) : e.released.released = e.released := rfl

@[simp] theorem freeOpt_oracle (m : Option μ) (io : Io μ) : (freeOpt m io).oracle = io.oracle := by
  cases m <;> rfl

/-- What `txKeeping` does with the buffer: a reference for the NIC, the offer, and the
reference back when the offer is refused. -/
def retransmitEvents (m : μ) (accepted : Bool) : List (Event μ) :=
  [.refcntUpdate m 1, .txBurst .wan m accepted] ++ if accepted then [] else [.refcntUpdate m (-1)]

theorem txKeeping_events (m : μ) (io : Io μ) :
    (txKeeping m io).2.trace = io.trace ++ retransmitEvents m (txKeeping m io).1 := by
  have hsplit : (txKeeping m io).2 =
      if (txKeeping m io).1 then (rteEthTxBurst .wan m (rtePktmbufRefcntUpdate m 1 io)).2
      else rtePktmbufRefcntUpdate m (-1)
        (rteEthTxBurst .wan m (rtePktmbufRefcntUpdate m 1 io)).2 := rfl
  have hacc : (rteEthTxBurst .wan m (rtePktmbufRefcntUpdate m 1 io)).1 = (txKeeping m io).1 := rfl
  rw [hsplit, retransmitEvents]
  cases h : (txKeeping m io).1 with
  | true => simp [hacc, h]
  | false => simp [hacc, h]

theorem txKeeping_oracle (m : μ) (io : Io μ) : (txKeeping m io).2.oracle = io.oracle := by
  unfold txKeeping
  dsimp only
  split <;> rfl

theorem txKeeping_tscCount (m : μ) (io : Io μ) : (txKeeping m io).2.tscCount = io.tscCount := by
  unfold txKeeping
  dsimp only
  split <;> rfl

/-! ## `arq_send_pkt` -/

theorem arqSendPkt_rejected {arq : ArqContext μ} {m : μ} {psn : Nat} {ty : WriteSegmentType}
    {io : Io μ} (h : (arq.entry arq.sendNext).inFlight = true) :
    arqSendPkt arq m psn ty io = (-1, arq, io) := by
  simp only [ArqContext.entry] at h
  simp [arqSendPkt, h]

/-- The context after an accepted send. -/
def ArqContext.sent (arq : ArqContext μ) (m : μ) (psn : Nat) (ty : WriteSegmentType)
    (now : Nat) : ArqContext μ :=
  { arq with
    sendWindow := arq.sendWindow.set arq.sendNext ⟨psn, some m, now, 0, ty, true⟩
    sendNext := add32 arq.sendNext 1
    sendMax := max arq.sendMax (sub32 (add32 arq.sendNext 1) arq.sendBase)
    totalSent := arq.totalSent + 1 }

theorem arqSendPkt_accepted {arq : ArqContext μ} {m : μ} {psn : Nat} {ty : WriteSegmentType}
    {io : Io μ} (h : (arq.entry arq.sendNext).inFlight = false) :
    arqSendPkt arq m psn ty io =
      (0, arq.sent m psn ty (rteRdtsc io).1, (rteRdtsc io).2) := by
  simp only [ArqContext.entry] at h
  simp [arqSendPkt, h, ArqContext.sent]

theorem sent_entry (arq : ArqContext μ) (m : μ) (psn : Nat) (ty : WriteSegmentType)
    (now i : Nat) :
    (arq.sent m psn ty now).entry i =
      if i % windowSize = arq.sendNext % windowSize then ⟨psn, some m, now, 0, ty, true⟩
      else arq.entry i :=
  Ring.get_set _ _ _ _

/-! ## `arq_handle_ack` -/

theorem arqPop_entry (arq : ArqContext μ) (io : Io μ) (i : Nat) :
    (arqPop arq io).1.entry i =
      if i % windowSize = arq.sendBase % windowSize then (arq.entry arq.sendBase).released
      else arq.entry i :=
  Ring.get_set _ _ _ _

@[simp] theorem arqPop_qpn (arq : ArqContext μ) (io : Io μ) : (arqPop arq io).1.qpn = arq.qpn := rfl
@[simp] theorem arqPop_sendNext (arq : ArqContext μ) (io : Io μ) :
    (arqPop arq io).1.sendNext = arq.sendNext := rfl

theorem arqAckLoop_fields (ackPsn : Nat) : ∀ (fuel : Nat) (arq : ArqContext μ) (io : Io μ),
    (arqAckLoop ackPsn fuel arq io).1.qpn = arq.qpn ∧
      (arqAckLoop ackPsn fuel arq io).1.sendNext = arq.sendNext := by
  intro fuel
  induction fuel with
  | zero => intro arq io; exact ⟨rfl, rfl⟩
  | succ fuel ih =>
    intro arq io
    rw [arqAckLoop]
    split
    · split
      · exact ⟨rfl, rfl⟩
      · exact ih (arqPop arq io).1 (arqPop arq io).2
    · exact ⟨rfl, rfl⟩

@[simp] theorem arqHandleAck_qpn (arq : ArqContext μ) (ackPsn : Nat) (io : Io μ) :
    (arqHandleAck arq ackPsn io).1.qpn = arq.qpn :=
  (arqAckLoop_fields ackPsn _ arq io).1

@[simp] theorem arqHandleAck_sendNext (arq : ArqContext μ) (ackPsn : Nat) (io : Io μ) :
    (arqHandleAck arq ackPsn io).1.sendNext = arq.sendNext :=
  (arqAckLoop_fields ackPsn _ arq io).2

theorem arqAckLoop_entry (ackPsn k : Nat) : ∀ (fuel : Nat) (arq : ArqContext μ) (io : Io μ),
    (arqAckLoop ackPsn fuel arq io).1.entry k = arq.entry k ∨
      Covers ackPsn (arq.entry k).psn ∧
        (arqAckLoop ackPsn fuel arq io).1.entry k = (arq.entry k).released := by
  intro fuel
  induction fuel with
  | zero => intro arq io; exact Or.inl rfl
  | succ fuel ih =>
    intro arq io
    rw [arqAckLoop]
    split
    · split
      · exact Or.inl rfl
      · rename_i hcov
        have hpop := arqPop_entry arq io k
        by_cases hslot : k % windowSize = arq.sendBase % windowSize
        · -- the popped slot: released now, and releasing it again changes nothing
          rw [if_pos hslot, ← entry_congr arq hslot] at hpop
          have hk : Covers ackPsn (arq.entry k).psn := by
            rw [entry_congr arq hslot]
            exact Nat.lt_of_not_ge hcov
          rcases ih (arqPop arq io).1 (arqPop arq io).2 with h | ⟨_, h⟩
          · exact Or.inr ⟨hk, h.trans hpop⟩
          · exact Or.inr ⟨hk, by rw [h, hpop, released_released]⟩
        · rw [if_neg hslot] at hpop
          rcases ih (arqPop arq io).1 (arqPop arq io).2 with h | ⟨hk, h⟩
          · exact Or.inl (h.trans hpop)
          · exact Or.inr ⟨by rwa [hpop] at hk, by rw [h, hpop]⟩
    · exact Or.inl rfl

/-- `arq_handle_ack` leaves a slot alone or releases it, and it releases only
what the acknowledged PSN covers. -/
theorem arqHandleAck_entry (arq : ArqContext μ) (ackPsn : Nat) (io : Io μ) (k : Nat) :
    (arqHandleAck arq ackPsn io).1.entry k = arq.entry k ∨
      Covers ackPsn (arq.entry k).psn ∧
        (arqHandleAck arq ackPsn io).1.entry k = (arq.entry k).released :=
  arqAckLoop_entry ackPsn k _ arq io

/-- What `arq_handle_ack` does to a window of at most 256 outstanding sequence
numbers: it releases the first `n` of them, all covered, and stops at one that is
not. -/
structure Popped (ackPsn n : Nat) (arq : ArqContext μ) (io : Io μ) (arq' : ArqContext μ)
    (io' : Io μ) : Prop where
  sendBase : arq'.sendBase = arq.sendBase + n
  sendNext : arq'.sendNext = arq.sendNext
  le_next : arq.sendBase + n ≤ arq.sendNext
  covered : ∀ i, arq.sendBase ≤ i → i < arq.sendBase + n → Covers ackPsn (arq.entry i).psn
  stops : arq.sendBase + n < arq.sendNext →
    ¬ Covers ackPsn (arq.entry (arq.sendBase + n)).psn
  released : ∀ i, arq.sendBase ≤ i → i < arq.sendBase + n →
    arq'.entry i = (arq.entry i).released
  kept : ∀ k, (∀ i, arq.sendBase ≤ i → i < arq.sendBase + n → k % windowSize ≠ i % windowSize) →
    arq'.entry k = arq.entry k
  trace : io'.trace = io.trace ++
    ((List.range' arq.sendBase n).filterMap fun i => (arq.entry i).mbuf).map Event.free

theorem Popped.none {ackPsn : Nat} {arq : ArqContext μ} {io : Io μ}
    (hle : arq.sendBase ≤ arq.sendNext)
    (hstop : arq.sendBase < arq.sendNext → ¬ Covers ackPsn (arq.entry arq.sendBase).psn) :
    Popped ackPsn 0 arq io arq io where
  sendBase := rfl
  sendNext := rfl
  le_next := hle
  covered := fun i hi hi' => absurd hi' (by omega)
  stops := hstop
  released := fun i hi hi' => absurd hi' (by omega)
  kept := fun _ _ => rfl
  trace := by simp

theorem freeOpt_trace (m : Option μ) (io : Io μ) :
    (freeOpt m io).trace = io.trace ++ m.toList.map Event.free := by
  cases m <;> simp [freeOpt]

/-- One round of the loop in front of the rounds that follow it. -/
theorem Popped.cons {ackPsn n : Nat} {arq arq' : ArqContext μ} {io io' : Io μ}
    (hlt : arq.sendBase < arq.sendNext) (hnext : arq.sendNext < 2 ^ 32)
    (hroom : arq.sendNext ≤ arq.sendBase + windowSize)
    (hcov : Covers ackPsn (arq.entry arq.sendBase).psn)
    (h : Popped ackPsn n (arqPop arq io).1 (arqPop arq io).2 arq' io') :
    Popped ackPsn (n + 1) arq io arq' io' := by
  have hbase : (arqPop arq io).1.sendBase = arq.sendBase + 1 := add32_of_lt (by omega)
  have hle := h.le_next
  have hstops := h.stops
  have hcovered := h.covered
  have hreleased := h.released
  have hkept := h.kept
  rw [hbase, arqPop_sendNext] at hle
  rw [hbase, arqPop_sendNext, Nat.add_right_comm, Nat.add_assoc] at hstops
  simp only [hbase] at hcovered hreleased hkept
  -- no other outstanding sequence number shares the slot just popped
  have hother : ∀ i, arq.sendBase < i → i < arq.sendBase + windowSize →
      (arqPop arq io).1.entry i = arq.entry i := by
    intro i hi hi'
    rw [arqPop_entry, if_neg]
    exact (Ring.mod_ne_of_lt_of_sub_lt hi (by omega)).symm
  refine ⟨by rw [h.sendBase, hbase]; omega, h.sendNext, by omega, ?_, ?_, ?_, ?_, ?_⟩
  · intro i hi hi'
    rcases Nat.eq_or_lt_of_le hi with rfl | hi
    · exact hcov
    · rw [← hother i hi (by omega)]
      exact hcovered i hi (by omega)
  · intro hmore
    rw [← hother _ (by omega) (by omega)]
    exact hstops hmore
  · intro i hi hi'
    rcases Nat.eq_or_lt_of_le hi with rfl | hi
    · rw [hkept, arqPop_entry, if_pos rfl]
      intro j hj hj'
      exact Ring.mod_ne_of_lt_of_sub_lt (by omega) (by omega)
    · rw [hreleased i hi (by omega), hother i hi (by omega)]
  · intro k hk
    rw [hkept k fun i hi hi' => hk i (by omega) (by omega), arqPop_entry,
      if_neg (hk _ le_rfl (by omega))]
  · have hmap : (List.range' (arq.sendBase + 1) n).filterMap
          (fun i => ((arqPop arq io).1.entry i).mbuf) =
        (List.range' (arq.sendBase + 1) n).filterMap fun i => (arq.entry i).mbuf := by
      apply List.filterMap_congr
      intro i hi
      rw [List.mem_range'_1] at hi
      rw [hother i (by omega) (by omega)]
    have hfree : (arqPop arq io).2.trace =
        io.trace ++ (arq.entry arq.sendBase).mbuf.toList.map Event.free := freeOpt_trace _ _
    rw [h.trace, hbase, hmap, hfree, List.range'_succ, List.filterMap_cons]
    cases (arq.entry arq.sendBase).mbuf <;> simp

theorem arqAckLoop_popped (ackPsn : Nat) : ∀ (fuel : Nat) (arq : ArqContext μ) (io : Io μ),
    arq.sendNext = arq.sendBase + fuel → arq.sendNext < 2 ^ 32 → fuel ≤ windowSize →
    ∃ n, Popped ackPsn n arq io (arqAckLoop ackPsn fuel arq io).1
      (arqAckLoop ackPsn fuel arq io).2 := by
  intro fuel
  induction fuel with
  | zero =>
    intro arq io hnext _ _
    exact ⟨0, .none (by omega) fun h => absurd h (by omega)⟩
  | succ fuel ih =>
    intro arq io hnext hlt hfuel
    rw [arqAckLoop, if_pos (by omega)]
    split
    · rename_i hfar
      exact ⟨0, .none (by omega) fun _ => Nat.not_lt.mpr hfar⟩
    · rename_i hcov
      have hbase : (arqPop arq io).1.sendBase = arq.sendBase + 1 := add32_of_lt (by omega)
      obtain ⟨n, hn⟩ := ih (arqPop arq io).1 (arqPop arq io).2
        (by rw [arqPop_sendNext, hbase]; omega) hlt (by omega)
      exact ⟨n + 1, hn.cons (by omega) hlt (by omega) (Nat.lt_of_not_ge hcov)⟩

/-- `arq_handle_ack` does nothing when its loop test fails at once: the window is
empty, or `send_next` has wrapped past `send_base`. -/
theorem arqHandleAck_empty {arq : ArqContext μ} (h : arq.sendNext ≤ arq.sendBase) (ackPsn : Nat)
    (io : Io μ) : arqHandleAck arq ackPsn io = (arq, io) := by
  rw [arqHandleAck, Nat.sub_eq_zero_of_le h]
  rfl

/-- `arq_handle_ack` releases an initial part of the window. -/
theorem arqHandleAck_popped {arq : ArqContext μ} (ackPsn : Nat) (io : Io μ)
    (hle : arq.sendBase ≤ arq.sendNext) (hlt : arq.sendNext < 2 ^ 32)
    (hroom : arq.sendNext ≤ arq.sendBase + windowSize) :
    ∃ n, Popped ackPsn n arq io (arqHandleAck arq ackPsn io).1 (arqHandleAck arq ackPsn io).2 :=
  arqAckLoop_popped ackPsn _ arq io (by omega) hlt (by omega)

/-! ## `arq_handle_nack` -/

/-- The context after the selection of sequence number `i`. -/
def ArqContext.selected (arq : ArqContext μ) (i now : Nat) : ArqContext μ :=
  { arq with
    sendWindow := arq.sendWindow.set i
      { arq.entry i with sendTime := now, retryCount := inc8 (arq.entry i).retryCount }
    totalRetransmit := arq.totalRetransmit + 1 }

theorem selected_entry (arq : ArqContext μ) (i now k : Nat) :
    (arq.selected i now).entry k =
      if k % windowSize = i % windowSize
      then { arq.entry k with sendTime := now, retryCount := inc8 (arq.entry k).retryCount }
      else arq.entry k := by
  apply (Ring.get_set _ _ _ _).trans
  split
  · rename_i hslot
    rw [entry_congr arq hslot]
  · rfl

/-- The condition under which a round of the selection selects its entry. -/
def NackScan.Selects (s : NackScan μ) (nackPsn i : Nat) : Prop :=
  s.retransIdx.length < maxRetxBurst ∧ Covers nackPsn (s.arq.entry i).psn

theorem arqNackSelect_of_selects {nackPsn : Nat} {s : NackScan μ} {i : Nat}
    (h : s.Selects nackPsn i) : arqNackSelect nackPsn s i =
      ⟨s.arq.selected i (rteRdtsc s.io).1, (rteRdtsc s.io).2, s.retransIdx ++ [i % windowSize]⟩ :=
  if_pos h

theorem arqNackSelect_of_not_selects {nackPsn : Nat} {s : NackScan μ} {i : Nat}
    (h : ¬ s.Selects nackPsn i) : arqNackSelect nackPsn s i = s :=
  if_neg h

/-- A round of the selection leaves everything alone, or selects its entry. -/
theorem arqNackSelect_cases (nackPsn : Nat) (s : NackScan μ) (i : Nat) :
    arqNackSelect nackPsn s i = s ∨ arqNackSelect nackPsn s i =
      ⟨s.arq.selected i (rteRdtsc s.io).1, (rteRdtsc s.io).2,
        s.retransIdx ++ [i % windowSize]⟩ := by
  rcases Classical.em (s.Selects nackPsn i) with h | h
  · exact Or.inr (arqNackSelect_of_selects h)
  · exact Or.inl (arqNackSelect_of_not_selects h)

/-- Two contexts differ only in time stamps, retry counts and the retransmit
total. -/
structure SameWindow (arq arq' : ArqContext μ) : Prop where
  qpn : arq'.qpn = arq.qpn
  sendBase : arq'.sendBase = arq.sendBase
  sendNext : arq'.sendNext = arq.sendNext
  entry : ∀ k, ∃ t r, arq'.entry k = { arq.entry k with sendTime := t, retryCount := r }

theorem SameWindow.refl (arq : ArqContext μ) : SameWindow arq arq :=
  ⟨rfl, rfl, rfl, fun _ => ⟨_, _, rfl⟩⟩

theorem SameWindow.trans {a b c : ArqContext μ} (hab : SameWindow a b) (hbc : SameWindow b c) :
    SameWindow a c := by
  refine ⟨hbc.qpn.trans hab.qpn, hbc.sendBase.trans hab.sendBase,
    hbc.sendNext.trans hab.sendNext, fun k => ?_⟩
  obtain ⟨t, r, hb⟩ := hab.entry k
  obtain ⟨t', r', hc⟩ := hbc.entry k
  exact ⟨t', r', by rw [hc, hb]⟩

theorem arqNackSelect_sameWindow (nackPsn : Nat) (s : NackScan μ) (i : Nat) :
    SameWindow s.arq (arqNackSelect nackPsn s i).arq := by
  rcases arqNackSelect_cases nackPsn s i with hs | hs
  · rw [hs]
    exact .refl _
  · rw [hs]
    refine ⟨rfl, rfl, rfl, fun k => ?_⟩
    rw [selected_entry]
    split
    · exact ⟨_, _, rfl⟩
    · exact ⟨(s.arq.entry k).sendTime, (s.arq.entry k).retryCount, rfl⟩

theorem arqNackScan_sameWindow (nackPsn : Nat) (is : List Nat) :
    ∀ s : NackScan μ, SameWindow s.arq (is.foldl (arqNackSelect nackPsn) s).arq := by
  induction is with
  | nil => intro s; exact .refl _
  | cons i is ih =>
    intro s
    exact (arqNackSelect_sameWindow nackPsn s i).trans (ih (arqNackSelect nackPsn s i))

/-- The selection reads the clock and does nothing else. -/
theorem arqNackScan_trace (nackPsn : Nat) (is : List Nat) :
    ∀ s : NackScan μ, (is.foldl (arqNackSelect nackPsn) s).io.trace = s.io.trace := by
  induction is with
  | nil => intro s; rfl
  | cons i is ih =>
    intro s
    rw [List.foldl_cons, ih]
    rcases arqNackSelect_cases nackPsn s i with hs | hs
    · rw [hs]
    · rw [hs]
      exact rteRdtsc_trace s.io

/-- `arq_handle_nack` changes time stamps and retry counts only. -/
theorem arqHandleNack_sameWindow (arq : ArqContext μ) (nackPsn : Nat) (io : Io μ) :
    SameWindow arq (arqHandleNack arq nackPsn io).2.1 :=
  arqNackScan_sameWindow nackPsn arq.seqs ⟨arq, io, []⟩

/-! ## `arq_check_timeouts` -/

/-- A slot that `arq_check_timeouts` has visited needs no second visit in the
same call: its time stamp is now the current time, or it is no longer in flight. -/
theorem timeoutEntry_idem (now timeout : Nat) (e : ArqSendEntry μ) :
    timeoutEntry now timeout (timeoutEntry now timeout e) = timeoutEntry now timeout e := by
  have hself : sub64 now now = 0 := by unfold sub64; omega
  by_cases h : (e.inFlight && decide (timeout < sub64 now e.sendTime)) = true
  · by_cases hr : e.retryCount < maxRetryCount
    · have hone : timeoutEntry now timeout e =
          { e with sendTime := now, retryCount := inc8 e.retryCount } := by
        simp [timeoutEntry, h, hr]
      rw [hone]
      simp [timeoutEntry, hself]
    · have hone : timeoutEntry now timeout e = e.released := by
        simp [timeoutEntry, h, hr]
      rw [hone]
      simp [timeoutEntry]
  · simp [timeoutEntry, h]

theorem arqTimeoutVisit_fields (now timeout i : Nat) (arq : ArqContext μ) (io : Io μ) :
    (arqTimeoutVisit now timeout (arq, io) i).1.qpn = arq.qpn ∧
      (arqTimeoutVisit now timeout (arq, io) i).1.sendBase = arq.sendBase ∧
      (arqTimeoutVisit now timeout (arq, io) i).1.sendNext = arq.sendNext := by
  unfold arqTimeoutVisit
  dsimp only
  split
  · split <;> exact ⟨rfl, rfl, rfl⟩
  · exact ⟨rfl, rfl, rfl⟩

theorem arqTimeoutVisit_entry (now timeout i k : Nat) (arq : ArqContext μ) (io : Io μ) :
    (arqTimeoutVisit now timeout (arq, io) i).1.entry k =
      if k % windowSize = i % windowSize then timeoutEntry now timeout (arq.entry k)
      else arq.entry k := by
  unfold arqTimeoutVisit
  dsimp only
  have hset : (arq.sendWindow.set i (timeoutEntry now timeout (arq.sendWindow.get i))).get k =
      if k % windowSize = i % windowSize then timeoutEntry now timeout (arq.entry k)
      else arq.entry k := by
    rw [Ring.get_set]
    split
    · rename_i hk
      rw [entry_congr arq hk]
      rfl
    · rfl
  split
  · split <;> exact hset
  · rename_i hskip
    have hsame : timeoutEntry now timeout (arq.sendWindow.get i) = arq.sendWindow.get i := by
      simp [timeoutEntry, hskip]
    split
    · rename_i hk
      rw [entry_congr arq hk, ArqContext.entry, hsame]
    · rfl

theorem arqTimeoutFold_spec (now timeout : Nat) (is : List Nat) :
    ∀ (arq : ArqContext μ) (io : Io μ),
      (is.foldl (arqTimeoutVisit now timeout) (arq, io)).1.qpn = arq.qpn ∧
      (is.foldl (arqTimeoutVisit now timeout) (arq, io)).1.sendBase = arq.sendBase ∧
      (is.foldl (arqTimeoutVisit now timeout) (arq, io)).1.sendNext = arq.sendNext ∧
      ∀ k, (is.foldl (arqTimeoutVisit now timeout) (arq, io)).1.entry k =
        if ∃ i ∈ is, k % windowSize = i % windowSize then timeoutEntry now timeout (arq.entry k)
        else arq.entry k := by
  induction is with
  | nil => intro arq io; simp
  | cons i is ih =>
    intro arq io
    rw [List.foldl_cons]
    obtain ⟨hqpn, hbase, hnext⟩ := arqTimeoutVisit_fields now timeout i arq io
    obtain ⟨ihqpn, ihbase, ihnext, ihentry⟩ := ih (arqTimeoutVisit now timeout (arq, io) i).1
      (arqTimeoutVisit now timeout (arq, io) i).2
    refine ⟨ihqpn.trans hqpn, ihbase.trans hbase, ihnext.trans hnext, fun k => ?_⟩
    rw [ihentry k, arqTimeoutVisit_entry]
    by_cases hi : k % windowSize = i % windowSize
    · simp only [hi, if_true, List.mem_cons, exists_eq_or_imp, true_or, timeoutEntry_idem]
      split <;> rfl
    · simp only [hi, if_false, List.mem_cons, exists_eq_or_imp, false_or]

/-- The clock reading and the timeout one call of `arq_check_timeouts` uses. -/
def tickNow (io : Io μ) : Nat := (rteRdtsc io).1

/-- `arq_check_timeouts` applies `timeoutEntry` once to every slot between
`send_base` and `send_next`, and changes no other slot and neither counter. -/
theorem arqCheckTimeouts_spec (arq : ArqContext μ) (io : Io μ) :
    (arqCheckTimeouts arq io).1.qpn = arq.qpn ∧
    (arqCheckTimeouts arq io).1.sendBase = arq.sendBase ∧
    (arqCheckTimeouts arq io).1.sendNext = arq.sendNext ∧
    ∀ k, (arqCheckTimeouts arq io).1.entry k =
      if ∃ i ∈ arq.seqs, k % windowSize = i % windowSize
      then timeoutEntry (tickNow io) (timeoutCycles io) (arq.entry k) else arq.entry k :=
  arqTimeoutFold_spec (tickNow io) (timeoutCycles io) arq.seqs arq (rteRdtsc io).2

/-- The retry budget of an entry is used up at time `now`. -/
def ArqSendEntry.Exhausted (e : ArqSendEntry μ) (now timeout : Nat) : Prop :=
  e.inFlight = true ∧ timeout < sub64 now e.sendTime ∧ maxRetryCount ≤ e.retryCount

/-- A visit keeps the packet of an entry or drops it for retry exhaustion. -/
theorem timeoutEntry_cases (now timeout : Nat) (e : ArqSendEntry μ) :
    (∃ t r, timeoutEntry now timeout e = { e with sendTime := t, retryCount := r }) ∨
      (e.Exhausted now timeout ∧ timeoutEntry now timeout e = e.released) := by
  unfold timeoutEntry
  split
  · rename_i h
    simp only [Bool.and_eq_true, decide_eq_true_eq] at h
    split
    · exact Or.inl ⟨_, _, rfl⟩
    · exact Or.inr ⟨⟨h.1, h.2, by omega⟩, rfl⟩
  · exact Or.inl ⟨_, _, rfl⟩

end RdmaGateway.Arq
