/-
  Arq/Counters.lean --- what the totals of a window count.

  `arq_send_pkt` counts a packet as sent, `arq_check_timeouts` counts it as timed out
  when it drops it, and `arq_handle_ack` counts every entry that `send_base` passes as
  acknowledged.  That loop looks at the buffer of an entry and not at `in_flight`: an
  entry that was dropped before is counted a second time.  No other operation unbalances
  the totals, so they balance exactly in the runs in which every acknowledgement passes
  entries in flight only (`counters_conserved_iff`).
-/
import RdmaGateway.Foundation.Ledger
import RdmaGateway.Arq.Sequence

set_option autoImplicit false

namespace RdmaGateway.Arq

open RdmaGateway.Foundation
open RdmaGateway.Dpdk
open RdmaGateway.Roce

variable {μ : Type}

/-- The number of slots with `in_flight` set. -/
def ArqContext.inFlightCount (arq : ArqContext μ) : Nat := arq.sendWindow.count (·.inFlight)

/-- The packets that are acknowledged, timed out or in flight, as the totals have it. -/
def ArqContext.accounted (arq : ArqContext μ) : Nat :=
  arq.totalAckReceived + arq.totalTimeout + arq.inFlightCount

/-- Every packet sent is counted once. -/
def Conserved (arq : ArqContext μ) : Prop := arq.totalSent = arq.accounted

instance (arq : ArqContext μ) : Decidable (Conserved arq) := inferInstanceAs (Decidable (_ = _))

theorem conserved_fresh (qpn : Nat) : Conserved (.fresh qpn : ArqContext μ) := by
  have hnone : (ArqContext.fresh qpn : ArqContext μ).inFlightCount = 0 := by
    rw [ArqContext.inFlightCount, Ring.count, Finset.card_eq_zero, Finset.filter_eq_empty_iff]
    exact fun k _ => Bool.false_ne_true
  rw [Conserved, ArqContext.accounted, hnone]
  rfl

/-! ## One entry at a time -/

/-- What replacing the entry of sequence number `i` does to the balance, when no total
of packets that left the window changes otherwise. -/
theorem accounted_set {arq arq' : ArqContext μ} {i : Nat} {e : ArqSendEntry μ}
    (h : arq'.sendWindow = arq.sendWindow.set i e) :
    arq'.accounted + (arq.totalAckReceived + arq.totalTimeout) + (arq.entry i).inFlight.toNat =
      arq.accounted + (arq'.totalAckReceived + arq'.totalTimeout) + e.inFlight.toNat := by
  have hcount := Ring.count_set arq.sendWindow (·.inFlight) i e
  simp only [ArqContext.accounted, ArqContext.inFlightCount, ArqContext.entry, h] at hcount ⊢
  omega

/-- An entry that stays in flight, or out of it, changes no balance. -/
theorem accounted_eq_of_set {arq arq' : ArqContext μ} {i : Nat} {e : ArqSendEntry μ}
    (h : arq'.sendWindow = arq.sendWindow.set i e) (he : e.inFlight = (arq.entry i).inFlight)
    (hack : arq'.totalAckReceived = arq.totalAckReceived)
    (htimeout : arq'.totalTimeout = arq.totalTimeout) : arq'.accounted = arq.accounted := by
  have hset := accounted_set h
  rw [he, hack, htimeout] at hset
  omega

theorem sent_accounted {arq : ArqContext μ} (m : μ) (psn : Nat) (ty : WriteSegmentType) (now : Nat)
    (h : (arq.entry arq.sendNext).inFlight = false) :
    (arq.sent m psn ty now).accounted = arq.accounted + 1 := by
  have hwindow : (arq.sent m psn ty now).sendWindow =
      arq.sendWindow.set arq.sendNext ⟨psn, some m, now, 0, ty, true⟩ := rfl
  have hack : (arq.sent m psn ty now).totalAckReceived = arq.totalAckReceived := rfl
  have htimeout : (arq.sent m psn ty now).totalTimeout = arq.totalTimeout := rfl
  have hset := accounted_set hwindow
  rw [h, hack, htimeout, Bool.toNat_false, Bool.toNat_true] at hset
  omega

/-- Passing an entry counts it as acknowledged, and takes it out of flight only if it
was in flight. -/
theorem arqPop_accounted (arq : ArqContext μ) (io : Io μ) :
    (arqPop arq io).1.accounted + (arq.entry arq.sendBase).inFlight.toNat = arq.accounted + 1 := by
  have hwindow : (arqPop arq io).1.sendWindow =
      arq.sendWindow.set arq.sendBase (arq.entry arq.sendBase).released := rfl
  have hack : (arqPop arq io).1.totalAckReceived = arq.totalAckReceived + 1 := rfl
  have htimeout : (arqPop arq io).1.totalTimeout = arq.totalTimeout := rfl
  have hset := accounted_set hwindow
  rw [hack, htimeout, released_inFlight, Bool.toNat_false] at hset
  omega

/-- A visit of `arq_check_timeouts` keeps an entry in flight or counts it as timed out. -/
theorem arqTimeoutVisit_accounted (now timeout i : Nat) (s : ArqContext μ × Io μ) :
    (arqTimeoutVisit now timeout s i).1.accounted = s.1.accounted ∧
      (arqTimeoutVisit now timeout s i).1.totalSent = s.1.totalSent := by
  obtain ⟨arq, io⟩ := s
  unfold arqTimeoutVisit
  dsimp only
  split
  · rename_i hdue
    have hflight : (arq.entry i).inFlight = true := by
      simp only [Bool.and_eq_true] at hdue
      exact hdue.1
    split
    · rename_i hretry
      refine ⟨accounted_eq_of_set rfl ?_ rfl rfl, rfl⟩
      rw [timeoutEntry, if_pos hdue, if_pos hretry]
      rfl
    · rename_i hretry
      refine ⟨?_, rfl⟩
      have hset := accounted_set (show ({ arq with
          sendWindow := arq.sendWindow.set i (timeoutEntry now timeout (arq.sendWindow.get i))
          totalTimeout := arq.totalTimeout + 1 } : ArqContext μ).sendWindow = _ from rfl)
      rw [timeoutEntry, if_pos hdue, if_neg hretry, hflight, released_inFlight, Bool.toNat_true,
        Bool.toNat_false] at hset
      rw [timeoutEntry, if_pos hdue, if_neg hretry]
      simp only at hset ⊢
      omega
  · exact ⟨rfl, rfl⟩

/-- A selection of `arq_handle_nack` leaves the balance alone. -/
theorem arqNackSelect_accounted (nackPsn i : Nat) (s : NackScan μ) :
    (arqNackSelect nackPsn s i).arq.accounted = s.arq.accounted ∧
      (arqNackSelect nackPsn s i).arq.totalSent = s.arq.totalSent := by
  rcases arqNackSelect_cases nackPsn s i with hs | hs
  · rw [hs]
    exact ⟨rfl, rfl⟩
  · rw [hs]
    exact ⟨accounted_eq_of_set rfl rfl rfl rfl, rfl⟩

/-- A loop whose rounds leave the balance alone leaves it alone. -/
theorem foldl_accounted {σ : Type} {g : σ → ArqContext μ} {f : σ → Nat → σ}
    (hf : ∀ s i, (g (f s i)).accounted = (g s).accounted ∧ (g (f s i)).totalSent = (g s).totalSent)
    (is : List Nat) : ∀ s, (g (is.foldl f s)).accounted = (g s).accounted ∧
      (g (is.foldl f s)).totalSent = (g s).totalSent := by
  induction is with
  | nil => intro s; exact ⟨rfl, rfl⟩
  | cons i is ih =>
    intro s
    obtain ⟨hacc, hsent⟩ := hf s i
    obtain ⟨ihacc, ihsent⟩ := ih (f s i)
    exact ⟨ihacc.trans hacc, ihsent.trans hsent⟩

theorem arqCheckTimeouts_accounted (arq : ArqContext μ) (io : Io μ) :
    (arqCheckTimeouts arq io).1.accounted = arq.accounted ∧
      (arqCheckTimeouts arq io).1.totalSent = arq.totalSent :=
  foldl_accounted (g := Prod.fst)
    (fun s i => arqTimeoutVisit_accounted (tickNow io) (timeoutCycles io) i s) arq.seqs
    (arq, (rteRdtsc io).2)

theorem arqHandleNack_accounted (arq : ArqContext μ) (nackPsn : Nat) (io : Io μ) :
    (arqHandleNack arq nackPsn io).2.1.accounted = arq.accounted ∧
      (arqHandleNack arq nackPsn io).2.1.totalSent = arq.totalSent :=
  foldl_accounted (g := NackScan.arq) (fun s i => arqNackSelect_accounted nackPsn i s) arq.seqs
    ⟨arq, io, []⟩

/-! ## The sweep of an acknowledgement -/

/-- `arq_handle_ack` passes the entry of sequence number `i`: it and all outstanding
entries before it are covered. -/
def ArqContext.Swept (arq : ArqContext μ) (ackPsn i : Nat) : Prop :=
  arq.sendBase ≤ i ∧ i < arq.sendNext ∧
    ∀ j, arq.sendBase ≤ j → j ≤ i → Covers ackPsn (arq.entry j).psn

/-- Everything an acknowledgement passes is in flight, and it passes no slot twice. -/
def ArqContext.SweepsInFlight (arq : ArqContext μ) (ackPsn : Nat) : Prop :=
  ∀ i, arq.Swept ackPsn i → (arq.entry i).inFlight = true ∧ i < arq.sendBase + windowSize

theorem arqPop_psn (arq : ArqContext μ) (io : Io μ) (i : Nat) :
    ((arqPop arq io).1.entry i).psn = (arq.entry i).psn := by
  rw [arqPop_entry]
  split
  · rename_i h
    rw [released_psn, entry_congr arq h]
  · rfl

/-- The sweep behind the first entry. -/
theorem swept_arqPop_iff {arq : ArqContext μ} {ackPsn : Nat} (io : Io μ)
    (hlt : arq.sendBase < arq.sendNext) (hnext : arq.sendNext < 4294967296)
    (hcov : Covers ackPsn (arq.entry arq.sendBase).psn) (i : Nat) :
    (arqPop arq io).1.Swept ackPsn i ↔ arq.Swept ackPsn i ∧ i ≠ arq.sendBase := by
  have hbase : (arqPop arq io).1.sendBase = arq.sendBase + 1 := add32_of_lt (by omega)
  simp only [ArqContext.Swept, hbase, arqPop_sendNext, arqPop_psn]
  constructor
  · rintro ⟨hi, hi', hall⟩
    refine ⟨⟨by omega, hi', fun j hj hj' => ?_⟩, by omega⟩
    rcases Nat.eq_or_lt_of_le hj with rfl | hj
    · exact hcov
    · exact hall j hj hj'
  · rintro ⟨⟨hi, hi', hall⟩, hne⟩
    exact ⟨by omega, hi', fun j hj hj' => hall j (by omega) hj'⟩

/-- A sweep is in flight when its first entry is and the sweep behind it still is when
the first entry is released. -/
theorem sweepsInFlight_iff_arqPop {arq : ArqContext μ} {ackPsn : Nat} (io : Io μ)
    (hlt : arq.sendBase < arq.sendNext) (hnext : arq.sendNext < 4294967296)
    (hcov : Covers ackPsn (arq.entry arq.sendBase).psn) :
    arq.SweepsInFlight ackPsn ↔
      (arq.entry arq.sendBase).inFlight = true ∧ (arqPop arq io).1.SweepsInFlight ackPsn := by
  have hbase : (arqPop arq io).1.sendBase = arq.sendBase + 1 := add32_of_lt (by omega)
  have hfirst : arq.Swept ackPsn arq.sendBase := ⟨le_rfl, hlt, fun j hj hj' => by
    rwa [Nat.le_antisymm hj' hj]⟩
  constructor
  · intro h
    refine ⟨(h _ hfirst).1, fun i hi => ?_⟩
    obtain ⟨hi, hne⟩ := (swept_arqPop_iff io hlt hnext hcov i).mp hi
    obtain ⟨hflight, hnear⟩ := h i hi
    have hle := hi.1
    rw [arqPop_entry, if_neg (Ring.mod_ne_of_lt_of_sub_lt (by omega) (by omega)).symm, hbase]
    exact ⟨hflight, by omega⟩
  · rintro ⟨hflight, h⟩ i hi
    have hpos : 0 < windowSize := by decide
    by_cases hne : i = arq.sendBase
    · rw [hne]
      exact ⟨hflight, by omega⟩
    · obtain ⟨hflight', hnear⟩ := h i ((swept_arqPop_iff io hlt hnext hcov i).mpr ⟨hi, hne⟩)
      rw [arqPop_entry] at hflight'
      split at hflight'
      · -- the slot of the first entry is free by now
        cases hflight'
      · rename_i hslot
        have hother : i ≠ arq.sendBase + windowSize := by
          rintro rfl
          exact hslot (Nat.add_mod_right _ _)
        exact ⟨hflight', by omega⟩

theorem arqAckLoop_accounted (ackPsn : Nat) : ∀ (fuel : Nat) (arq : ArqContext μ) (io : Io μ),
    arq.sendNext - arq.sendBase = fuel → arq.sendNext < 4294967296 →
    (arqAckLoop ackPsn fuel arq io).1.totalSent = arq.totalSent ∧
      arq.accounted ≤ (arqAckLoop ackPsn fuel arq io).1.accounted ∧
      ((arqAckLoop ackPsn fuel arq io).1.accounted = arq.accounted ↔
        arq.SweepsInFlight ackPsn) := by
  intro fuel
  induction fuel with
  | zero =>
    intro arq io hfuel _
    refine ⟨rfl, le_rfl, iff_of_true rfl fun i hi => ?_⟩
    have hle := hi.1
    have hlt := hi.2.1
    omega
  | succ fuel ih =>
    intro arq io hfuel hnext
    have hlt : arq.sendBase < arq.sendNext := by omega
    rw [arqAckLoop, if_pos hlt]
    split
    · rename_i hfar
      refine ⟨rfl, le_rfl, iff_of_true rfl fun i hi => ?_⟩
      exact absurd (hi.2.2 _ le_rfl hi.1) (Nat.not_lt.mpr hfar)
    · rename_i hcov
      have hcov : Covers ackPsn (arq.entry arq.sendBase).psn := Nat.lt_of_not_ge hcov
      have hbase : (arqPop arq io).1.sendBase = arq.sendBase + 1 := add32_of_lt (by omega)
      obtain ⟨hsent, hle, hiff⟩ := ih (arqPop arq io).1 (arqPop arq io).2
        (by rw [arqPop_sendNext, hbase]; omega) hnext
      have hpop := arqPop_accounted arq io
      rw [sweepsInFlight_iff_arqPop io hlt hnext hcov, ← hiff]
      cases hflight : (arq.entry arq.sendBase).inFlight with
      | true =>
        rw [hflight, Bool.toNat_true] at hpop
        refine ⟨hsent, by omega, ?_⟩
        simp only [true_and, show (arqPop arq io).1.accounted = arq.accounted by omega]
      | false =>
        rw [hflight, Bool.toNat_false] at hpop
        exact ⟨hsent, by omega, iff_of_false (by omega) fun h => Bool.false_ne_true h.1⟩

/-! ## Runs -/

/-- An acknowledgement passes entries in flight only. -/
def PopsInFlight (s : ArqRun μ) : ArqOp μ → Prop
  | .ack psn => s.arq.SweepsInFlight psn
  | _ => True

/-- No step lets the totals fall behind, and one that does not unbalance them meets the
condition. -/
theorem accounted_step {s : ArqRun μ} (hnext : s.arq.sendNext < 4294967296) (op : ArqOp μ) :
    s.arq.accounted + (arqStep s op).arq.totalSent ≤
        (arqStep s op).arq.accounted + s.arq.totalSent ∧
      (s.arq.accounted + (arqStep s op).arq.totalSent =
        (arqStep s op).arq.accounted + s.arq.totalSent ↔ PopsInFlight s op) := by
  cases op with
  | send m psn ty =>
    cases hslot : (s.arq.entry s.arq.sendNext).inFlight with
    | true =>
      rw [arqStep_send_rejected hslot]
      exact ⟨le_rfl, iff_of_true rfl trivial⟩
    | false =>
      have hacc := sent_accounted m psn ty (rteRdtsc s.io).1 hslot
      have hsent : (s.arq.sent m psn ty (rteRdtsc s.io).1).totalSent = s.arq.totalSent + 1 := rfl
      rw [arqStep_send_accepted hslot]
      exact ⟨by simp only; omega, iff_of_true (by simp only; omega) trivial⟩
  | ack psn =>
    obtain ⟨hsent, hle, hiff⟩ := arqAckLoop_accounted psn _ s.arq s.io rfl hnext
    change s.arq.accounted + (arqHandleAck s.arq psn s.io).1.totalSent ≤
        (arqHandleAck s.arq psn s.io).1.accounted + s.arq.totalSent ∧
      (s.arq.accounted + (arqHandleAck s.arq psn s.io).1.totalSent =
        (arqHandleAck s.arq psn s.io).1.accounted + s.arq.totalSent ↔ s.arq.SweepsInFlight psn)
    rw [arqHandleAck, hsent, ← hiff]
    exact ⟨by omega, by omega⟩
  | nack psn =>
    obtain ⟨hacc, hsent⟩ := arqHandleNack_accounted s.arq psn s.io
    have hacc : (arqStep s (.nack psn)).arq.accounted = s.arq.accounted := hacc
    have hsent : (arqStep s (.nack psn)).arq.totalSent = s.arq.totalSent := hsent
    rw [hacc, hsent]
    exact ⟨le_rfl, iff_of_true rfl trivial⟩
  | timeouts =>
    obtain ⟨hacc, hsent⟩ := arqCheckTimeouts_accounted s.arq s.io
    have hacc : (arqStep s .timeouts).arq.accounted = s.arq.accounted := hacc
    have hsent : (arqStep s .timeouts).arq.totalSent = s.arq.totalSent := hsent
    rw [hacc, hsent]
    exact ⟨le_rfl, iff_of_true rfl trivial⟩

/-- `send_next` is a 32-bit counter. -/
theorem sendNext_lt_step {s : ArqRun μ} (h : s.arq.sendNext < 4294967296) (op : ArqOp μ) :
    (arqStep s op).arq.sendNext < 4294967296 := by
  cases op with
  | send m psn ty =>
    cases hslot : (s.arq.entry s.arq.sendNext).inFlight with
    | true => rwa [arqStep_send_rejected hslot]
    | false =>
      rw [arqStep_send_accepted hslot]
      exact Nat.mod_lt _ (by decide)
  | ack psn =>
    have hsame : (arqStep s (.ack psn)).arq.sendNext = s.arq.sendNext :=
      arqHandleAck_sendNext s.arq psn s.io
    rwa [hsame]
  | nack psn =>
    have hsame : (arqStep s (.nack psn)).arq.sendNext = s.arq.sendNext :=
      (arqHandleNack_sameWindow s.arq psn s.io).sendNext
    rwa [hsame]
  | timeouts =>
    have hsame : (arqStep s .timeouts).arq.sendNext = s.arq.sendNext :=
      (arqCheckTimeouts_spec s.arq s.io).2.2.1
    rwa [hsame]

theorem accounted_run (ops : List (ArqOp μ)) : ∀ {s : ArqRun μ}, s.arq.sendNext < 4294967296 →
    s.arq.accounted + (run arqStep s ops).arq.totalSent ≤
        (run arqStep s ops).arq.accounted + s.arq.totalSent ∧
      (s.arq.accounted + (run arqStep s ops).arq.totalSent =
        (run arqStep s ops).arq.accounted + s.arq.totalSent ↔
          StepsMeet arqStep PopsInFlight s ops) := by
  induction ops with
  | nil => intro s _; exact ⟨le_rfl, iff_of_true rfl trivial⟩
  | cons op ops ih =>
    intro s hnext
    obtain ⟨hle, hiff⟩ := accounted_step hnext op
    obtain ⟨ihle, ihiff⟩ := ih (sendNext_lt_step hnext op)
    rw [run_cons, StepsMeet, ← hiff, ← ihiff]
    exact ⟨by omega, by omega⟩

/-- After every run from a fresh context, every packet sent is counted once, as
acknowledged, as timed out or in flight, exactly when no acknowledgement of the run
passed an entry that was not in flight any more. -/
theorem counters_conserved_iff {qpn : Nat} {io : Io μ} {ops : List (ArqOp μ)} :
    Conserved (run arqStep (.start qpn io) ops).arq ↔
      StepsMeet arqStep PopsInFlight (.start qpn io) ops := by
  have hfresh : (0 : Nat) = (ArqRun.start qpn io).arq.accounted := conserved_fresh qpn
  have hsent : (ArqRun.start qpn io).arq.totalSent = 0 := rfl
  have hnext : (ArqRun.start qpn io).arq.sendNext < 4294967296 := Nat.zero_lt_succ _
  rw [← (accounted_run ops hnext).2, Conserved, ← hfresh, hsent, Nat.zero_add, Nat.add_zero]

/-- A packet that is dropped after its three retries and then acknowledged is counted
twice. -/
theorem acked_after_drop_counts_twice :
    ¬ Conserved (run arqStep (.start 7 (.start (.accepting none)))
      (.send 1 0 .only :: (List.replicate 4 .timeouts ++ [.ack 0]))).arq := by
  decide +kernel

end RdmaGateway.Arq
