/-
  Arq/Ticks.lean --- one timer tick acts on every packet in flight, and once.

  `arq_check_timeouts` walks sequence numbers, and the state lives in slots.  Every slot
  in flight is visited: it was filled under a sequence number that `send_base` has not
  passed, because passing it would have released it.  A slot that is visited twice, as
  in a window of more than 256 sequence numbers, is not due the second time
  (`not_due_timeoutEntry`).  Nothing here assumes that the window is in order.
-/
import RdmaGateway.Arq.Held
import Mathlib.Data.List.Nodup

set_option autoImplicit false

namespace RdmaGateway.Arq

open RdmaGateway.Foundation
open RdmaGateway.Dpdk
open RdmaGateway.Roce

variable {μ : Type}

/-! ## What a tick should do -/

/-- What a tick at time `now` does with the packet of an entry: the entry it leaves and
the events it causes. -/
inductive TickAct (now timeout : Nat) (e : ArqSendEntry μ) :
    ArqSendEntry μ → List (Event μ) → Prop where
  /-- too old, with a retry left: offered to the NIC once, and still in flight -/
  | retransmitted {m : μ} {accepted : Bool} (hflight : e.inFlight = true)
      (hlate : timeout < now - e.sendTime) (hretry : e.retryCount < maxRetryCount)
      (hm : e.mbuf = some m) :
      TickAct now timeout e { e with sendTime := now, retryCount := e.retryCount + 1 }
        (retransmitEvents m accepted)
  /-- too old, without a retry left: freed once -/
  | dropped {m : μ} (hflight : e.inFlight = true) (hlate : timeout < now - e.sendTime)
      (hretry : maxRetryCount ≤ e.retryCount) (hm : e.mbuf = some m) :
      TickAct now timeout e e.released [.free m]
  /-- not in flight, or not too old -/
  | untouched (hyoung : e.inFlight = true → now - e.sendTime ≤ timeout) :
      TickAct now timeout e e []

/-- A tick acts on each slot once: on the slots of `order` as `TickAct` says, one after
the other, and on no slot twice; the slots it leaves out are not in flight.  After it no
packet in flight is too old. -/
structure TickExact (now timeout : Nat) (s s' : ArqRun μ) : Prop where
  acts : ∃ (order : List Nat) (events : Nat → List (Event μ)),
    (order.map (· % windowSize)).Nodup ∧
    s'.io.trace = s.io.trace ++ order.flatMap events ∧
    (∀ i ∈ order, TickAct now timeout (s.arq.entry i) (s'.arq.entry i) (events i)) ∧
    ∀ k, k % windowSize ∉ order.map (· % windowSize) →
      (s.arq.entry k).inFlight = false ∧ s'.arq.entry k = s.arq.entry k
  young : ∀ k, (s'.arq.entry k).inFlight = true → now - (s'.arq.entry k).sendTime ≤ timeout

theorem TickAct.young {now timeout : Nat} {e e' : ArqSendEntry μ} {ev : List (Event μ)}
    (h : TickAct now timeout e e' ev) (hflight : e'.inFlight = true) :
    now - e'.sendTime ≤ timeout := by
  cases h with
  | retransmitted => simp
  | dropped => cases hflight
  | untouched hyoung => exact hyoung hflight

/-! ## The loop -/

section Loop

variable {now : Nat}

/-- An entry that a round of the loop can act on. -/
def ArqSendEntry.Ready (e : ArqSendEntry μ) (now : Nat) : Prop :=
  e.inFlight = true → (∃ m, e.mbuf = some m) ∧ e.sendTime ≤ now

theorem ArqSendEntry.Ready.due_iff {e : ArqSendEntry μ} (h : e.Ready now)
    (hnow : now < 18446744073709551616) (timeout : Nat) :
    e.Due now timeout ↔ e.inFlight = true ∧ timeout < now - e.sendTime := by
  refine and_congr_right fun hflight => ?_
  rw [sub64_of_le hnow (h hflight).2]

theorem arqTimeoutVisit_tickAct {arq : ArqContext μ} {i : Nat}
    (hnow : now < 18446744073709551616) (hready : (arq.entry i).Ready now) (timeout : Nat)
    (io : Io μ) :
    ∃ ev, (arqTimeoutVisit now timeout (arq, io) i).2.trace = io.trace ++ ev ∧
      TickAct now timeout (arq.entry i) (timeoutEntry now timeout (arq.entry i)) ev := by
  have hiff := hready.due_iff hnow timeout
  by_cases hdue : (arq.entry i).Due now timeout
  · obtain ⟨hflight, hlate⟩ := hiff.mp hdue
    obtain ⟨⟨m, hm⟩, -⟩ := hready hflight
    rcases Nat.lt_or_ge (arq.entry i).retryCount maxRetryCount with hr | hr
    · have hsent : retransmit arq io i = (txKeeping m io).2 := by
        simp only [ArqContext.entry] at hm
        simp only [retransmit, hm]
      refine ⟨retransmitEvents m (txKeeping m io).1, ?_, ?_⟩
      · rw [arqTimeoutVisit_retry hdue hr, hsent, txKeeping_events]
      · rw [timeoutEntry_of_retry hdue hr]
        exact .retransmitted hflight hlate hr hm
    · refine ⟨[.free m], ?_, ?_⟩
      · rw [arqTimeoutVisit_exhausted hdue hr, hm]
        rfl
      · rw [timeoutEntry_of_exhausted hdue hr]
        exact .dropped hflight hlate hr hm
  · refine ⟨[], ?_, ?_⟩
    · rw [arqTimeoutVisit_idle hdue, List.append_nil]
    · rw [timeoutEntry_of_not_due hdue]
      exact .untouched fun hflight => Nat.le_of_not_lt fun hlate => hdue (hiff.mpr ⟨hflight, hlate⟩)

/-- A walk over different slots acts on each of them. -/
theorem arqTimeoutFold_tickAct (hnow : now < 18446744073709551616) (timeout : Nat) (is : List Nat) :
    ∀ (arq : ArqContext μ) (io : Io μ), (is.map (· % windowSize)).Nodup →
      (∀ i ∈ is, (arq.entry i).Ready now) →
      ∃ events : Nat → List (Event μ),
        (is.foldl (arqTimeoutVisit now timeout) (arq, io)).2.trace =
          io.trace ++ is.flatMap events ∧
        ∀ i ∈ is, TickAct now timeout (arq.entry i) (timeoutEntry now timeout (arq.entry i))
          (events i) := by
  induction is with
  | nil => intro arq io _ _; exact ⟨fun _ => [], by simp, by simp⟩
  | cons i is ih =>
    intro arq io hnodup hready
    obtain ⟨hnew, hrest⟩ : i % windowSize ∉ is.map (· % windowSize) ∧
        (is.map (· % windowSize)).Nodup := List.nodup_cons.mp hnodup
    have hother : ∀ j ∈ is, (arqTimeoutVisit now timeout (arq, io) i).1.entry j = arq.entry j := by
      intro j hj
      rw [arqTimeoutVisit_entry, if_neg]
      exact fun hslot => hnew (List.mem_map.mpr ⟨j, hj, hslot⟩)
    obtain ⟨ev, htrace, hact⟩ :=
      arqTimeoutVisit_tickAct hnow (hready i List.mem_cons_self) timeout io
    obtain ⟨events, htrace', hacts⟩ := ih (arqTimeoutVisit now timeout (arq, io) i).1
      (arqTimeoutVisit now timeout (arq, io) i).2 hrest
      fun j hj => hother j hj ▸ hready j (List.mem_cons_of_mem i hj)
    have hne : ∀ j ∈ is, j ≠ i := by
      rintro j hj rfl
      exact hnew (List.mem_map.mpr ⟨j, hj, rfl⟩)
    have hfront : is.flatMap (Function.update events i ev) = is.flatMap events :=
      List.flatMap_congr fun j hj => Function.update_of_ne (hne j hj) _ _
    refine ⟨Function.update events i ev, ?_, fun j hj => ?_⟩
    · rw [List.foldl_cons, htrace', htrace, List.flatMap_cons, Function.update_self, hfront,
        List.append_assoc]
    · rcases List.mem_cons.mp hj with rfl | hj
      · rwa [Function.update_self]
      · rw [Function.update_of_ne (hne j hj), ← hother j hj]
        exact hacts j hj

/-- A walk over slots that are not due does nothing. -/
theorem arqTimeoutFold_idle {timeout : Nat} {arq : ArqContext μ} {io : Io μ} (is : List Nat)
    (h : ∀ i ∈ is, ¬ (arq.entry i).Due now timeout) :
    is.foldl (arqTimeoutVisit now timeout) (arq, io) = (arq, io) := by
  induction is with
  | nil => rfl
  | cons i is ih =>
    rw [List.foldl_cons, arqTimeoutVisit_idle (h i List.mem_cons_self)]
    exact ih fun j hj => h j (List.mem_cons_of_mem i hj)

end Loop

/-! ## The slots that are visited -/

theorem mem_seqs {arq : ArqContext μ} {i : Nat} :
    i ∈ arq.seqs ↔ arq.sendBase ≤ i ∧ i < arq.sendNext := by
  rw [ArqContext.seqs, List.mem_range'_1]
  omega

/-- Every slot in flight belongs to an outstanding sequence number. -/
def ArqContext.Outstanding (arq : ArqContext μ) : Prop :=
  ∀ k, (arq.entry k).inFlight = true → ∃ i ∈ arq.seqs, k % windowSize = i % windowSize

/-- Passing an entry releases its slot, so what is in flight afterwards belongs to
another sequence number. -/
theorem outstanding_arqPop {arq : ArqContext μ} (io : Io μ) (h : arq.Outstanding)
    (hlt : arq.sendBase < arq.sendNext) (hnext : arq.sendNext < 4294967296) :
    (arqPop arq io).1.Outstanding := by
  have hbase : (arqPop arq io).1.sendBase = arq.sendBase + 1 := add32_of_lt (by omega)
  intro k hk
  rw [arqPop_entry] at hk
  split at hk
  · cases hk
  · rename_i hslot
    obtain ⟨i, hi, hki⟩ := h k hk
    obtain ⟨hi, hi'⟩ := mem_seqs.mp hi
    have hne : i ≠ arq.sendBase := fun heq => hslot (heq ▸ hki)
    exact ⟨i, mem_seqs.mpr ⟨by omega, hi'⟩, hki⟩

theorem outstanding_arqAckLoop (ackPsn : Nat) : ∀ (fuel : Nat) (arq : ArqContext μ) (io : Io μ),
    arq.Outstanding → arq.sendBase ≤ arq.sendNext → arq.sendNext < 4294967296 →
    (arqAckLoop ackPsn fuel arq io).1.Outstanding ∧
      (arqAckLoop ackPsn fuel arq io).1.sendBase ≤ arq.sendNext := by
  intro fuel
  induction fuel with
  | zero => intro arq io h hle _; exact ⟨h, hle⟩
  | succ fuel ih =>
    intro arq io h hle hnext
    rw [arqAckLoop]
    split
    · rename_i hlt
      split
      · exact ⟨h, hle⟩
      · have hbase : (arqPop arq io).1.sendBase = arq.sendBase + 1 := add32_of_lt (by omega)
        have hle' : (arqPop arq io).1.sendBase ≤ (arqPop arq io).1.sendNext := by
          rw [hbase, arqPop_sendNext]
          omega
        exact ih _ _ (outstanding_arqPop io h hlt hnext) hle' hnext
    · exact ⟨h, hle⟩

/-- An operation that moves neither counter and puts nothing in flight. -/
theorem ArqContext.Outstanding.of_subset {arq arq' : ArqContext μ} (h : arq.Outstanding)
    (hbase : arq'.sendBase = arq.sendBase) (hnext : arq'.sendNext = arq.sendNext)
    (hentry : ∀ k, (arq'.entry k).inFlight = true → (arq.entry k).inFlight = true) :
    arq'.Outstanding := by
  intro k hk
  obtain ⟨i, hi, hki⟩ := h k (hentry k hk)
  exact ⟨i, mem_seqs.mpr (by rw [hbase, hnext]; exact mem_seqs.mp hi), hki⟩

theorem inFlight_of_timeoutEntry {now timeout : Nat} {e : ArqSendEntry μ}
    (h : (timeoutEntry now timeout e).inFlight = true) : e.inFlight = true := by
  rcases timeoutEntry_cases now timeout e with ⟨t, r, he⟩ | ⟨-, he⟩
  · rw [he] at h
    exact h
  · rw [he] at h
    cases h

/-! ## Runs -/

/-- What every run with fewer than `2^32` accepted packets keeps, whatever its order. -/
structure TickReady (s : ArqRun μ) : Prop where
  next_eq : s.arq.sendNext = s.accepted.length
  base_le : s.arq.sendBase ≤ s.arq.sendNext
  outstanding : s.arq.Outstanding
  loaded : Loaded s.arq
  stamped : Stamped s.arq s.io
  packets : HoldsPackets s

theorem entry_fresh (qpn k : Nat) : (ArqContext.fresh qpn : ArqContext μ).entry k = .zero := rfl

theorem tickReady_start (qpn : Nat) (io : Io μ) : TickReady (ArqRun.start qpn io) where
  next_eq := rfl
  base_le := le_rfl
  outstanding := fun k hk => by
    simp [ArqRun.start, entry_fresh, ArqSendEntry.zero] at hk
  loaded := fun k hk => by
    simp [ArqRun.start, entry_fresh, ArqSendEntry.zero] at hk
  stamped := fun k hk => by
    simp [ArqRun.start, entry_fresh, ArqSendEntry.zero] at hk
  packets := fun k x hx => by
    simp [ArqRun.start, entry_fresh, ArqSendEntry.zero] at hx

/-- The counters and the slots in flight. -/
theorem TickReady.counters_step {s : ArqRun μ} (h : TickReady s) (op : ArqOp μ)
    (hlen : (arqStep s op).accepted.length < 4294967296) :
    (arqStep s op).arq.sendNext = (arqStep s op).accepted.length ∧
      (arqStep s op).arq.sendBase ≤ (arqStep s op).arq.sendNext ∧
      (arqStep s op).arq.Outstanding := by
  have hnext := h.next_eq
  have hbase := h.base_le
  cases op with
  | send m psn ty =>
    cases hslot : (s.arq.entry s.arq.sendNext).inFlight with
    | true =>
      rw [arqStep_send_rejected hslot]
      exact ⟨hnext, hbase, h.outstanding⟩
    | false =>
      rw [arqStep_send_accepted hslot] at hlen ⊢
      simp only [List.length_append, List.length_singleton] at hlen ⊢
      have hinc : (s.arq.sent m psn ty (rteRdtsc s.io).1).sendNext = s.arq.sendNext + 1 :=
        add32_of_lt (by omega)
      have hsame : (s.arq.sent m psn ty (rteRdtsc s.io).1).sendBase = s.arq.sendBase := rfl
      refine ⟨by omega, by omega, fun k hk => ?_⟩
      rw [sent_entry] at hk
      split at hk
      · rename_i hk'
        exact ⟨s.arq.sendNext, mem_seqs.mpr (by omega), hk'⟩
      · obtain ⟨i, hi, hki⟩ := h.outstanding k hk
        have hi := mem_seqs.mp hi
        exact ⟨i, mem_seqs.mpr (by omega), hki⟩
  | ack psn =>
    have hlt : s.arq.sendNext < 4294967296 := hnext ▸ (accepted_le_step s (.ack psn)).trans_lt hlen
    obtain ⟨hout, hle⟩ := outstanding_arqAckLoop psn (s.arq.sendNext - s.arq.sendBase) s.arq s.io
      h.outstanding hbase hlt
    have hkeep : (arqStep s (.ack psn)).arq.sendNext = s.arq.sendNext :=
      arqHandleAck_sendNext s.arq psn s.io
    exact ⟨hkeep.trans hnext, hkeep ▸ hle, hout⟩
  | nack psn =>
    have hsame := arqHandleNack_sameWindow s.arq psn s.io
    refine ⟨hsame.sendNext.trans hnext, hsame.sendBase.le.trans (hbase.trans hsame.sendNext.ge),
      h.outstanding.of_subset hsame.sendBase hsame.sendNext fun k hk => ?_⟩
    obtain ⟨t, r, he⟩ := hsame.entry k
    simp only [arqStep, he] at hk
    exact hk
  | timeouts =>
    obtain ⟨-, hb, hn, he⟩ := arqCheckTimeouts_spec s.arq s.io
    refine ⟨hn.trans hnext, hb.le.trans (hbase.trans hn.ge),
      h.outstanding.of_subset hb hn fun k hk => ?_⟩
    simp only [arqStep, he k] at hk
    split at hk
    · exact inFlight_of_timeoutEntry hk
    · exact hk

theorem TickReady.step {s : ArqRun μ} (h : TickReady s) (op : ArqOp μ)
    (hlen : (arqStep s op).accepted.length < 4294967296) : TickReady (arqStep s op) := by
  obtain ⟨hnext, hbase, hout⟩ := h.counters_step op hlen
  refine ⟨hnext, hbase, hout, loaded_step h.loaded op, ?_, holdsPackets_step h.packets h.next_eq op⟩
  rcases arqStep_cases s op with ⟨-, hacts⟩ | ⟨m, psn, ty, -, hstep⟩
  · exact hacts.stamped h.stamped
  · rw [hstep]
    intro k hk
    simp only [sent_entry] at hk ⊢
    split at hk
    · rename_i hslot
      rw [if_pos hslot]
      exact ⟨s.io.tscCount, Nat.lt_succ_self _, rfl⟩
    · rename_i hslot
      rw [if_neg hslot]
      exact (h.stamped k hk).later rfl (Nat.le_succ _)

theorem tickReady_run (ops : List (ArqOp μ)) : ∀ {s : ArqRun μ}, TickReady s →
    (run arqStep s ops).accepted.length < 4294967296 → TickReady (run arqStep s ops) := by
  induction ops with
  | nil => intro s h _; exact h
  | cons op ops ih =>
    intro s h hlen
    exact ih (h.step op ((accepted_le_run ops (arqStep s op)).trans_lt hlen)) hlen

theorem oracle_run (ops : List (ArqOp μ)) :
    ∀ s : ArqRun μ, (run arqStep s ops).io.oracle = s.io.oracle := by
  induction ops with
  | nil => intro s; rfl
  | cons op ops ih =>
    intro s
    rw [run_cons, ih (arqStep s op)]
    rcases arqStep_cases s op with ⟨-, hacts⟩ | ⟨m, psn, ty, -, hstep⟩
    · exact hacts.oracle
    · rw [hstep]
      rfl

/-! ## The tick -/

/-- The first 256 outstanding sequence numbers have all the slots there are. -/
theorem exists_in_first_window (b k : Nat) :
    ∃ i, b ≤ i ∧ i < b + windowSize ∧ k % windowSize = i % windowSize := by
  have hsize : windowSize = 256 := rfl
  rw [hsize]
  exact ⟨b + (k % 256 + 256 - b % 256) % 256, by omega, by omega, by omega⟩

/-- The walk in two parts: a first part that visits no slot twice, and a second part that
visits no slot for the first time. -/
theorem seqs_split (arq : ArqContext μ) : ∃ order rest, arq.seqs = order ++ rest ∧
    (order.map (· % windowSize)).Nodup ∧
    ∀ j ∈ arq.seqs, ∃ i ∈ order, j % windowSize = i % windowSize := by
  refine ⟨List.range' arq.sendBase (min (arq.sendNext - arq.sendBase) windowSize),
    List.range' (arq.sendBase + min (arq.sendNext - arq.sendBase) windowSize)
      (arq.sendNext - arq.sendBase - min (arq.sendNext - arq.sendBase) windowSize),
    ?_, List.Nodup.map_on ?_ List.nodup_range', ?_⟩
  · rw [List.range'_append_1, ArqContext.seqs]
    congr 1
    omega
  · intro i hi j hj hij
    rw [List.mem_range'_1] at hi hj
    rcases Nat.lt_trichotomy i j with hlt | heq | hgt
    · exact absurd hij (Ring.mod_ne_of_lt_of_sub_lt hlt (by omega))
    · exact heq
    · exact absurd hij.symm (Ring.mod_ne_of_lt_of_sub_lt hgt (by omega))
  · intro j hj
    obtain ⟨hj, hj'⟩ := mem_seqs.mp hj
    obtain ⟨i, hi, hi', hji⟩ := exists_in_first_window arq.sendBase j
    by_cases hshort : arq.sendNext - arq.sendBase ≤ windowSize
    · exact ⟨j, List.mem_range'_1.mpr (by omega), rfl⟩
    · exact ⟨i, List.mem_range'_1.mpr (by omega), hji⟩

/-- What a tick does to the slots: the first outstanding sequence numbers, up to 256 of
them, are visited and acted on; the others find nothing due. -/
theorem TickReady.acts {s : ArqRun μ} (h : TickReady s) (hclock : Monotone s.io.oracle.tsc)
    (hword : tickNow s.io < 18446744073709551616) :
    ∃ (order : List Nat) (events : Nat → List (Event μ)),
      (order.map (· % windowSize)).Nodup ∧
      (arqStep s .timeouts).io.trace = s.io.trace ++ order.flatMap events ∧
      (∀ i ∈ order, TickAct (tickNow s.io) (timeoutCycles s.io) (s.arq.entry i)
        ((arqStep s .timeouts).arq.entry i) (events i)) ∧
      ∀ k, k % windowSize ∉ order.map (· % windowSize) →
        (s.arq.entry k).inFlight = false ∧
          (arqStep s .timeouts).arq.entry k = s.arq.entry k := by
  obtain ⟨-, -, -, hentry⟩ := arqCheckTimeouts_spec s.arq s.io
  have hentry : ∀ k, (arqStep s .timeouts).arq.entry k =
      if ∃ i ∈ s.arq.seqs, k % windowSize = i % windowSize
      then timeoutEntry (tickNow s.io) (timeoutCycles s.io) (s.arq.entry k) else s.arq.entry k :=
    hentry
  have hready : ∀ k, (s.arq.entry k).Ready (tickNow s.io) := by
    intro k hk
    obtain ⟨j, hj, htime⟩ := h.stamped k hk
    exact ⟨h.loaded k hk, htime ▸ hclock hj.le⟩
  obtain ⟨order, rest, hsplit, hslots, hcover⟩ := seqs_split s.arq
  have hmem : ∀ i ∈ order, i ∈ s.arq.seqs := fun i hi => hsplit ▸ List.mem_append_left rest hi
  obtain ⟨events, htrace, hacts⟩ := arqTimeoutFold_tickAct hword (timeoutCycles s.io) order s.arq
    (rteRdtsc s.io).2 hslots fun i _ => hready i
  refine ⟨order, events, hslots, ?_, fun i hi => ?_, fun k hk => ?_⟩
  · -- the second part of the walk finds entries that the first part has acted on
    obtain ⟨-, -, -, hfold⟩ := arqTimeoutFold_spec (tickNow s.io) (timeoutCycles s.io) order s.arq
      (rteRdtsc s.io).2
    have hidle : ∀ j ∈ rest, ¬ ((order.foldl (arqTimeoutVisit (tickNow s.io) (timeoutCycles s.io))
        (s.arq, (rteRdtsc s.io).2)).1.entry j).Due (tickNow s.io) (timeoutCycles s.io) := by
      intro j hj
      rw [hfold j, if_pos (hcover j (hsplit ▸ List.mem_append_right order hj))]
      exact not_due_timeoutEntry _
    have htick : (arqStep s .timeouts).io = (s.arq.seqs.foldl
        (arqTimeoutVisit (tickNow s.io) (timeoutCycles s.io)) (s.arq, (rteRdtsc s.io).2)).2 := rfl
    rw [htick, hsplit, List.foldl_append, ← Prod.mk.eta
      (p := order.foldl (arqTimeoutVisit (tickNow s.io) (timeoutCycles s.io))
        (s.arq, (rteRdtsc s.io).2)), arqTimeoutFold_idle rest hidle, htrace]
    rfl
  · rw [hentry, if_pos ⟨i, hmem i hi, rfl⟩]
    exact hacts i hi
  · have hnot : ¬ ∃ i ∈ s.arq.seqs, k % windowSize = i % windowSize := by
      rintro ⟨j, hj, hkj⟩
      obtain ⟨i, hi, hji⟩ := hcover j hj
      exact hk (List.mem_map.mpr ⟨i, hi, (hkj.trans hji).symm⟩)
    refine ⟨?_, by rw [hentry, if_neg hnot]⟩
    cases hflight : (s.arq.entry k).inFlight with
    | true => exact absurd (h.outstanding k hflight) hnot
    | false => rfl

/-- A tick acts on each slot in one of the three ways. -/
theorem TickReady.tickAct {s : ArqRun μ} (h : TickReady s) (hclock : Monotone s.io.oracle.tsc)
    (hword : tickNow s.io < 18446744073709551616) (k : Nat) :
    ∃ ev, TickAct (tickNow s.io) (timeoutCycles s.io) (s.arq.entry k)
      ((arqStep s .timeouts).arq.entry k) ev := by
  obtain ⟨order, events, -, -, hact, hrest⟩ := h.acts hclock hword
  by_cases hslot : k % windowSize ∈ order.map (· % windowSize)
  · obtain ⟨i, hi, hik⟩ := List.mem_map.mp hslot
    have hi := hact i hi
    rw [entry_congr s.arq hik, entry_congr (arqStep s .timeouts).arq hik] at hi
    exact ⟨_, hi⟩
  · obtain ⟨hfree, hsame⟩ := hrest k hslot
    rw [hsame]
    exact ⟨[], .untouched fun hflight => absurd (hfree ▸ hflight) Bool.false_ne_true⟩

/-- A packet that a tick drops has left the window. -/
theorem TickReady.gone {s : ArqRun μ} (h : TickReady s) (hclock : Monotone s.io.oracle.tsc)
    (hword : tickNow s.io < 18446744073709551616) {k : Nat} {m : μ}
    (hflight : (s.arq.entry k).inFlight = true)
    (hlate : timeoutCycles s.io < tickNow s.io - (s.arq.entry k).sendTime)
    (hretry : maxRetryCount ≤ (s.arq.entry k).retryCount) (hm : (s.arq.entry k).mbuf = some m)
    (honce : AcceptedOnce m s) : Gone m (arqStep s .timeouts) := by
  obtain ⟨i, hi, hget⟩ := h.packets k m hm
  refine ⟨(packets_prefix_step s .timeouts).subset (List.mem_of_getElem? hget), ?_⟩
  rintro ⟨k', hk'⟩
  -- another slot that holds the buffer holds the same packet
  have hheld : (s.arq.entry k').mbuf = some m := by
    rcases (arqCheckTimeouts_acts s.arq s.io).slots k' with hsame | hnone
    · exact hsame ▸ hk'
    · exact absurd (hnone ▸ hk') (by simp)
  obtain ⟨i', hi', hget'⟩ := h.packets k' m hheld
  have hslot : k' % windowSize = k % windowSize := by
    rw [← hi', ← hi, honce i' i hget' hget]
  rw [entry_congr _ hslot] at hk'
  -- and that slot was released
  obtain ⟨ev, hact⟩ := h.tickAct hclock hword k
  generalize (arqStep s .timeouts).arq.entry k = e at hact hk'
  cases hact with
  | retransmitted _ _ hless => omega
  | dropped => cases hk'
  | untouched hyoung => exact absurd (hyoung hflight) (Nat.not_le.mpr hlate)

/-- In every reachable state, whatever the order of the operations before it: a tick acts
on every packet in flight once, as its age and its retries demand, and leaves no packet
in flight that is too old; and a packet that it drops is not touched by any operation
that follows, unless it is accepted again. -/
theorem tick_acts_once {qpn : Nat} {io : Io μ} {ops : List (ArqOp μ)} {s : ArqRun μ}
    (hs : run arqStep (.start qpn io) ops = s) (hlen : s.accepted.length < 2 ^ 32)
    (hclock : Monotone io.oracle.tsc) (hword : tickNow s.io < 2 ^ 64) :
    TickExact (tickNow s.io) (timeoutCycles s.io) s (arqStep s .timeouts) ∧
    ∀ k m, (s.arq.entry k).inFlight = true →
      timeoutCycles s.io < tickNow s.io - (s.arq.entry k).sendTime →
      maxRetryCount ≤ (s.arq.entry k).retryCount → (s.arq.entry k).mbuf = some m →
      ∀ later, AcceptedOnce m (run arqStep (arqStep s .timeouts) later) →
        ∃ ev, (run arqStep (arqStep s .timeouts) later).io.trace =
            (arqStep s .timeouts).io.trace ++ ev ∧ ∀ e ∈ ev, e.buffer ≠ m := by
  subst hs
  have hready := tickReady_run ops (tickReady_start qpn io) hlen
  have horacle := oracle_run ops (ArqRun.start qpn io)
  have hclock : Monotone (run arqStep (.start qpn io) ops).io.oracle.tsc := horacle ▸ hclock
  refine ⟨⟨hready.acts hclock hword, fun k hk => ?_⟩, ?_⟩
  · obtain ⟨ev, hact⟩ := hready.tickAct hclock hword k
    exact hact.young hk
  · intro k m hflight hlate hretry hm later honce
    have hbefore := honce.before ((packets_prefix_step _ _).trans (packets_prefix_run later _))
    exact gone_run later (hready.gone hclock hword hflight hlate hretry hm hbefore) honce

/-- A packet with three retries behind it, and one sent since: the tick drops the first,
and the acknowledgement, the negative acknowledgement and the tick that follow leave it
alone. -/
def agedRun : List (ArqOp Nat) :=
  [.send 1 0 .only, .timeouts, .timeouts, .timeouts, .send 2 1 .only]

theorem tick_acts_once_aged :
    (∀ k, ((run arqStep (.start 7 (.start (.accepting none)))
        (agedRun ++ [.timeouts])).arq.entry k).inFlight = true →
      500 - ((run arqStep (.start 7 (.start (.accepting none)))
        (agedRun ++ [.timeouts])).arq.entry k).sendTime ≤ 10) ∧
    ∃ ev, (run arqStep (run arqStep (.start 7 (.start (.accepting none))) (agedRun ++ [.timeouts]))
        [.nack 1, .timeouts, .ack 1]).io.trace =
      (run arqStep (.start 7 (.start (.accepting none))) (agedRun ++ [.timeouts])).io.trace ++ ev ∧
      ∀ e ∈ ev, e.buffer ≠ 1 := by
  have hclock : Monotone (Io.start (Oracle.accepting (none : Option Nat))).oracle.tsc :=
    fun a b hab => Nat.mul_le_mul_left 100 hab
  obtain ⟨hexact, hlater⟩ := @tick_acts_once Nat 7 (.start (.accepting none)) agedRun _ rfl
    (by decide +kernel) hclock (by decide +kernel)
  have hnow : tickNow (run arqStep (.start 7 (.start (.accepting none))) agedRun).io = 500 := by
    decide +kernel
  have htimeout : timeoutCycles (run arqStep (.start 7 (.start (.accepting none)))
      agedRun).io = 10 := by
    decide +kernel
  rw [hnow, htimeout] at hexact
  rw [run_append]
  have hpackets : (run arqStep (arqStep (run arqStep (.start 7 (.start (.accepting none))) agedRun)
      .timeouts) [.nack 1, .timeouts, .ack 1]).packets = [1, 2] := by decide +kernel
  refine ⟨hexact.young,
    hlater 0 1 (by decide +kernel) ?_ (by decide +kernel) (by decide +kernel) _ ?_⟩
  · rw [hnow, htimeout]
    decide +kernel
  · intro i j hi hj
    rw [hpackets] at hi hj
    have hlt := (List.getElem?_eq_some_iff.mp hi).1
    exact (List.getElem?_inj hlt (by decide)).mp (hi.trans hj.symm)

end RdmaGateway.Arq
