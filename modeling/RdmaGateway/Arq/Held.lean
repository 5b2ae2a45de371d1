/-
  Arq/Held.lean --- what a window does to buffers, and the time stamps of its entries.

  An operation on a window touches buffers that the window holds, and no others; and
  only `arq_send_pkt` makes the window hold a buffer that it did not hold.  So a packet
  that left the window and is not handed in again is never touched again
  (`gone_run`).  The time stamp of an entry in flight is a reading of the clock
  that was made before.
-/
import RdmaGateway.Arq.Retransmit

set_option autoImplicit false

namespace RdmaGateway.Dpdk

/-- The buffer an event is about. -/
def Event.buffer {μ : Type} : Event μ → μ
  | .alloc m => m
  | .free m => m
  | .refcntUpdate m _ => m
  | .txBurst _ m _ => m

end RdmaGateway.Dpdk

namespace RdmaGateway.Arq

open RdmaGateway.Foundation
open RdmaGateway.Dpdk
open RdmaGateway.Roce

variable {μ : Type}

/-- A slot of the window holds the buffer. -/
def ArqContext.Holds (arq : ArqContext μ) (x : μ) : Prop := ∃ k, (arq.entry k).mbuf = some x

/-- The entry is stamped with a reading of the clock that was made before. -/
def ArqSendEntry.Stamped (e : ArqSendEntry μ) (io : Io μ) : Prop :=
  ∃ j < io.tscCount, e.sendTime = io.oracle.tsc j

/-- Every entry in flight is stamped. -/
def Stamped (arq : ArqContext μ) (io : Io μ) : Prop :=
  ∀ k, (arq.entry k).inFlight = true → (arq.entry k).Stamped io

/-- A part of an operation: time may pass, each slot keeps its buffer or loses it, and
what happens to buffers happens to buffers the window held. -/
structure ActsOnHeld (arq : ArqContext μ) (io : Io μ) (arq' : ArqContext μ) (io' : Io μ) :
    Prop where
  oracle : io'.oracle = io.oracle
  tscCount : io.tscCount ≤ io'.tscCount
  slots : ∀ k, (arq'.entry k).mbuf = (arq.entry k).mbuf ∨ (arq'.entry k).mbuf = none
  events : ∃ ev, io'.trace = io.trace ++ ev ∧ ∀ e ∈ ev, arq.Holds e.buffer
  stamped : Stamped arq io → Stamped arq' io'

theorem ActsOnHeld.refl (arq : ArqContext μ) (io : Io μ) : ActsOnHeld arq io arq io where
  oracle := rfl
  tscCount := le_rfl
  slots := fun _ => Or.inl rfl
  events := ⟨[], by simp, by simp⟩
  stamped := fun h => h

theorem ActsOnHeld.holds {arq arq' : ArqContext μ} {io io' : Io μ} (h : ActsOnHeld arq io arq' io')
    {x : μ} (hx : arq'.Holds x) : arq.Holds x := by
  obtain ⟨k, hk⟩ := hx
  rcases h.slots k with hm | hm
  · exact ⟨k, hm ▸ hk⟩
  · rw [hm] at hk
    cases hk

theorem ActsOnHeld.trans {a b c : ArqContext μ} {io io' io'' : Io μ} (hab : ActsOnHeld a io b io')
    (hbc : ActsOnHeld b io' c io'') : ActsOnHeld a io c io'' := by
  obtain ⟨ev, htrace, hev⟩ := hab.events
  obtain ⟨ev', htrace', hev'⟩ := hbc.events
  refine ⟨hbc.oracle.trans hab.oracle, hab.tscCount.trans hbc.tscCount, fun k => ?_,
    ⟨ev ++ ev', by rw [htrace', htrace, List.append_assoc], fun e he => ?_⟩,
    fun h => hbc.stamped (hab.stamped h)⟩
  · rcases hbc.slots k with hc | hc
    · rw [hc]
      exact hab.slots k
    · exact Or.inr hc
  · rcases List.mem_append.mp he with he | he
    · exact hev e he
    · exact hab.holds (hev' e he)

theorem ArqSendEntry.Stamped.later {e : ArqSendEntry μ} {io io' : Io μ} (h : e.Stamped io)
    (horacle : io'.oracle = io.oracle) (hcount : io.tscCount ≤ io'.tscCount) : e.Stamped io' := by
  obtain ⟨j, hj, htime⟩ := h
  exact ⟨j, by omega, by rw [htime, horacle]⟩

/-- A part that keeps or drops the buffer of each entry, and stamps what it keeps in
flight with the time it had or with one it reads. -/
theorem ActsOnHeld.of_entries {arq arq' : ArqContext μ} {io io' : Io μ}
    (horacle : io'.oracle = io.oracle) (hcount : io.tscCount ≤ io'.tscCount)
    (hevents : ∃ ev, io'.trace = io.trace ++ ev ∧ ∀ e ∈ ev, arq.Holds e.buffer)
    (hentry : ∀ k, ((arq'.entry k).mbuf = (arq.entry k).mbuf ∨ (arq'.entry k).mbuf = none) ∧
      ((arq'.entry k).inFlight = true → (arq.entry k).inFlight = true ∧
        ((arq'.entry k).sendTime = (arq.entry k).sendTime ∨ (arq'.entry k).Stamped io'))) :
    ActsOnHeld arq io arq' io' := by
  refine ⟨horacle, hcount, fun k => (hentry k).1, hevents, fun h k hk => ?_⟩
  obtain ⟨hflight, htime⟩ := (hentry k).2 hk
  rcases htime with htime | htime
  · obtain ⟨j, hj, hold⟩ := (h k hflight).later horacle hcount
    exact ⟨j, hj, htime.trans hold⟩
  · exact htime

/-! ## The operations -/

theorem arqPop_acts (arq : ArqContext μ) (io : Io μ) :
    ActsOnHeld arq io (arqPop arq io).1 (arqPop arq io).2 := by
  have htsc : (freeOpt (arq.entry arq.sendBase).mbuf io).tscCount = io.tscCount := by
    cases (arq.entry arq.sendBase).mbuf <;> rfl
  refine .of_entries (freeOpt_oracle _ io) htsc.ge ⟨_, freeOpt_trace _ io, fun e he => ?_⟩
    fun k => ?_
  · obtain ⟨m, hm, rfl⟩ := List.mem_map.mp he
    exact ⟨arq.sendBase, Option.mem_toList.mp hm⟩
  · rw [arqPop_entry]
    split
    · exact ⟨Or.inr rfl, fun h => absurd h Bool.false_ne_true⟩
    · exact ⟨Or.inl rfl, fun h => ⟨h, Or.inl rfl⟩⟩

theorem arqAckLoop_acts (ackPsn : Nat) : ∀ (fuel : Nat) (arq : ArqContext μ) (io : Io μ),
    ActsOnHeld arq io (arqAckLoop ackPsn fuel arq io).1 (arqAckLoop ackPsn fuel arq io).2 := by
  intro fuel
  induction fuel with
  | zero => intro arq io; exact .refl arq io
  | succ fuel ih =>
    intro arq io
    rw [arqAckLoop]
    split
    · split
      · exact .refl arq io
      · exact (arqPop_acts arq io).trans (ih (arqPop arq io).1 (arqPop arq io).2)
    · exact .refl arq io

theorem arqNackSelect_acts (nackPsn : Nat) (s : NackScan μ) (i : Nat) :
    ActsOnHeld s.arq s.io (arqNackSelect nackPsn s i).arq (arqNackSelect nackPsn s i).io := by
  rcases arqNackSelect_cases nackPsn s i with hs | hs
  · rw [hs]
    exact .refl s.arq s.io
  · rw [hs]
    refine .of_entries rfl (Nat.le_succ _) ⟨[], by simp, by simp⟩ fun k => ?_
    rw [selected_entry]
    split
    · exact ⟨Or.inl rfl, fun h => ⟨h, Or.inr ⟨s.io.tscCount, Nat.lt_succ_self _, rfl⟩⟩⟩
    · exact ⟨Or.inl rfl, fun h => ⟨h, Or.inl rfl⟩⟩

theorem arqNackScan_acts (nackPsn : Nat) (is : List Nat) : ∀ s : NackScan μ,
    ActsOnHeld s.arq s.io (is.foldl (arqNackSelect nackPsn) s).arq
      (is.foldl (arqNackSelect nackPsn) s).io := by
  induction is with
  | nil => intro s; exact .refl s.arq s.io
  | cons i is ih =>
    intro s
    exact (arqNackSelect_acts nackPsn s i).trans (ih (arqNackSelect nackPsn s i))

theorem retransmitEvents_buffer {m : μ} {accepted : Bool} {e : Event μ}
    (he : e ∈ retransmitEvents m accepted) : e.buffer = m := by
  unfold retransmitEvents at he
  cases accepted with
  | true =>
    simp only [if_true, List.append_nil, List.mem_cons, List.not_mem_nil, or_false] at he
    rcases he with rfl | rfl <;> rfl
  | false =>
    simp only [Bool.false_eq_true, if_false, List.cons_append, List.nil_append, List.mem_cons,
      List.not_mem_nil, or_false] at he
    rcases he with rfl | rfl | rfl <;> rfl

theorem retransmit_acts (arq : ArqContext μ) (io : Io μ) (idx : Nat) :
    ActsOnHeld arq io arq (retransmit arq io idx) := by
  unfold retransmit
  split
  · rename_i m hm
    refine .of_entries (txKeeping_oracle m io) (txKeeping_tscCount m io).ge
      ⟨_, txKeeping_events m io, fun e he => ?_⟩ fun k => ⟨Or.inl rfl, fun h => ⟨h, Or.inl rfl⟩⟩
    rw [retransmitEvents_buffer he]
    exact ⟨idx, hm⟩
  · exact .refl arq io

theorem retransmits_acts (arq : ArqContext μ) (is : List Nat) :
    ∀ io, ActsOnHeld arq io arq (is.foldl (retransmit arq) io) := by
  induction is with
  | nil => intro io; exact .refl arq io
  | cons i is ih => intro io; exact (retransmit_acts arq io i).trans (ih _)

theorem arqHandleNack_acts (arq : ArqContext μ) (nackPsn : Nat) (io : Io μ) :
    ActsOnHeld arq io (arqHandleNack arq nackPsn io).2.1 (arqHandleNack arq nackPsn io).2.2 :=
  (arqNackScan_acts nackPsn arq.seqs ⟨arq, io, []⟩).trans (retransmits_acts _ _ _)

/-! ## A round of `arq_check_timeouts` -/

/-- The time-out of an entry in flight has passed at time `now`. -/
def ArqSendEntry.Due (e : ArqSendEntry μ) (now timeout : Nat) : Prop :=
  e.inFlight = true ∧ timeout < sub64 now e.sendTime

instance (e : ArqSendEntry μ) (now timeout : Nat) : Decidable (e.Due now timeout) :=
  inferInstanceAs (Decidable (_ ∧ _))

theorem due_iff (e : ArqSendEntry μ) (now timeout : Nat) :
    (e.inFlight && decide (timeout < sub64 now e.sendTime)) = true ↔ e.Due now timeout := by
  simp [ArqSendEntry.Due]

section Visit

variable {now timeout : Nat}

theorem timeoutEntry_of_not_due {e : ArqSendEntry μ} (h : ¬ e.Due now timeout) :
    timeoutEntry now timeout e = e := by
  rw [timeoutEntry, if_neg ((due_iff e now timeout).not.mpr h)]

theorem timeoutEntry_of_retry {e : ArqSendEntry μ} (h : e.Due now timeout)
    (hr : e.retryCount < maxRetryCount) :
    timeoutEntry now timeout e = { e with sendTime := now, retryCount := e.retryCount + 1 } := by
  have hinc : inc8 e.retryCount = e.retryCount + 1 := by
    unfold inc8 maxRetryCount at *
    omega
  rw [timeoutEntry, if_pos ((due_iff e now timeout).mpr h), if_pos hr, hinc]

theorem timeoutEntry_of_exhausted {e : ArqSendEntry μ} (h : e.Due now timeout)
    (hr : maxRetryCount ≤ e.retryCount) : timeoutEntry now timeout e = e.released := by
  rw [timeoutEntry, if_pos ((due_iff e now timeout).mpr h), if_neg (Nat.not_lt.mpr hr)]

/-- What is retransmitted or dropped is not due any more. -/
theorem not_due_timeoutEntry (e : ArqSendEntry μ) :
    ¬ (timeoutEntry now timeout e).Due now timeout := by
  by_cases h : e.Due now timeout
  · rcases Nat.lt_or_ge e.retryCount maxRetryCount with hr | hr
    · rw [timeoutEntry_of_retry h hr]
      have hself : sub64 now now = 0 := by
        unfold sub64
        omega
      exact fun hdue => absurd (hself ▸ hdue.2) (Nat.not_lt_zero timeout)
    · rw [timeoutEntry_of_exhausted h hr]
      exact fun hdue => Bool.false_ne_true hdue.1
  · rwa [timeoutEntry_of_not_due h]

variable {arq : ArqContext μ} {io : Io μ} {i : Nat}

theorem arqTimeoutVisit_idle (h : ¬ (arq.entry i).Due now timeout) :
    arqTimeoutVisit now timeout (arq, io) i = (arq, io) :=
  if_neg ((due_iff _ _ _).not.mpr h)

theorem arqTimeoutVisit_retry (h : (arq.entry i).Due now timeout)
    (hr : (arq.entry i).retryCount < maxRetryCount) :
    (arqTimeoutVisit now timeout (arq, io) i).2 = retransmit arq io i := by
  unfold arqTimeoutVisit
  dsimp only
  split
  · exact congrArg Prod.snd (if_pos hr)
  · rename_i hskip
    exact absurd ((due_iff _ _ _).mpr h) hskip

theorem arqTimeoutVisit_exhausted (h : (arq.entry i).Due now timeout)
    (hr : maxRetryCount ≤ (arq.entry i).retryCount) :
    (arqTimeoutVisit now timeout (arq, io) i).2 = freeOpt (arq.entry i).mbuf io := by
  unfold arqTimeoutVisit
  dsimp only
  split
  · exact congrArg Prod.snd (if_neg (Nat.not_lt.mpr hr))
  · rename_i hskip
    exact absurd ((due_iff _ _ _).mpr h) hskip

theorem freeOpt_acts (m : Option μ) {arq : ArqContext μ} (io : Io μ)
    (hm : ∀ x, m = some x → arq.Holds x) : ActsOnHeld arq io arq (freeOpt m io) := by
  have htsc : (freeOpt m io).tscCount = io.tscCount := by cases m <;> rfl
  refine .of_entries (freeOpt_oracle m io) htsc.ge ⟨_, freeOpt_trace m io, fun e he => ?_⟩
    fun k => ⟨Or.inl rfl, fun h => ⟨h, Or.inl rfl⟩⟩
  obtain ⟨x, hx, rfl⟩ := List.mem_map.mp he
  exact hm x (Option.mem_toList.mp hx)

/-- A round whose time was read from the clock before. -/
theorem arqTimeoutVisit_acts (timeout : Nat) (arq : ArqContext μ) (i : Nat)
    (hnow : ∃ j < io.tscCount, now = io.oracle.tsc j) :
    ActsOnHeld arq io (arqTimeoutVisit now timeout (arq, io) i).1
      (arqTimeoutVisit now timeout (arq, io) i).2 := by
  by_cases h : (arq.entry i).Due now timeout
  · have henv : ActsOnHeld arq io arq (arqTimeoutVisit now timeout (arq, io) i).2 := by
      rcases Nat.lt_or_ge (arq.entry i).retryCount maxRetryCount with hr | hr
      · rw [arqTimeoutVisit_retry h hr]
        exact retransmit_acts arq io i
      · rw [arqTimeoutVisit_exhausted h hr]
        exact freeOpt_acts _ io fun x hx => ⟨i, hx⟩
    have hstamp : ∀ e : ArqSendEntry μ, e.sendTime = now →
        e.Stamped (arqTimeoutVisit now timeout (arq, io) i).2 := by
      rintro e rfl
      exact ArqSendEntry.Stamped.later hnow henv.oracle henv.tscCount
    refine .of_entries henv.oracle henv.tscCount henv.events fun k => ?_
    rw [arqTimeoutVisit_entry]
    split
    · rename_i hslot
      rw [← entry_congr arq hslot] at h
      rcases Nat.lt_or_ge (arq.entry k).retryCount maxRetryCount with hr | hr
      · rw [timeoutEntry_of_retry h hr]
        exact ⟨Or.inl rfl, fun hk => ⟨hk, Or.inr (hstamp _ rfl)⟩⟩
      · rw [timeoutEntry_of_exhausted h hr]
        exact ⟨Or.inr rfl, fun hk => absurd hk Bool.false_ne_true⟩
    · exact ⟨Or.inl rfl, fun hk => ⟨hk, Or.inl rfl⟩⟩
  · rw [arqTimeoutVisit_idle h]
    exact .refl arq io

end Visit

theorem arqTimeoutFold_acts {now timeout : Nat} (is : List Nat) :
    ∀ {arq : ArqContext μ} {io : Io μ}, (∃ j < io.tscCount, now = io.oracle.tsc j) →
      ActsOnHeld arq io (is.foldl (arqTimeoutVisit now timeout) (arq, io)).1
        (is.foldl (arqTimeoutVisit now timeout) (arq, io)).2 := by
  induction is with
  | nil => intro arq io _; exact .refl arq io
  | cons i is ih =>
    intro arq io hnow
    have hvisit := arqTimeoutVisit_acts timeout arq i hnow
    obtain ⟨j, hj, htime⟩ := hnow
    have hnext : ∃ j < (arqTimeoutVisit now timeout (arq, io) i).2.tscCount,
        now = (arqTimeoutVisit now timeout (arq, io) i).2.oracle.tsc j :=
      ⟨j, hj.trans_le hvisit.tscCount, htime.trans (by rw [hvisit.oracle])⟩
    exact hvisit.trans (ih hnext)

/-- Reading the clock. -/
theorem rteRdtsc_acts (arq : ArqContext μ) (io : Io μ) : ActsOnHeld arq io arq (rteRdtsc io).2 :=
  .of_entries rfl (Nat.le_succ _) ⟨[], by simp, by simp⟩
    fun _ => ⟨Or.inl rfl, fun h => ⟨h, Or.inl rfl⟩⟩

theorem arqCheckTimeouts_acts (arq : ArqContext μ) (io : Io μ) :
    ActsOnHeld arq io (arqCheckTimeouts arq io).1 (arqCheckTimeouts arq io).2 :=
  (rteRdtsc_acts arq io).trans
    (arqTimeoutFold_acts arq.seqs ⟨io.tscCount, Nat.lt_succ_self _, rfl⟩)

/-! ## Runs -/

/-- A step acts on what the window holds, or it accepts a packet. -/
theorem arqStep_cases (s : ArqRun μ) (op : ArqOp μ) :
    ((arqStep s op).accepted = s.accepted ∧
        ActsOnHeld s.arq s.io (arqStep s op).arq (arqStep s op).io) ∨
      ∃ m psn ty, (s.arq.entry s.arq.sendNext).inFlight = false ∧
        arqStep s op = ⟨s.arq.sent m psn ty (rteRdtsc s.io).1, (rteRdtsc s.io).2,
          s.accepted ++ [(m, psn, ty)]⟩ := by
  cases op with
  | send m psn ty =>
    cases hslot : (s.arq.entry s.arq.sendNext).inFlight with
    | true =>
      rw [arqStep_send_rejected hslot]
      exact Or.inl ⟨rfl, .refl s.arq s.io⟩
    | false => exact Or.inr ⟨m, psn, ty, rfl, arqStep_send_accepted hslot⟩
  | ack psn => exact Or.inl ⟨rfl, arqAckLoop_acts psn _ s.arq s.io⟩
  | nack psn => exact Or.inl ⟨rfl, arqHandleNack_acts s.arq psn s.io⟩
  | timeouts => exact Or.inl ⟨rfl, arqCheckTimeouts_acts s.arq s.io⟩

/-- The packets accepted so far, by their buffers. -/
def ArqRun.packets (s : ArqRun μ) : List μ := s.accepted.map (·.1)

theorem packets_prefix_step (s : ArqRun μ) (op : ArqOp μ) :
    s.packets <+: (arqStep s op).packets := by
  unfold ArqRun.packets
  rcases arqStep_cases s op with ⟨hacc, -⟩ | ⟨m, psn, ty, -, hstep⟩
  · exact ⟨[], by rw [List.append_nil, hacc]⟩
  · rw [hstep]
    exact (List.prefix_append _ _).map _

theorem packets_prefix_run (ops : List (ArqOp μ)) :
    ∀ s : ArqRun μ, s.packets <+: (run arqStep s ops).packets := by
  induction ops with
  | nil => intro s; exact List.prefix_rfl
  | cons op ops ih => intro s; exact (packets_prefix_step s op).trans (ih (arqStep s op))

/-- Each slot holds a packet that was accepted under a number of that slot. -/
def HoldsPackets (s : ArqRun μ) : Prop :=
  ∀ k x, (s.arq.entry k).mbuf = some x →
    ∃ i : Nat, i % windowSize = k % windowSize ∧ s.packets[i]? = some x

/-- The counter `send_next` is the number of accepted packets. -/
theorem holdsPackets_step {s : ArqRun μ} (h : HoldsPackets s)
    (hnext : s.arq.sendNext = s.accepted.length) (op : ArqOp μ) : HoldsPackets (arqStep s op) := by
  have hkeep : ∀ {i : Nat} {x : μ}, s.packets[i]? = some x →
      (arqStep s op).packets[i]? = some x := by
    intro i x hi
    obtain ⟨rest, hrest⟩ := packets_prefix_step s op
    obtain ⟨hlt, -⟩ := List.getElem?_eq_some_iff.mp hi
    rw [← hrest, List.getElem?_append_left hlt, hi]
  intro k x hx
  rcases arqStep_cases s op with ⟨-, hacts⟩ | ⟨m, psn, ty, -, hstep⟩
  · rcases hacts.slots k with hm | hm
    · obtain ⟨i, hi, hget⟩ := h k x (hm ▸ hx)
      exact ⟨i, hi, hkeep hget⟩
    · rw [hm] at hx
      cases hx
  · rw [hstep, sent_entry] at hx
    split at hx
    · rename_i hslot
      refine ⟨s.accepted.length, by rw [hslot, hnext], ?_⟩
      rw [hstep]
      simpa [ArqRun.packets] using hx
    · obtain ⟨i, hi, hget⟩ := h k x hx
      exact ⟨i, hi, hkeep hget⟩

/-- The packet is accepted under one number only. -/
def AcceptedOnce (m : μ) (s : ArqRun μ) : Prop :=
  ∀ i j : Nat, s.packets[i]? = some m → s.packets[j]? = some m → i = j

theorem AcceptedOnce.before {m : μ} {s s' : ArqRun μ} (h : AcceptedOnce m s')
    (hpre : s.packets <+: s'.packets) : AcceptedOnce m s := by
  obtain ⟨rest, hrest⟩ := hpre
  intro i j hi hj
  have hlt := (List.getElem?_eq_some_iff.mp hi).1
  have hlt' := (List.getElem?_eq_some_iff.mp hj).1
  refine h i j ?_ ?_
  · rw [← hrest, List.getElem?_append_left hlt, hi]
  · rw [← hrest, List.getElem?_append_left hlt', hj]

/-- A packet that left the window: it was accepted, and no slot holds it. -/
def Gone (m : μ) (s : ArqRun μ) : Prop := m ∈ s.packets ∧ ¬ s.arq.Holds m

/-- A packet that left the window and is not accepted again stays out of it, and no
operation touches it. -/
theorem gone_step {m : μ} {s : ArqRun μ} (h : Gone m s) (op : ArqOp μ)
    (honce : AcceptedOnce m (arqStep s op)) :
    Gone m (arqStep s op) ∧
      ∃ ev, (arqStep s op).io.trace = s.io.trace ++ ev ∧ ∀ e ∈ ev, e.buffer ≠ m := by
  obtain ⟨hmem, hnot⟩ := h
  have hmem' := (packets_prefix_step s op).subset hmem
  rcases arqStep_cases s op with ⟨-, hacts⟩ | ⟨x, psn, ty, -, hstep⟩
  · obtain ⟨ev, htrace, hev⟩ := hacts.events
    refine ⟨⟨hmem', fun hm => hnot (hacts.holds hm)⟩, ev, htrace, fun e he hm => hnot ?_⟩
    exact hm ▸ hev e he
  · have hpackets : (arqStep s op).packets = s.packets ++ [x] := by
      rw [hstep]
      simp [ArqRun.packets]
    have hne : x ≠ m := by
      rintro rfl
      obtain ⟨i, hlt, hi⟩ := List.mem_iff_getElem.mp hmem
      have heq : i = s.packets.length := by
        refine honce i s.packets.length ?_ ?_
        · rw [hpackets, List.getElem?_append_left hlt, List.getElem?_eq_getElem hlt, hi]
        · rw [hpackets, List.getElem?_append_right le_rfl, Nat.sub_self]
          rfl
      omega
    refine ⟨⟨hmem', ?_⟩, [], by rw [hstep]; simp, fun e he => absurd he List.not_mem_nil⟩
    rw [hstep]
    rintro ⟨k, hk⟩
    rw [sent_entry] at hk
    split at hk
    · exact hne (Option.some.inj hk)
    · exact hnot ⟨k, hk⟩

theorem gone_run {m : μ} (ops : List (ArqOp μ)) : ∀ {s : ArqRun μ}, Gone m s →
    AcceptedOnce m (run arqStep s ops) →
    ∃ ev, (run arqStep s ops).io.trace = s.io.trace ++ ev ∧ ∀ e ∈ ev, e.buffer ≠ m := by
  induction ops with
  | nil => intro s _ _; exact ⟨[], by simp, by simp⟩
  | cons op ops ih =>
    intro s h honce
    obtain ⟨hgone, ev, htrace, hev⟩ :=
      gone_step h op (honce.before (packets_prefix_run ops (arqStep s op)))
    obtain ⟨ev', htrace', hev'⟩ := ih hgone honce
    refine ⟨ev ++ ev', by rw [run_cons, htrace', htrace, List.append_assoc], fun e he => ?_⟩
    rcases List.mem_append.mp he with he | he
    · exact hev e he
    · exact hev' e he

end RdmaGateway.Arq
