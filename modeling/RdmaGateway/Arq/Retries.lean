/-
  Arq/Retries.lean --- how often the timer sends a packet again.

  `retry_count` is an 8-bit field with two writers.  `arq_check_timeouts` looks at
  `MAX_RETRY_COUNT` before it counts a retry, so what it counts stays small.
  `arq_handle_nack` counts every selection and looks at no limit: at 255 the field wraps
  to 0, and the timer starts over with a packet it had given up on.  The count of a packet
  in flight therefore never decreases, and the timer keeps to its limit, exactly in the
  runs in which no negative acknowledgement makes the field wrap (`retries_bounded_iff`).
-/
import RdmaGateway.Arq.Held

set_option autoImplicit false

namespace RdmaGateway.Arq

open RdmaGateway.Foundation
open RdmaGateway.Dpdk
open RdmaGateway.Roce

variable {μ : Type}

/-! ## What is counted -/

/-- Slot `k` is in flight. -/
def SlotInFlight (k : Nat) (s : ArqRun μ) : Prop := (s.arq.entry k).inFlight = true

instance (k : Nat) : DecidablePred (SlotInFlight k : ArqRun μ → Prop) :=
  fun _ => inferInstanceAs (Decidable (_ = _))

/-- The step does not decrease the retry count of slot `k`, or takes it out of flight. -/
def RetryKept (k : Nat) (s : ArqRun μ) (op : ArqOp μ) : Prop :=
  SlotInFlight k (arqStep s op) →
    (s.arq.entry k).retryCount ≤ ((arqStep s op).arq.entry k).retryCount

instance (k : Nat) (s : ArqRun μ) (op : ArqOp μ) : Decidable (RetryKept k s op) :=
  inferInstanceAs (Decidable (_ → _))

/-- How often a walk of `arq_check_timeouts` sends the packet in slot `k` again. -/
def walkRetransmits (now timeout k : Nat) : List Nat → ArqContext μ × Io μ → Nat
  | [], _ => 0
  | i :: is, s =>
    (if i % windowSize = k % windowSize ∧ (s.1.entry i).Due now timeout ∧
        (s.1.entry i).retryCount < maxRetryCount then 1 else 0) +
      walkRetransmits now timeout k is (arqTimeoutVisit now timeout s i)

/-- How often a step of the timer sends the packet in slot `k` again. -/
def tickRetransmits (k : Nat) (s : ArqRun μ) : ArqOp μ → Nat
  | .timeouts =>
    walkRetransmits (tickNow s.io) (timeoutCycles s.io) k s.arq.seqs (s.arq, (rteRdtsc s.io).2)
  | _ => 0

/-- How often the timer sends the packet in slot `k` again, up to the first state in
which it is not in flight any more. -/
def timerRetransmits (k : Nat) : ArqRun μ → List (ArqOp μ) → Nat :=
  costWhile arqStep (SlotInFlight k) (tickRetransmits k)

/-- How often `arq_handle_nack` counts a retry for slot `k`: the number of times the slot
is among the first 64 covered entries of the window. -/
def ArqContext.nackRetries (arq : ArqContext μ) (nackPsn k : Nat) : Nat :=
  (((arq.coveredOf nackPsn arq.seqs).take maxRetxBurst).map (· % windowSize)).count
    (k % windowSize)

/-- The retry count of slot `k` has room for what a negative acknowledgement adds. -/
def NackFits (k : Nat) (s : ArqRun μ) : ArqOp μ → Prop
  | .nack psn => (s.arq.entry k).retryCount + s.arq.nackRetries psn k ≤ 255
  | _ => True

instance (k : Nat) (s : ArqRun μ) : DecidablePred (NackFits k s : ArqOp μ → Prop)
  | .nack _ => inferInstanceAs (Decidable (_ ≤ _))
  | .send _ _ _ => inferInstanceAs (Decidable True)
  | .ack _ => inferInstanceAs (Decidable True)
  | .timeouts => inferInstanceAs (Decidable True)

/-! ## `arq_handle_nack` -/

/-- The retry count of slot `k` was `r` and has counted its selections since. -/
def CountsFrom (r k : Nat) (s : NackScan μ) : Prop :=
  (s.arq.entry k).retryCount = (r + s.retransIdx.count (k % windowSize)) % 256

theorem arqNackSelect_countsFrom {r k : Nat} {s : NackScan μ} (h : CountsFrom r k s)
    (nackPsn i : Nat) : CountsFrom r k (arqNackSelect nackPsn s i) := by
  rcases arqNackSelect_cases nackPsn s i with hs | hs
  · rwa [hs]
  · unfold CountsFrom at h ⊢
    rw [hs, selected_entry, List.count_append, List.count_singleton]
    split
    · rename_i hslot
      rw [if_pos (beq_iff_eq.mpr hslot.symm)]
      change inc8 (s.arq.entry k).retryCount = _
      rw [h, inc8]
      omega
    · rename_i hslot
      have hne : ¬ (i % windowSize == k % windowSize) = true :=
        fun heq => hslot (beq_iff_eq.mp heq).symm
      rw [h, if_neg hne, Nat.add_zero]

theorem arqNackScan_countsFrom {r k : Nat} (nackPsn : Nat) (is : List Nat) :
    ∀ {s : NackScan μ}, CountsFrom r k s →
      CountsFrom r k (is.foldl (arqNackSelect nackPsn) s) := by
  induction is with
  | nil => intro s h; exact h
  | cons i is ih => intro s h; exact ih (arqNackSelect_countsFrom h nackPsn i)

/-- `arq_handle_nack` adds the selections of a slot to its retry count, modulo 256. -/
theorem arqHandleNack_retryCount {arq : ArqContext μ} {k : Nat}
    (h : (arq.entry k).retryCount < 256) (nackPsn : Nat) (io : Io μ) :
    ((arqHandleNack arq nackPsn io).2.1.entry k).retryCount =
      ((arq.entry k).retryCount + arq.nackRetries nackPsn k) % 256 := by
  have hstart : CountsFrom (arq.entry k).retryCount k ⟨arq, io, []⟩ := (Nat.mod_eq_of_lt h).symm
  have hend := arqNackScan_countsFrom nackPsn arq.seqs hstart
  rw [CountsFrom, arqNackScan_retransIdx, List.nil_append, List.length_nil, Nat.sub_zero] at hend
  exact hend

theorem nackRetries_le (arq : ArqContext μ) (nackPsn k : Nat) :
    arq.nackRetries nackPsn k ≤ maxRetxBurst := by
  refine List.count_le_length.trans ?_
  rw [List.length_map, List.length_take]
  exact Nat.min_le_left _ _

/-! ## `arq_check_timeouts` -/

/-- A walk sends a packet again at most once: when it meets the slot, and the packet is
due and has a retry left. -/
theorem walkRetransmits_eq (now timeout k : Nat) (is : List Nat) :
    ∀ (arq : ArqContext μ) (io : Io μ), walkRetransmits now timeout k is (arq, io) =
      if (∃ i ∈ is, k % windowSize = i % windowSize) ∧ (arq.entry k).Due now timeout ∧
        (arq.entry k).retryCount < maxRetryCount then 1 else 0 := by
  induction is with
  | nil => intro arq io; simp [walkRetransmits]
  | cons i is ih =>
    intro arq io
    have hrest := ih (arqTimeoutVisit now timeout (arq, io) i).1
      (arqTimeoutVisit now timeout (arq, io) i).2
    rw [arqTimeoutVisit_entry] at hrest
    rw [walkRetransmits]
    by_cases hslot : k % windowSize = i % windowSize
    · -- the rounds that follow find the slot acted on
      rw [if_pos hslot, if_neg fun h => not_due_timeoutEntry _ h.2.1] at hrest
      rw [hrest, Nat.add_zero, entry_congr arq hslot]
      simp [hslot]
    · rw [if_neg hslot] at hrest
      rw [hrest, if_neg fun h => hslot h.1.symm, Nat.zero_add]
      simp [hslot]

/-- What a tick that sends the packet again does to the entry, and what one that does not
can do. -/
theorem tick_cases (k : Nat) (s : ArqRun μ) :
    (tickRetransmits k s .timeouts = 1 ∧ (s.arq.entry k).retryCount < maxRetryCount ∧
      ((arqStep s .timeouts).arq.entry k).retryCount = (s.arq.entry k).retryCount + 1) ∨
    (tickRetransmits k s .timeouts = 0 ∧ (SlotInFlight k (arqStep s .timeouts) →
      ((arqStep s .timeouts).arq.entry k).retryCount = (s.arq.entry k).retryCount)) := by
  obtain ⟨-, -, -, hentry⟩ := arqCheckTimeouts_spec s.arq s.io
  have hentry : (arqStep s .timeouts).arq.entry k =
      if ∃ i ∈ s.arq.seqs, k % windowSize = i % windowSize
      then timeoutEntry (tickNow s.io) (timeoutCycles s.io) (s.arq.entry k) else s.arq.entry k :=
    hentry k
  rw [SlotInFlight, tickRetransmits, walkRetransmits_eq, hentry]
  by_cases hvisited : ∃ i ∈ s.arq.seqs, k % windowSize = i % windowSize
  · rw [if_pos hvisited]
    by_cases hdue : (s.arq.entry k).Due (tickNow s.io) (timeoutCycles s.io)
    · rcases Nat.lt_or_ge (s.arq.entry k).retryCount maxRetryCount with hr | hr
      · rw [if_pos ⟨hvisited, hdue, hr⟩, timeoutEntry_of_retry hdue hr]
        exact Or.inl ⟨rfl, hr, rfl⟩
      · rw [if_neg fun h => absurd h.2.2 (Nat.not_lt.mpr hr), timeoutEntry_of_exhausted hdue hr]
        exact Or.inr ⟨rfl, fun h => absurd h Bool.false_ne_true⟩
    · rw [if_neg fun h => hdue h.2.1, timeoutEntry_of_not_due hdue]
      exact Or.inr ⟨rfl, fun _ => rfl⟩
  · rw [if_neg hvisited, if_neg fun h => hvisited h.1]
    exact Or.inr ⟨rfl, fun _ => rfl⟩

/-! ## One step -/

/-- The retry count of a slot in flight is an 8-bit value. -/
def RetryFits (k : Nat) (s : ArqRun μ) : Prop :=
  SlotInFlight k s → (s.arq.entry k).retryCount < 256

section Step

variable {k : Nat} {s : ArqRun μ}

theorem nack_inFlight (hflight : SlotInFlight k s) (psn : Nat) :
    SlotInFlight k (arqStep s (.nack psn)) := by
  obtain ⟨t, r, he⟩ := (arqHandleNack_sameWindow s.arq psn s.io).entry k
  have he : (arqStep s (.nack psn)).arq.entry k =
      { s.arq.entry k with sendTime := t, retryCount := r } := he
  rw [SlotInFlight, he]
  exact hflight

/-- What a step can do to the retry count of a slot that it leaves in flight: a negative
acknowledgement adds to it modulo 256, a tick adds one within the limit, and nothing else
changes it. -/
theorem retryCount_step (hflight : SlotInFlight k s) (hfits : RetryFits k s) (op : ArqOp μ)
    (hflight' : SlotInFlight k (arqStep s op)) :
    (∃ psn, op = .nack psn ∧ ((arqStep s op).arq.entry k).retryCount =
      ((s.arq.entry k).retryCount + s.arq.nackRetries psn k) % 256) ∨
    NackFits k s op ∧ (((arqStep s op).arq.entry k).retryCount = (s.arq.entry k).retryCount ∨
      (s.arq.entry k).retryCount < maxRetryCount ∧
        ((arqStep s op).arq.entry k).retryCount = (s.arq.entry k).retryCount + 1) := by
  cases op with
  | send m psn ty =>
    refine Or.inr ⟨trivial, Or.inl ?_⟩
    cases hslot : (s.arq.entry s.arq.sendNext).inFlight with
    | true => rw [arqStep_send_rejected hslot]
    | false =>
      rw [arqStep_send_accepted hslot, sent_entry, if_neg]
      -- the slot that is filled was free
      intro heq
      rw [SlotInFlight, entry_congr s.arq heq, hslot] at hflight
      cases hflight
  | ack psn =>
    refine Or.inr ⟨trivial, Or.inl ?_⟩
    have hcount : ((arqHandleAck s.arq psn s.io).1.entry k).retryCount =
        (s.arq.entry k).retryCount := by
      rcases arqHandleAck_entry s.arq psn s.io k with he | ⟨-, he⟩
      · rw [he]
      · rw [he]
        rfl
    exact hcount
  | nack psn => exact Or.inl ⟨psn, rfl, arqHandleNack_retryCount (hfits hflight) psn s.io⟩
  | timeouts =>
    refine Or.inr ⟨trivial, ?_⟩
    rcases tick_cases k s with ⟨-, hr, heq⟩ | ⟨-, heq⟩
    · exact Or.inr ⟨hr, heq⟩
    · exact Or.inl (heq hflight')

theorem retryFits_step (hflight : SlotInFlight k s) (hfits : RetryFits k s) (op : ArqOp μ) :
    RetryFits k (arqStep s op) := by
  intro hflight'
  have hlt := hfits hflight
  rcases retryCount_step hflight hfits op hflight' with ⟨psn, -, heq⟩ | ⟨-, heq | ⟨hr, heq⟩⟩
  · rw [heq]
    exact Nat.mod_lt _ (by decide)
  · rwa [heq]
  · unfold maxRetryCount at hr
    omega

/-- The retry count of a packet in flight decreases in a step exactly when a negative
acknowledgement makes it wrap: it adds at most 64, so that the sum modulo 256 is smaller
than the count was. -/
theorem retryKept_iff (hflight : SlotInFlight k s) (hfits : RetryFits k s) (op : ArqOp μ) :
    RetryKept k s op ↔ NackFits k s op := by
  by_cases hflight' : SlotInFlight k (arqStep s op)
  · rcases retryCount_step hflight hfits op hflight' with ⟨psn, rfl, heq⟩ | ⟨hroom, heq⟩
    · have hlt := hfits hflight
      have hburst : s.arq.nackRetries psn k ≤ 64 := nackRetries_le s.arq psn k
      rw [RetryKept, imp_iff_right hflight', heq, NackFits]
      omega
    · exact iff_of_true (fun _ => by omega) hroom
  · -- a step that releases the slot is no negative acknowledgement
    refine iff_of_true (fun h => absurd h hflight') ?_
    cases op with
    | nack psn => exact absurd (nack_inFlight hflight psn) hflight'
    | send m psn ty => trivial
    | ack psn => trivial
    | timeouts => trivial

/-- A step pays for its retransmissions out of the retries that are left. -/
theorem tickRetransmits_le (op : ArqOp μ) (hkept : RetryKept k s op) :
    tickRetransmits k s op ≤ maxRetryCount - (s.arq.entry k).retryCount ∧
      (SlotInFlight k (arqStep s op) → tickRetransmits k s op +
        (maxRetryCount - ((arqStep s op).arq.entry k).retryCount) ≤
          maxRetryCount - (s.arq.entry k).retryCount) := by
  have hcases : tickRetransmits k s op = 0 ∨ tickRetransmits k s op = 1 ∧
      (s.arq.entry k).retryCount < maxRetryCount ∧
      ((arqStep s op).arq.entry k).retryCount = (s.arq.entry k).retryCount + 1 := by
    cases op with
    | timeouts => exact (tick_cases k s).symm.imp_left And.left
    | send m psn ty => exact Or.inl rfl
    | ack psn => exact Or.inl rfl
    | nack psn => exact Or.inl rfl
  rcases hcases with hzero | ⟨hone, hr, heq⟩
  · refine ⟨by omega, fun hflight' => ?_⟩
    have hle := hkept hflight'
    omega
  · exact ⟨by omega, fun _ => by omega⟩

end Step

/-! ## Runs -/

/-- From the step that accepts a packet on: its retry count never decreases while it is
in flight, and the timer sends it again at most `MAX_RETRY_COUNT` times, exactly when no
negative acknowledgement meets a retry count without room for what it adds. -/
theorem retries_bounded_iff {s : ArqRun μ} (m : μ) (psn : Nat) (ty : WriteSegmentType)
    (hfree : (s.arq.entry s.arq.sendNext).inFlight = false) (ops : List (ArqOp μ)) :
    (StepsMeetWhile arqStep (SlotInFlight s.arq.sendNext) (RetryKept s.arq.sendNext)
        (arqStep s (.send m psn ty)) ops ∧
      timerRetransmits s.arq.sendNext (arqStep s (.send m psn ty)) ops ≤ maxRetryCount) ↔
    StepsMeetWhile arqStep (SlotInFlight s.arq.sendNext) (NackFits s.arq.sendNext)
      (arqStep s (.send m psn ty)) ops := by
  have hstart : ((arqStep s (.send m psn ty)).arq.entry s.arq.sendNext).retryCount = 0 := by
    rw [arqStep_send_accepted hfree, sent_entry, if_pos rfl]
  generalize arqStep s (.send m psn ty) = s₀ at hstart ⊢
  generalize s.arq.sendNext = k at hstart ⊢
  have hfits : RetryFits k s₀ := fun _ => hstart ▸ Nat.zero_lt_succ _
  have hiff : StepsMeetWhile arqStep (SlotInFlight k) (RetryKept k) s₀ ops ↔
      StepsMeetWhile arqStep (SlotInFlight k) (NackFits k) s₀ ops :=
    stepsMeetWhile_congr (RetryFits k) (fun _ op hflight h => retryFits_step hflight h op)
      (fun _ op hflight h => retryKept_iff hflight h op) hfits
  refine ⟨fun h => hiff.mp h.1, fun h => ⟨hiff.mpr h, ?_⟩⟩
  calc timerRetransmits k s₀ ops
      ≤ maxRetryCount - (s₀.arq.entry k).retryCount :=
        costWhile_le (fun s => maxRetryCount - (s.arq.entry k).retryCount)
          (fun _ op _ hkept => tickRetransmits_le op hkept) (hiff.mpr h)
    _ ≤ maxRetryCount := Nat.sub_le _ _

/-- A second packet, and a negative acknowledgement of it between two ticks. -/
def nackBetweenTicks : List (ArqOp Nat) :=
  [.send 2 1 .only, .timeouts, .nack 1, .timeouts, .timeouts, .ack 0]

theorem retries_bounded_nacked :
    StepsMeetWhile arqStep (SlotInFlight 0) (RetryKept 0)
        (arqStep (.start 7 (.start (.accepting none))) (.send 1 0 .only)) nackBetweenTicks ∧
      timerRetransmits 0 (arqStep (.start 7 (.start (.accepting none))) (.send 1 0 .only))
        nackBetweenTicks ≤ maxRetryCount := by
  have hfree : ((ArqRun.start 7 (.start (.accepting none)) : ArqRun Nat).arq.entry
      0).inFlight = false := rfl
  exact (retries_bounded_iff 1 0 .only hfree nackBetweenTicks).mpr (by decide +kernel)

/-- Three retries of the timer, and negative acknowledgements until the field wraps. -/
def nacksUntilWrap : List (ArqOp Nat) :=
  List.replicate 3 .timeouts ++ List.replicate 253 (.nack 0) ++ [.timeouts]

/-- The last negative acknowledgement takes the retry count from 255 to 0, and the timer
sends the packet a fourth time. -/
theorem retry_count_wraps :
    ¬ StepsMeetWhile arqStep (SlotInFlight 0) (RetryKept 0)
        (arqStep (.start 7 (.start (.accepting none))) (.send 1 0 .only)) nacksUntilWrap ∧
    timerRetransmits 0 (arqStep (.start 7 (.start (.accepting none))) (.send 1 0 .only))
      nacksUntilWrap = maxRetryCount + 1 := by
  decide +kernel

end RdmaGateway.Arq
