/-
  Arq/Retransmit.lean --- which packets a negative acknowledgement sends again.

  `arq_handle_nack` walks from `send_base` and selects every entry whose PSN the
  reported one covers, that is the reported packet and what was sent before it,
  until `MAX_RETX_BURST` entries are selected.  The reported packet comes last, so
  it is selected when fewer than 64 covered entries lie before it and left out
  otherwise (`nack_retransmits_iff`).  Entries whose buffer is gone are selected
  like the others and use up places.
-/
import RdmaGateway.Arq.Release

set_option autoImplicit false

namespace RdmaGateway.Arq

open RdmaGateway.Foundation
open RdmaGateway.Dpdk
open RdmaGateway.Roce

variable {μ : Type}

/-! ## The selection -/

/-- `retrans_idx` at the end of the selection loop of `arq_handle_nack`. -/
def retransIdx (arq : ArqContext μ) (nackPsn : Nat) (io : Io μ) : List Nat :=
  (arq.seqs.foldl (arqNackSelect nackPsn) ⟨arq, io, []⟩).retransIdx

/-- The covered ones of some sequence numbers. -/
def ArqContext.coveredOf (arq : ArqContext μ) (nackPsn : Nat) (is : List Nat) : List Nat :=
  is.filter fun i => Covers nackPsn (arq.entry i).psn

theorem SameWindow.coveredOf {arq arq' : ArqContext μ} (h : SameWindow arq arq') (nackPsn : Nat)
    (is : List Nat) : arq'.coveredOf nackPsn is = arq.coveredOf nackPsn is := by
  refine List.filter_congr fun i _ => ?_
  obtain ⟨t, r, he⟩ := h.entry i
  rw [he]

/-- The loop selects the first of the covered entries, as many as there are
places left. -/
theorem arqNackScan_retransIdx (nackPsn : Nat) (is : List Nat) :
    ∀ s : NackScan μ, (is.foldl (arqNackSelect nackPsn) s).retransIdx =
      s.retransIdx ++ ((s.arq.coveredOf nackPsn is).take
        (maxRetxBurst - s.retransIdx.length)).map (· % windowSize) := by
  induction is with
  | nil => intro s; simp [ArqContext.coveredOf]
  | cons i is ih =>
    intro s
    rw [List.foldl_cons, ih, (arqNackSelect_sameWindow nackPsn s i).coveredOf]
    by_cases hcov : Covers nackPsn (s.arq.entry i).psn
    · have hcons : s.arq.coveredOf nackPsn (i :: is) = i :: s.arq.coveredOf nackPsn is := by
        simp [ArqContext.coveredOf, hcov]
      rw [hcons]
      by_cases hroom : s.retransIdx.length < maxRetxBurst
      · have hselect : (arqNackSelect nackPsn s i).retransIdx =
            s.retransIdx ++ [i % windowSize] := by
          rw [arqNackSelect_of_selects ⟨hroom, hcov⟩]
        obtain ⟨n, hn⟩ := Nat.exists_eq_succ_of_ne_zero (Nat.sub_ne_zero_of_lt hroom)
        have hn' : maxRetxBurst - (s.retransIdx.length + 1) = n := by omega
        rw [hselect, List.length_append, List.length_singleton, hn', hn, List.take_succ_cons,
          List.map_cons, List.append_assoc, List.singleton_append]
      · have hskip : arqNackSelect nackPsn s i = s :=
          arqNackSelect_of_not_selects fun h => hroom h.1
        rw [hskip, Nat.sub_eq_zero_of_le (Nat.le_of_not_lt hroom), List.take_zero, List.take_zero]
    · have hcons : s.arq.coveredOf nackPsn (i :: is) = s.arq.coveredOf nackPsn is := by
        simp [ArqContext.coveredOf, hcov]
      have hskip : arqNackSelect nackPsn s i = s :=
        arqNackSelect_of_not_selects fun h => hcov h.2
      rw [hskip, hcons]

/-- Of a range with the elements that fail a test left out, the first `m` contain
`k` when fewer than `m` that pass it lie before `k`. -/
theorem mem_take_filter_range' {p : Nat → Bool} {a n m k : Nat} :
    k ∈ ((List.range' a n).filter p).take m ↔
      (a ≤ k ∧ k < a + n) ∧ p k = true ∧
        ((List.range' a (k - a)).filter p).length < m := by
  by_cases hk : (a ≤ k ∧ k < a + n) ∧ p k = true
  · obtain ⟨⟨hle, hlt⟩, hpass⟩ := hk
    have hsplit : List.range' a n =
        List.range' a (k - a) ++ k :: List.range' (k + 1) (n - (k - a) - 1) := by
      have hback : k :: List.range' (k + 1) (n - (k - a) - 1) = List.range' k (n - (k - a)) := by
        rw [show n - (k - a) = n - (k - a) - 1 + 1 by omega, List.range'_succ]
        rfl
      have hall : List.range' a (k - a) ++ List.range' (a + (k - a)) (n - (k - a)) =
          List.range' a (k - a + (n - (k - a))) := List.range'_append_1
      rw [Nat.add_sub_cancel' hle, show k - a + (n - (k - a)) = n by omega] at hall
      rw [hback, hall]
    have hbefore : k ∉ (List.range' a (k - a)).filter p := by
      intro h
      have := (List.mem_range'_1.mp (List.mem_filter.mp h).1).2
      omega
    rw [hsplit, List.filter_append, List.filter_cons_of_pos hpass, List.take_append]
    generalize (List.range' a (k - a)).filter p = front at hbefore ⊢
    have hnot : k ∉ front.take m := fun h => hbefore (List.mem_of_mem_take h)
    rw [List.mem_append, or_iff_right hnot]
    by_cases hroom : front.length < m
    · obtain ⟨j, hj⟩ := Nat.exists_eq_succ_of_ne_zero (Nat.sub_ne_zero_of_lt hroom)
      rw [hj, List.take_succ_cons]
      simp [hle, hlt, hpass, hroom]
    · rw [Nat.sub_eq_zero_of_le (Nat.le_of_not_lt hroom), List.take_zero]
      simp [hroom]
  · refine ⟨fun h => absurd ?_ hk, fun h => absurd ⟨h.1, h.2.1⟩ hk⟩
    have hmem := List.mem_filter.mp (List.mem_of_mem_take h)
    exact ⟨List.mem_range'_1.mp hmem.1, hmem.2⟩

/-- The walk from `send_base` meets slot `k` while fewer than `MAX_RETX_BURST`
covered entries lie behind it. -/
def ArqContext.WithinBurst (arq : ArqContext μ) (nackPsn k : Nat) : Prop :=
  ∃ i, arq.sendBase ≤ i ∧ i < arq.sendNext ∧ i % windowSize = k % windowSize ∧
    (arq.coveredOf nackPsn (List.range' arq.sendBase (i - arq.sendBase))).length < maxRetxBurst

/-- A covered slot is selected exactly when it is within the burst. -/
theorem mem_retransIdx_iff {arq : ArqContext μ} {nackPsn k : Nat} (io : Io μ)
    (hcov : Covers nackPsn (arq.entry k).psn) :
    k % windowSize ∈ retransIdx arq nackPsn io ↔ arq.WithinBurst nackPsn k := by
  rw [retransIdx, arqNackScan_retransIdx, List.nil_append, List.length_nil, Nat.sub_zero,
    List.mem_map]
  simp only [ArqContext.coveredOf, ArqContext.seqs, mem_take_filter_range', decide_eq_true_eq]
  constructor
  · rintro ⟨i, ⟨⟨hi, hi'⟩, -, hcount⟩, hslot⟩
    exact ⟨i, hi, by omega, hslot, hcount⟩
  · rintro ⟨i, hi, hi', hslot, hcount⟩
    exact ⟨i, ⟨⟨hi, by omega⟩, by rwa [entry_congr arq hslot], hcount⟩, hslot⟩

/-! ## The transmissions -/

/-- Between two points of the trace the WAN port was offered the buffer. -/
def TxAttempted (m : μ) (io io' : Io μ) : Prop :=
  ∃ events accepted, io'.trace = io.trace ++ events ∧ .txBurst .wan m accepted ∈ events

/-- The trace only grows. -/
def Extends (io io' : Io μ) : Prop := ∃ events, io'.trace = io.trace ++ events

theorem Extends.refl (io : Io μ) : Extends io io := ⟨[], by simp⟩

theorem Extends.trans {a b c : Io μ} (hab : Extends a b) (hbc : Extends b c) : Extends a c := by
  obtain ⟨ev, hb⟩ := hab
  obtain ⟨ev', hc⟩ := hbc
  exact ⟨ev ++ ev', by rw [hc, hb, List.append_assoc]⟩

theorem TxAttempted.after {m : μ} {a b c : Io μ} (hab : Extends a b) (hbc : TxAttempted m b c) :
    TxAttempted m a c := by
  obtain ⟨ev, hb⟩ := hab
  obtain ⟨ev', accepted, hc, hmem⟩ := hbc
  exact ⟨ev ++ ev', accepted, by rw [hc, hb, List.append_assoc], List.mem_append_right _ hmem⟩

theorem TxAttempted.before {m : μ} {a b c : Io μ} (hab : TxAttempted m a b) (hbc : Extends b c) :
    TxAttempted m a c := by
  obtain ⟨ev, accepted, hb, hmem⟩ := hab
  obtain ⟨ev', hc⟩ := hbc
  exact ⟨ev ++ ev', accepted, by rw [hc, hb, List.append_assoc], List.mem_append_left _ hmem⟩

theorem txKeeping_attempts (m : μ) (io : Io μ) : TxAttempted m io (txKeeping m io).2 := by
  refine ⟨_, (txKeeping m io).1, txKeeping_events m io, ?_⟩
  simp [retransmitEvents]

/-- One round of the transmission loop of `arq_handle_nack`. -/
def retransmit (arq : ArqContext μ) (io : Io μ) (idx : Nat) : Io μ :=
  match (arq.sendWindow.get idx).mbuf with
  | some m => (txKeeping m io).2
  | none => io

theorem retransmit_extends (arq : ArqContext μ) (io : Io μ) (idx : Nat) :
    Extends io (retransmit arq io idx) := by
  unfold retransmit
  split
  · obtain ⟨ev, _, h, _⟩ := txKeeping_attempts _ io
    exact ⟨ev, h⟩
  · exact .refl io

theorem retransmits_extends (arq : ArqContext μ) (is : List Nat) :
    ∀ io, Extends io (is.foldl (retransmit arq) io) := by
  induction is with
  | nil => intro io; exact .refl io
  | cons i is ih => intro io; exact (retransmit_extends arq io i).trans (ih _)

/-- The loop offers the buffer of every selected slot that has one. -/
theorem retransmits_attempts {arq : ArqContext μ} {m : μ} {k : Nat} (is : List Nat)
    (hk : k % windowSize ∈ is) (hm : (arq.entry k).mbuf = some m) :
    ∀ io, TxAttempted m io (is.foldl (retransmit arq) io) := by
  induction is with
  | nil => exact absurd hk List.not_mem_nil
  | cons i is ih =>
    intro io
    rcases List.mem_cons.mp hk with rfl | hk
    · have hget : (arq.sendWindow.get (k % windowSize)).mbuf = some m := by
        rwa [Ring.get_mod]
      have hround : retransmit arq io (k % windowSize) = (txKeeping m io).2 := by
        simp only [retransmit, hget]
      rw [List.foldl_cons, hround]
      exact (txKeeping_attempts m io).before (retransmits_extends arq is _)
    · exact (ih hk _).after (retransmit_extends arq io i)

/-- The buffer of the entry in slot `k` is among those `arq_handle_nack` selects,
and the WAN port is offered it. -/
def Retransmits (arq : ArqContext μ) (nackPsn : Nat) (io : Io μ) (k : Nat) : Prop :=
  k % windowSize ∈ retransIdx arq nackPsn io ∧
    ∃ m, (arq.entry k).mbuf = some m ∧ TxAttempted m io (arqHandleNack arq nackPsn io).2.2

/-- What is selected and still has its buffer is sent again. -/
theorem retransmits_iff_selected {arq : ArqContext μ} {nackPsn k : Nat} {m : μ} (io : Io μ)
    (hm : (arq.entry k).mbuf = some m) :
    Retransmits arq nackPsn io k ↔ k % windowSize ∈ retransIdx arq nackPsn io := by
  refine ⟨And.left, fun hsel => ⟨hsel, m, hm, ?_⟩⟩
  have hsame := arqNackScan_sameWindow nackPsn arq.seqs ⟨arq, io, []⟩
  have htrace := arqNackScan_trace nackPsn arq.seqs ⟨arq, io, []⟩
  rw [retransIdx] at hsel
  change TxAttempted m io ((arq.seqs.foldl (arqNackSelect nackPsn) ⟨arq, io, []⟩).retransIdx.foldl
    (retransmit (arq.seqs.foldl (arqNackSelect nackPsn) ⟨arq, io, []⟩).arq)
    (arq.seqs.foldl (arqNackSelect nackPsn) ⟨arq, io, []⟩).io)
  generalize arq.seqs.foldl (arqNackSelect nackPsn) ⟨arq, io, []⟩ = s at hsame htrace hsel ⊢
  obtain ⟨t, r, he⟩ := hsame.entry k
  refine (retransmits_attempts s.retransIdx hsel (m := m) ?_ s.io).after ⟨[], by simp [htrace]⟩
  rw [he]
  exact hm

/-! ## Runs -/

/-- An entry in flight has a buffer. -/
def Loaded (arq : ArqContext μ) : Prop :=
  ∀ k, (arq.entry k).inFlight = true → ∃ m, (arq.entry k).mbuf = some m

theorem loaded_step {s : ArqRun μ} (h : Loaded s.arq) (op : ArqOp μ) :
    Loaded (arqStep s op).arq := by
  intro k hk
  cases op with
  | send m psn ty =>
    cases hslot : (s.arq.entry s.arq.sendNext).inFlight with
    | true =>
      rw [arqStep_send_rejected hslot] at hk ⊢
      exact h k hk
    | false =>
      rw [arqStep_send_accepted hslot] at hk ⊢
      simp only [sent_entry] at hk ⊢
      split at hk
      · exact ⟨m, by simp [*]⟩
      · obtain ⟨m', hm'⟩ := h k hk
        exact ⟨m', by simp [*]⟩
  | ack psn =>
    simp only [arqStep] at hk ⊢
    rcases arqHandleAck_entry s.arq psn s.io k with he | ⟨-, he⟩
    · rw [he] at hk ⊢
      exact h k hk
    · rw [he] at hk
      cases hk
  | nack psn =>
    obtain ⟨t, r, he⟩ := (arqHandleNack_sameWindow s.arq psn s.io).entry k
    simp only [arqStep, he] at hk ⊢
    exact h k hk
  | timeouts =>
    obtain ⟨-, -, -, he⟩ := arqCheckTimeouts_spec s.arq s.io
    simp only [arqStep, he k] at hk ⊢
    split at hk
    · rename_i hvisited
      rw [if_pos hvisited]
      rcases timeoutEntry_cases (tickNow s.io) (timeoutCycles s.io) (s.arq.entry k) with
        ⟨t, r, hr⟩ | ⟨-, hr⟩
      · rw [hr] at hk ⊢
        exact h k hk
      · rw [hr] at hk
        cases hk
    · rename_i hnot
      rw [if_neg hnot]
      exact h k hk

theorem loaded_run (ops : List (ArqOp μ)) :
    ∀ {s : ArqRun μ}, Loaded s.arq → Loaded (run arqStep s ops).arq := by
  induction ops with
  | nil => intro s h; exact h
  | cons op ops ih => intro s h; exact ih (loaded_step h op)

theorem covers_self (psn : Nat) : Covers psn psn := by
  rw [Covers, psnForwardDist_eq, Circle.dist_self]
  decide

/-- In a window in order, the entries before sequence number `k` are all covered
by its PSN, so it is within the burst when fewer than 64 lie before it. -/
theorem SeqInv.withinBurst_iff {s : ArqRun μ} (h : SeqInv s)
    (hforward : s.accepted.IsChain MovesForward) (hspan : s.arq.SpansLessThanHalf) {k : Nat}
    (hk : s.arq.sendBase ≤ k) (hk' : k < s.arq.sendNext) :
    s.arq.WithinBurst (s.arq.entry k).psn k ↔ k - s.arq.sendBase < maxRetxBurst := by
  have hroom := h.next_le
  have hbefore : s.arq.coveredOf (s.arq.entry k).psn
      (List.range' s.arq.sendBase (k - s.arq.sendBase)) =
        List.range' s.arq.sendBase (k - s.arq.sendBase) := by
    refine List.filter_eq_self.mpr fun i hi => ?_
    obtain ⟨hi, hi'⟩ := List.mem_range'_1.mp hi
    have hcov := h.covers_downward hforward hspan (fun _ => Or.inl (hspan k hk hk')) hi
      (by omega) hk' (covers_self _)
    simpa using hcov
  constructor
  · rintro ⟨i, hi, hi', hslot, hcount⟩
    -- fewer than 256 apart, `i` and `k` share a slot only if they are equal
    have hik : i = k := by
      rcases Nat.lt_trichotomy i k with hlt | heq | hgt
      · exact absurd hslot (Ring.mod_ne_of_lt_of_sub_lt hlt (by omega))
      · exact heq
      · exact absurd hslot.symm (Ring.mod_ne_of_lt_of_sub_lt hgt (by omega))
    subst hik
    rwa [hbefore, List.length_range'] at hcount
  · intro hfew
    exact ⟨k, hk, hk', rfl, by rwa [hbefore, List.length_range']⟩

/-- A negative acknowledgement of an entry in flight sends that entry again
exactly when the walk from `send_base` reaches it with fewer than 64 covered
entries behind it; in a window whose PSNs move forward these are the packets sent
before it. -/
theorem nack_retransmits_iff {qpn : Nat} {io : Io μ} {ops : List (ArqOp μ)} {s : ArqRun μ}
    (hs : run arqStep (.start qpn io) ops = s) {k : Nat}
    (hflight : (s.arq.entry k).inFlight = true) :
    (Retransmits s.arq (s.arq.entry k).psn s.io k ↔ s.arq.WithinBurst (s.arq.entry k).psn k) ∧
    (s.accepted.length < 2 ^ 32 → StepsMeet arqStep OldestHeld (.start qpn io) ops →
      s.accepted.IsChain MovesForward → s.arq.SpansLessThanHalf →
      s.arq.sendBase ≤ k → k < s.arq.sendNext →
      (Retransmits s.arq (s.arq.entry k).psn s.io k ↔ k - s.arq.sendBase < maxRetxBurst)) := by
  have hloaded : Loaded s.arq := by
    rw [← hs]
    exact loaded_run ops fun i hi => absurd hi (by simp [ArqRun.start, ArqContext.fresh,
      ArqContext.entry, ArqSendEntry.zero])
  obtain ⟨m, hm⟩ := hloaded k hflight
  have hiff : Retransmits s.arq (s.arq.entry k).psn s.io k ↔
      s.arq.WithinBurst (s.arq.entry k).psn k :=
    (retransmits_iff_selected s.io hm).trans (mem_retransIdx_iff s.io (covers_self _))
  refine ⟨hiff, fun hlen hmeet hforward hspan hk hk' => hiff.trans ?_⟩
  subst hs
  exact (seqInv_run (seqInv_start qpn io) hmeet hlen).withinBurst_iff hforward hspan hk hk'

/-- Three packets across the PSN wrap, the last of them reported missing: it is
sent again, and the two before it with it. -/
theorem nack_retransmits_across_wrap :
    Retransmits (run arqStep (.start 7 (.start (.accepting none))) sendsAcrossWrap).arq
      ((run arqStep (.start 7 (.start (.accepting none))) sendsAcrossWrap).arq.entry 2).psn
      (run arqStep (.start 7 (.start (.accepting none))) sendsAcrossWrap).io 2 ∧
    (run arqStep (.start 7 (.start (.accepting none))) sendsAcrossWrap).arq.WithinBurst
      ((run arqStep (.start 7 (.start (.accepting none))) sendsAcrossWrap).arq.entry 2).psn 2 := by
  have hflight : ((run arqStep (.start 7 (.start (.accepting none))) sendsAcrossWrap).arq.entry
      2).inFlight = true := by decide +kernel
  obtain ⟨hiff, hplace⟩ := nack_retransmits_iff rfl hflight
  have hmeet : StepsMeet arqStep OldestHeld (.start 7 (.start (.accepting none)))
      sendsAcrossWrap :=
    ⟨fun h => absurd h (by decide +kernel), fun h => absurd h (by decide +kernel),
      fun h => absurd h (by decide +kernel), trivial⟩
  have haccepted : (run arqStep (.start 7 (.start (.accepting none))) sendsAcrossWrap).accepted =
      [(10, 0xFFFFFE, .first), (11, 0xFFFFFF, .middle), (12, 0, .last)] := by decide +kernel
  have hsent := (hplace (by decide +kernel) hmeet ?_ ?_ (by decide +kernel)
    (by decide +kernel)).mpr (by decide +kernel)
  · exact ⟨hsent, hiff.mp hsent⟩
  · rw [haccepted]
    exact .cons_cons (by decide) (.cons_cons (by decide) (.singleton _))
  · intro i _ hi
    have hi' : i < 3 := hi
    obtain rfl | rfl | rfl : i = 0 ∨ i = 1 ∨ i = 2 := by omega
    all_goals decide +kernel

/-- Packets 0 to 64, none acknowledged. -/
def sixtyFive : List (ArqOp Nat) := (List.range 65).map fun i => .send i i .only

/-- Packet 64 is reported missing: packets 0 to 63 are selected, 64 is not. -/
theorem nack_misses_packet_64 :
    (run arqStep (.start 7 (.start (.accepting none))) sixtyFive).accepted.IsChain
      MovesForward ∧
    (run arqStep (.start 7 (.start (.accepting none))) sixtyFive).arq.SpansLessThanHalf ∧
    ((run arqStep (.start 7 (.start (.accepting none))) sixtyFive).arq.entry 64).psn = 64 ∧
    ((run arqStep (.start 7 (.start (.accepting none))) sixtyFive).arq.entry 64).inFlight = true ∧
    retransIdx (run arqStep (.start 7 (.start (.accepting none))) sixtyFive).arq 64
      (run arqStep (.start 7 (.start (.accepting none))) sixtyFive).io = List.range 64 ∧
    ¬ Retransmits (run arqStep (.start 7 (.start (.accepting none))) sixtyFive).arq 64
      (run arqStep (.start 7 (.start (.accepting none))) sixtyFive).io 64 := by
  have hselected : retransIdx (run arqStep (.start 7 (.start (.accepting none))) sixtyFive).arq 64
      (run arqStep (.start 7 (.start (.accepting none))) sixtyFive).io = List.range 64 := by
    decide +kernel
  refine ⟨by decide +kernel, fun i hi hi' => ?_, by decide +kernel, by decide +kernel, hselected,
    fun h => ?_⟩
  · have hspan : ∀ i < 65, psnForwardDist
        ((run arqStep (.start 7 (.start (.accepting none))) sixtyFive).arq.entry 0).psn
        ((run arqStep (.start 7 (.start (.accepting none))) sixtyFive).arq.entry i).psn <
          psnHalf := by decide +kernel
    have hbase : (run arqStep (.start 7 (.start (.accepting none))) sixtyFive).arq.sendBase = 0 := by
      decide +kernel
    have hnext : (run arqStep (.start 7 (.start (.accepting none))) sixtyFive).arq.sendNext = 65 := by
      decide +kernel
    rw [hnext] at hi'
    rw [hbase]
    exact hspan i hi'
  · have hmem := h.1
    rw [hselected] at hmem
    exact absurd hmem (by decide)

end RdmaGateway.Arq
