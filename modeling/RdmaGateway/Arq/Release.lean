/-
  Arq/Release.lean --- a cumulative acknowledgement releases exactly what it
  covers.

  `arq_handle_ack` pops entries from `send_base` on and stops at the first one
  the acknowledged PSN does not cover (`arqHandleAck_popped`).  That this prefix
  is the whole covered set is a fact about the PSNs of the window: they move
  forward along an arc of less than half a turn, so `Circle.atOrBefore_iff_of_arc`
  applies, also to an acknowledgement that lies behind the window.
-/
import RdmaGateway.Arq.Sequence
import Mathlib.Data.List.Chain

set_option autoImplicit false

namespace RdmaGateway.Arq

open RdmaGateway.Foundation
open RdmaGateway.Dpdk
open RdmaGateway.Roce

variable {μ : Type}

/-- The outstanding sequence numbers with their entries, oldest first. -/
def ArqContext.tracked (arq : ArqContext μ) : List (Nat × ArqSendEntry μ) :=
  arq.seqs.map fun i => (i, arq.entry i)

/-- The second of two accepted packets has a PSN strictly ahead of the first. -/
def MovesForward (a b : μ × Nat × WriteSegmentType) : Prop :=
  0 < psnForwardDist a.2.1 b.2.1 ∧ psnForwardDist a.2.1 b.2.1 < psnHalf

instance (a b : μ × Nat × WriteSegmentType) : Decidable (MovesForward a b) :=
  inferInstanceAs (Decidable (_ ∧ _))

/-- Every tracked PSN is less than `2^23` ahead of the oldest one. -/
def ArqContext.SpansLessThanHalf (arq : ArqContext μ) : Prop :=
  ∀ i, arq.sendBase ≤ i → i < arq.sendNext →
    psnForwardDist (arq.entry arq.sendBase).psn (arq.entry i).psn < psnHalf

/-- The acknowledged PSN is less than `2^23` ahead of the oldest tracked PSN or
at most `2^23` behind the newest one. -/
def ArqContext.AckInReach (arq : ArqContext μ) (ackPsn : Nat) : Prop :=
  arq.sendBase < arq.sendNext →
    psnForwardDist (arq.entry arq.sendBase).psn ackPsn < psnHalf ∨
      psnForwardDist ackPsn (arq.entry (arq.sendNext - 1)).psn ≤ psnHalf

/-- The step from `arq` to `arq'` releases the tracked packets the PSN covers and
nothing else: they leave the window, each of them is freed once, and the rest of
the window keeps its entries, slots and order. -/
structure ReleasesCovered (ackPsn : Nat) (arq : ArqContext μ) (io : Io μ)
    (arq' : ArqContext μ) (io' : Io μ) : Prop where
  tracked : arq'.tracked = arq.tracked.filter fun e => ¬ Covers ackPsn e.2.psn
  freed : ∃ freed : List μ,
    (arq.tracked.filter fun e => Covers ackPsn e.2.psn).map (·.2.mbuf) = freed.map some ∧
    io'.trace = io.trace ++ freed.map Event.free
  released : ∀ e ∈ arq.tracked, Covers ackPsn e.2.psn → arq'.entry e.1 = e.2.released
  kept : ∀ k, (∀ e ∈ arq.tracked, Covers ackPsn e.2.psn → k % windowSize ≠ e.1 % windowSize) →
    arq'.entry k = arq.entry k

/-! ## Without timeout drops everything tracked is in flight -/

/-- The counters are in order and every tracked entry is in flight. -/
structure TrackedInFlight (s : ArqRun μ) : Prop where
  seq : SeqInv s
  inFlight : ∀ i, s.arq.sendBase ≤ i → i < s.arq.sendNext → (s.arq.entry i).inFlight = true

theorem TrackedInFlight.oldestHeld {s : ArqRun μ} (h : TrackedInFlight s)
    (hlen : s.accepted.length < 2 ^ 32) (op : ArqOp μ) : OldestHeld s op := by
  have hnext := h.seq.next_eq
  have hbase := h.seq.base_le
  cases op with
  | send m psn ty =>
    intro hspan
    rw [sub32_of_le (by omega) hbase] at hspan
    have hpos : 0 < windowSize := by decide
    exact h.inFlight _ le_rfl (by omega)
  | ack psn => trivial
  | nack psn => trivial
  | timeouts => trivial

theorem TrackedInFlight.step {s : ArqRun μ} {op : ArqOp μ} (h : TrackedInFlight s)
    (hop : op ≠ .timeouts) (hlen : (arqStep s op).accepted.length < 2 ^ 32) :
    TrackedInFlight (arqStep s op) := by
  have hbefore : s.accepted.length < 2 ^ 32 := (accepted_le_step s op).trans_lt hlen
  have hseq : SeqInv (arqStep s op) := h.seq.step (h.oldestHeld hbefore op) hlen
  have hnext := h.seq.next_eq
  refine ⟨hseq, fun i hi hi' => ?_⟩
  cases op with
  | send m psn ty =>
    cases hslot : (s.arq.entry s.arq.sendNext).inFlight with
    | true =>
      rw [arqStep_send_rejected hslot] at hi hi' ⊢
      exact h.inFlight i hi hi'
    | false =>
      rw [arqStep_send_accepted hslot] at hlen hi hi' ⊢
      simp only [List.length_append, List.length_singleton] at hlen
      have hinc : (s.arq.sent m psn ty (rteRdtsc s.io).1).sendNext = s.arq.sendNext + 1 :=
        add32_of_lt (by omega)
      rw [hinc] at hi'
      rw [sent_entry]
      split
      · rfl
      · rename_i hne
        refine h.inFlight i hi (Nat.lt_of_le_of_ne (Nat.lt_succ_iff.mp hi') ?_)
        exact fun heq => hne (heq ▸ rfl)
  | ack psn =>
    obtain ⟨n, hpop⟩ := arqHandleAck_popped psn s.io h.seq.base_le (by omega) h.seq.next_le
    have hroom := h.seq.next_le
    have hbase' : (arqStep s (.ack psn)).arq.sendBase = s.arq.sendBase + n := hpop.sendBase
    have hnext' : (arqStep s (.ack psn)).arq.sendNext = s.arq.sendNext := hpop.sendNext
    rw [hbase'] at hi
    rw [hnext'] at hi'
    have hsame : (arqStep s (.ack psn)).arq.entry i = s.arq.entry i :=
      hpop.kept i fun j hj hj' => (Ring.mod_ne_of_lt_of_sub_lt (by omega) (by omega)).symm
    rw [hsame]
    exact h.inFlight i (by omega) hi'
  | nack psn =>
    have hsame := arqHandleNack_sameWindow s.arq psn s.io
    obtain ⟨t, r, he⟩ := hsame.entry i
    have hentry : (arqStep s (.nack psn)).arq.entry i =
        { s.arq.entry i with sendTime := t, retryCount := r } := he
    rw [hentry]
    exact h.inFlight i (hsame.sendBase ▸ hi) (hsame.sendNext ▸ hi')
  | timeouts => exact absurd rfl hop

theorem trackedInFlight_run {ops : List (ArqOp μ)} : ∀ {s : ArqRun μ}, TrackedInFlight s →
    (∀ op ∈ ops, op ≠ .timeouts) → (run arqStep s ops).accepted.length < 2 ^ 32 →
    TrackedInFlight (run arqStep s ops) := by
  induction ops with
  | nil => intro s h _ _; exact h
  | cons op ops ih =>
    intro s h hops hlen
    have hstep : (arqStep s op).accepted.length < 2 ^ 32 :=
      (accepted_le_run ops (arqStep s op)).trans_lt hlen
    exact ih (h.step (hops op List.mem_cons_self) hstep)
      (fun op' hop' => hops op' (List.mem_cons_of_mem op hop')) hlen

theorem trackedInFlight_start (qpn : Nat) (io : Io μ) : TrackedInFlight (ArqRun.start qpn io) :=
  ⟨seqInv_start qpn io, fun i _ hi => absurd hi (Nat.not_lt_zero i)⟩

/-! ## The covered entries are an initial part of the window -/

/-- The PSNs of a window whose packets moved forward are in order of distance
from the oldest. -/
theorem SeqInv.dist_mono {s : ArqRun μ} (h : SeqInv s)
    (hforward : s.accepted.IsChain MovesForward) (hspan : s.arq.SpansLessThanHalf) {i j : Nat}
    (hi : s.arq.sendBase ≤ i) (hij : i ≤ j) (hj : j < s.arq.sendNext) :
    psnForwardDist (s.arq.entry s.arq.sendBase).psn (s.arq.entry i).psn ≤
      psnForwardDist (s.arq.entry s.arq.sendBase).psn (s.arq.entry j).psn := by
  induction j, hij using Nat.le_induction with
  | base => exact le_rfl
  | succ j hij ih =>
    refine (ih (by omega)).trans ?_
    -- one step forward from `j`, both PSNs less than half a turn ahead of the oldest
    have hpos : 0 < maxPsn := by decide
    obtain ⟨m, psn, ty, hget, hpsn, -, -⟩ := h.holds j (by omega) (by omega)
    obtain ⟨m', psn', ty', hget', hpsn', -, -⟩ := h.holds (j + 1) (by omega) hj
    have hmove : MovesForward (m, psn, ty) (m', psn', ty') := by
      obtain ⟨hlt, hj'⟩ := List.getElem?_eq_some_iff.mp hget'
      obtain ⟨_, hj⟩ := List.getElem?_eq_some_iff.mp hget
      rw [← hj, ← hj']
      exact hforward.getElem j hlt
    have hnear := hspan j (by omega) (by omega)
    have hstep := hmove.2
    simp only [psnForwardDist_eq, maxPsn_eq, hpsn, hpsn'] at hnear hstep ⊢
    exact Circle.dist_le_of_forward (Nat.mod_lt _ hpos) (Nat.mod_lt _ hpos) hnear hstep

/-- What the PSN covers lies before everything it does not cover. -/
theorem SeqInv.covers_downward {s : ArqRun μ} (h : SeqInv s)
    (hforward : s.accepted.IsChain MovesForward) (hspan : s.arq.SpansLessThanHalf)
    {ackPsn : Nat} (hack : s.arq.AckInReach ackPsn) {i j : Nat} (hi : s.arq.sendBase ≤ i)
    (hij : i ≤ j) (hj : j < s.arq.sendNext) (hcov : Covers ackPsn (s.arq.entry j).psn) :
    Covers ackPsn (s.arq.entry i).psn := by
  have hpos : 0 < maxPsn := by decide
  have hwindow : ∀ k, s.arq.sendBase ≤ k → k < s.arq.sendNext →
      (Covers ackPsn (s.arq.entry k).psn ↔
        psnForwardDist (s.arq.entry s.arq.sendBase).psn ackPsn < psnHalf ∧
          psnForwardDist (s.arq.entry s.arq.sendBase).psn (s.arq.entry k).psn ≤
            psnForwardDist (s.arq.entry s.arq.sendBase).psn ackPsn) := by
    intro k hk hk'
    have harc := hspan (s.arq.sendNext - 1) (by omega) (by omega)
    have hkarc := h.dist_mono hforward hspan hk (by omega : k ≤ s.arq.sendNext - 1) (by omega)
    have hmark := hack (by omega)
    simp only [Covers, psnForwardDist_eq, maxPsn_eq] at harc hkarc hmark ⊢
    exact Circle.atOrBefore_iff_of_arc (Nat.mod_lt _ hpos) (Nat.mod_lt _ hpos)
      (Nat.mod_lt _ hpos) harc hkarc hmark
  obtain ⟨hnear, hle⟩ := (hwindow j (hi.trans hij) hj).mp hcov
  exact (hwindow i hi (by omega)).mpr
    ⟨hnear, (h.dist_mono hforward hspan hi hij hj).trans hle⟩

/-- An initial part of the window that is covered, followed by a part that is
not, is what the filters by coverage select. -/
theorem Popped.tracked_split {ackPsn n : Nat} {arq arq' : ArqContext μ} {io io' : Io μ}
    (h : Popped ackPsn n arq io arq' io')
    (hrest : ∀ i, arq.sendBase + n ≤ i → i < arq.sendNext → ¬ Covers ackPsn (arq.entry i).psn) :
    (arq.tracked.filter fun e => Covers ackPsn e.2.psn) =
        (List.range' arq.sendBase n).map (fun i => (i, arq.entry i)) ∧
      (arq.tracked.filter fun e => ¬ Covers ackPsn e.2.psn) =
        (List.range' (arq.sendBase + n) (arq.sendNext - (arq.sendBase + n))).map
          fun i => (i, arq.entry i) := by
  have hle := h.le_next
  have hsplit : arq.tracked =
      (List.range' arq.sendBase n).map (fun i => (i, arq.entry i)) ++
        (List.range' (arq.sendBase + n) (arq.sendNext - (arq.sendBase + n))).map
          fun i => (i, arq.entry i) := by
    rw [ArqContext.tracked, ArqContext.seqs, ← List.map_append, List.range'_append_1]
    congr 2
    omega
  have hfront : ∀ e ∈ (List.range' arq.sendBase n).map (fun i => (i, arq.entry i)),
      Covers ackPsn e.2.psn := by
    intro e he
    obtain ⟨i, hi, rfl⟩ := List.mem_map.mp he
    rw [List.mem_range'_1] at hi
    exact h.covered i hi.1 hi.2
  have hback : ∀ e ∈ (List.range' (arq.sendBase + n)
      (arq.sendNext - (arq.sendBase + n))).map (fun i => (i, arq.entry i)),
      ¬ Covers ackPsn e.2.psn := by
    intro e he
    obtain ⟨i, hi, rfl⟩ := List.mem_map.mp he
    rw [List.mem_range'_1] at hi
    exact hrest i hi.1 (by omega)
  constructor
  · rw [hsplit, List.filter_append, List.filter_eq_self.mpr fun e he => by simp [hfront e he],
      List.filter_eq_nil_iff.mpr fun e he => by simp [hback e he], List.append_nil]
  · rw [hsplit, List.filter_append, List.filter_eq_nil_iff.mpr fun e he => by simp [hfront e he],
      List.filter_eq_self.mpr fun e he => by simp [hback e he], List.nil_append]

/-- Entries in flight hold a buffer, so the frees of the loop are the buffers of
the entries it popped. -/
theorem exists_mbufs {s : ArqRun μ} (h : TrackedInFlight s) {n : Nat}
    (hn : s.arq.sendBase + n ≤ s.arq.sendNext) :
    ∃ freed : List μ,
      (List.range' s.arq.sendBase n).map (fun i => (s.arq.entry i).mbuf) = freed.map some ∧
      (List.range' s.arq.sendBase n).filterMap (fun i => (s.arq.entry i).mbuf) = freed := by
  refine ⟨_, ?_, rfl⟩
  have hsome : ∀ i ∈ List.range' s.arq.sendBase n,
      ((s.arq.entry i).mbuf).isSome = true := by
    intro i hi
    rw [List.mem_range'_1] at hi
    obtain ⟨m, psn, ty, -, -, -, hmbuf⟩ := h.seq.holds i hi.1 (by omega)
    rw [hmbuf, h.inFlight i hi.1 (by omega)]
    rfl
  generalize List.range' s.arq.sendBase n = is at hsome
  induction is with
  | nil => rfl
  | cons i is ih =>
    obtain ⟨m, hm⟩ := Option.isSome_iff_exists.mp (hsome i List.mem_cons_self)
    rw [List.map_cons, List.filterMap_cons, hm, ih fun j hj => hsome j (List.mem_cons_of_mem i hj)]
    rfl

/-- In every run of sends, acknowledgements and negative acknowledgements whose
accepted PSNs move forward, an acknowledgement within reach of the window
releases exactly the tracked packets it covers. -/
theorem ack_releases_exactly_covered (qpn : Nat) (io : Io μ) (ops : List (ArqOp μ))
    (hops : ∀ op ∈ ops, op ≠ .timeouts)
    (hlen : (run arqStep (.start qpn io) ops).accepted.length < 2 ^ 32)
    (hforward : (run arqStep (.start qpn io) ops).accepted.IsChain MovesForward)
    (hspan : (run arqStep (.start qpn io) ops).arq.SpansLessThanHalf) (ackPsn : Nat)
    (hack : (run arqStep (.start qpn io) ops).arq.AckInReach ackPsn) :
    ReleasesCovered ackPsn
      (run arqStep (.start qpn io) ops).arq (run arqStep (.start qpn io) ops).io
      (run arqStep (.start qpn io) (ops ++ [.ack ackPsn])).arq
      (run arqStep (.start qpn io) (ops ++ [.ack ackPsn])).io := by
  have hinv := trackedInFlight_run (trackedInFlight_start qpn io) hops hlen
  rw [run_append]
  generalize run arqStep (.start qpn io) ops = s at hinv hlen hforward hspan hack ⊢
  have hnext := hinv.seq.next_eq
  have hroom := hinv.seq.next_le
  obtain ⟨n, hpop⟩ := arqHandleAck_popped ackPsn s.io hinv.seq.base_le (by omega) hroom
  have hle := hpop.le_next
  change ReleasesCovered ackPsn s.arq s.io (arqHandleAck s.arq ackPsn s.io).1
    (arqHandleAck s.arq ackPsn s.io).2
  generalize arqHandleAck s.arq ackPsn s.io = r at hpop ⊢
  -- the loop stopped at an uncovered entry, so nothing behind it is covered
  have hrest : ∀ i, s.arq.sendBase + n ≤ i → i < s.arq.sendNext →
      ¬ Covers ackPsn (s.arq.entry i).psn := by
    intro i hi hi' hcov
    refine hpop.stops (by omega) ?_
    exact hinv.seq.covers_downward hforward hspan hack (by omega) hi hi' hcov
  obtain ⟨hcovered, hkept⟩ := hpop.tracked_split hrest
  have hfront : ∀ e ∈ s.arq.tracked, Covers ackPsn e.2.psn →
      s.arq.sendBase ≤ e.1 ∧ e.1 < s.arq.sendBase + n ∧ e.2 = s.arq.entry e.1 := by
    intro e he hcov
    have hmem : e ∈ s.arq.tracked.filter fun e => Covers ackPsn e.2.psn :=
      List.mem_filter.mpr ⟨he, by simpa using hcov⟩
    rw [hcovered] at hmem
    obtain ⟨i, hi, rfl⟩ := List.mem_map.mp hmem
    rw [List.mem_range'_1] at hi
    exact ⟨hi.1, hi.2, rfl⟩
  refine ⟨?_, ?_, ?_, ?_⟩
  · rw [hkept, ArqContext.tracked, ArqContext.seqs, hpop.sendBase, hpop.sendNext]
    refine List.map_congr_left fun i hi => ?_
    rw [List.mem_range'_1] at hi
    rw [hpop.kept i fun j hj hj' => (Ring.mod_ne_of_lt_of_sub_lt (by omega) (by omega)).symm]
  · obtain ⟨freed, hsome, hfreed⟩ := exists_mbufs hinv hle
    refine ⟨freed, ?_, ?_⟩
    · rw [hcovered, List.map_map]
      exact hsome
    · rw [hpop.trace, hfreed]
  · intro e he hcov
    obtain ⟨hi, hi', hentry⟩ := hfront e he hcov
    rw [hentry]
    exact hpop.released e.1 hi hi'
  · intro k hk
    refine hpop.kept k fun i hi hi' => ?_
    have hmem : (i, s.arq.entry i) ∈ s.arq.tracked :=
      List.mem_map.mpr ⟨i, List.mem_range'_1.mpr ⟨hi, by omega⟩, rfl⟩
    exact hk _ hmem (hpop.covered i hi hi')

/-- Three packets across the PSN wrap. -/
def sendsAcrossWrap : List (ArqOp Nat) :=
  [.send 10 0xFFFFFE .first, .send 11 0xFFFFFF .middle, .send 12 0 .last]

/-- The first two of three packets across the PSN wrap are acknowledged: the
third stays, in its own slot. -/
theorem ack_releases_exactly_covered_across_wrap :
    (run arqStep (.start 7 (.start (.accepting none)))
      (sendsAcrossWrap ++ [.ack 0xFFFFFF])).arq.tracked.map (·.1) = [2] ∧
    ReleasesCovered 0xFFFFFF
      (run arqStep (.start 7 (.start (.accepting none))) sendsAcrossWrap).arq
      (run arqStep (.start 7 (.start (.accepting none))) sendsAcrossWrap).io
      (run arqStep (.start 7 (.start (.accepting none)))
        (sendsAcrossWrap ++ [.ack 0xFFFFFF])).arq
      (run arqStep (.start 7 (.start (.accepting none)))
        (sendsAcrossWrap ++ [.ack 0xFFFFFF])).io := by
  refine ⟨by decide +kernel, ack_releases_exactly_covered 7 _ _ ?_ ?_ ?_ ?_ 0xFFFFFF ?_⟩
  · simp [sendsAcrossWrap]
  · decide +kernel
  · have haccepted : (run arqStep (.start 7 (.start (.accepting none))) sendsAcrossWrap).accepted =
        [(10, 0xFFFFFE, .first), (11, 0xFFFFFF, .middle), (12, 0, .last)] := by decide +kernel
    rw [haccepted]
    exact .cons_cons (by decide) (.cons_cons (by decide) (.singleton _))
  · intro i _ hi
    have hi' : i < 3 := hi
    obtain rfl | rfl | rfl : i = 0 ∨ i = 1 ∨ i = 2 := by omega
    all_goals decide +kernel
  · exact fun _ => Or.inl (by decide +kernel)

end RdmaGateway.Arq
