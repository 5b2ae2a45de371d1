/-
  Arq/Drain.lean --- the window over runs of any length.

  `send_base` and `send_next` are 32-bit counters.  `SpansFrom s b` relates them
  to the numbers that do not wrap, the packets released and the packets accepted:
  the slots in between are in flight and no others are.  The ring arithmetic
  survives the wrap, since 256 divides `2^32`; the guard `send_base < send_next`
  of `arq_handle_ack` does not.  From the moment `send_next` has wrapped and
  `send_base` has not, no acknowledgement releases anything (`ack_drains_iff`).
-/
import RdmaGateway.Arq.Release

set_option autoImplicit false

namespace RdmaGateway.Arq

open RdmaGateway.Foundation
open RdmaGateway.Dpdk
open RdmaGateway.Roce

variable {μ : Type}

/-! ## Consecutive packets -/

/-- The second of two accepted packets has the PSN after the first. -/
def Follows (a b : μ × Nat × WriteSegmentType) : Prop := b.2.1 = psnAdd a.2.1 1

instance (a b : μ × Nat × WriteSegmentType) : Decidable (Follows a b) :=
  inferInstanceAs (Decidable (_ = _))

/-- Among consecutive packets, the one `d` places on has the PSN `d` ahead. -/
theorem psn_of_follows {packets : List (μ × Nat × WriteSegmentType)}
    (h : packets.IsChain Follows) {i : Nat} {a : μ × Nat × WriteSegmentType}
    (ha : packets[i]? = some a) : ∀ (d : Nat) {b : μ × Nat × WriteSegmentType},
    packets[i + d]? = some b → b.2.1 % maxPsn = psnAdd a.2.1 d := by
  intro d
  induction d with
  | zero =>
    intro b hb
    rw [Nat.add_zero, ha] at hb
    cases hb
    rw [psnAdd_eq, Nat.add_zero]
  | succ d ih =>
    intro b hb
    obtain ⟨hlt, hget⟩ := List.getElem?_eq_some_iff.mp hb
    have hprev : i + d < packets.length := by omega
    have hfollows : Follows packets[i + d] b := hget ▸ h.getElem (i + d) hlt
    have hd := ih (List.getElem?_eq_getElem hprev)
    rw [hfollows, psnAdd_eq _ 1, Nat.mod_mod, ← Nat.mod_add_mod, hd, ← psnAdd_eq, psnAdd_psnAdd]

/-- Among consecutive packets fewer than `2^23` apart, a later one acknowledges an
earlier one. -/
theorem covers_of_follows {packets : List (μ × Nat × WriteSegmentType)}
    (h : packets.IsChain Follows) {i d : Nat} {a b : μ × Nat × WriteSegmentType}
    (ha : packets[i]? = some a) (hb : packets[i + d]? = some b) (hd : d < psnHalf) :
    Covers b.2.1 a.2.1 := by
  have hlt : d < maxPsn := by rw [maxPsn_eq]; omega
  have hdist : psnForwardDist a.2.1 b.2.1 = psnForwardDist a.2.1 (psnAdd a.2.1 d) := by
    rw [psnForwardDist_eq, psnForwardDist_eq, psn_of_follows h ha d hb,
      Nat.mod_eq_of_lt (psnAdd_lt _ _)]
  rwa [Covers, hdist, psnForwardDist_psnAdd _ hlt]

/-! ## The window between the counters that do not wrap -/

/-- The wrap of the counters does not show in the slots. -/
theorem slot_wrap (b i : Nat) : (b % 4294967296 + i) % windowSize = (b + i) % windowSize := by
  change (b % 4294967296 + i) % 256 = (b + i) % 256
  omega

/-- `b` packets were released: the counters are the released and the accepted
packets modulo `2^32`, and exactly the slots in between are in flight, each with
the PSN it was accepted under. -/
structure SpansFrom (s : ArqRun μ) (b : Nat) : Prop where
  base_eq : s.arq.sendBase = b % 4294967296
  next_eq : s.arq.sendNext = s.accepted.length % 4294967296
  base_le : b ≤ s.accepted.length
  room : s.accepted.length ≤ b + windowSize
  held : ∀ i, b ≤ i → i < s.accepted.length → (s.arq.entry i).inFlight = true ∧
    ∃ a, s.accepted[i]? = some a ∧ (s.arq.entry i).psn = a.2.1
  free : ∀ k, (∀ i, b ≤ i → i < s.accepted.length → k % windowSize ≠ i % windowSize) →
    (s.arq.entry k).inFlight = false

theorem spansFrom_start (qpn : Nat) (io : Io μ) : SpansFrom (ArqRun.start qpn io) 0 where
  base_eq := rfl
  next_eq := rfl
  base_le := le_rfl
  room := Nat.zero_le _
  held := fun i _ hi => absurd hi (Nat.not_lt_zero i)
  free := fun _ _ => rfl

/-- Nothing is in flight and the counters agree. -/
def Drained (arq : ArqContext μ) : Prop :=
  (∀ k, (arq.entry k).inFlight = false) ∧ arq.sendBase = arq.sendNext

theorem SpansFrom.drained {s : ArqRun μ} (h : SpansFrom s s.accepted.length) : Drained s.arq :=
  ⟨fun k => h.free k fun i hi hi' => absurd hi' (Nat.not_lt.mpr hi), by rw [h.base_eq, h.next_eq]⟩

/-- A packet is accepted exactly when the window has room for it. -/
theorem SpansFrom.admits_iff {s : ArqRun μ} {b : Nat} (h : SpansFrom s b) :
    (s.arq.entry s.arq.sendNext).inFlight = false ↔ s.accepted.length < b + windowSize := by
  have hroom := h.room
  have hle := h.base_le
  have hslot : s.arq.entry s.arq.sendNext = s.arq.entry s.accepted.length :=
    entry_congr s.arq (by rw [h.next_eq]; exact slot_wrap _ 0)
  rw [hslot]
  constructor
  · intro hfree
    by_contra hfull
    have hsame : s.arq.entry s.accepted.length = s.arq.entry b :=
      entry_congr s.arq (by
        rw [show s.accepted.length = b + windowSize by omega, Nat.add_mod_right])
    have hpos : 0 < windowSize := by decide
    rw [hsame, (h.held b le_rfl (by omega)).1] at hfree
    cases hfree
  · intro hless
    exact h.free _ fun i hi hi' => (Ring.mod_ne_of_lt_of_sub_lt hi' (by omega)).symm

theorem SpansFrom.send {s : ArqRun μ} {b : Nat} (h : SpansFrom s b) (m : μ) (psn : Nat)
    (ty : WriteSegmentType) : SpansFrom (arqStep s (.send m psn ty)) b := by
  cases hslot : (s.arq.entry s.arq.sendNext).inFlight with
  | true => rwa [arqStep_send_rejected hslot]
  | false =>
    have hless := h.admits_iff.mp hslot
    have hle := h.base_le
    have hnext := h.next_eq
    rw [arqStep_send_accepted hslot]
    have hlen : (s.accepted ++ [(m, psn, ty)]).length = s.accepted.length + 1 := by simp
    -- the slot of the counter is the slot of the new packet
    have hentry : ∀ i, (s.arq.sent m psn ty (rteRdtsc s.io).1).entry i =
        if i % windowSize = s.accepted.length % windowSize
        then ⟨psn, some m, (rteRdtsc s.io).1, 0, ty, true⟩ else s.arq.entry i := by
      intro i
      have hwrap : s.accepted.length % 4294967296 % windowSize = s.accepted.length % windowSize :=
        slot_wrap _ 0
      rw [sent_entry, hnext, hwrap]
    refine ⟨h.base_eq, ?_, ?_, ?_, ?_, ?_⟩
    · simp only [ArqContext.sent, hlen, hnext]
      unfold add32
      omega
    · simp only [hlen]
      omega
    · simp only [hlen]
      omega
    · intro i hi hi'
      simp only [hlen] at hi'
      simp only [hentry]
      by_cases hlast : i = s.accepted.length
      · subst hlast
        rw [if_pos rfl]
        exact ⟨rfl, (m, psn, ty), by simp, rfl⟩
      · rw [if_neg (Ring.mod_ne_of_lt_of_sub_lt (by omega) (by omega))]
        rw [List.getElem?_append_left (by omega)]
        exact h.held i hi (by omega)
    · intro k hk
      simp only [hlen] at hk
      simp only [hentry]
      rw [if_neg (hk _ hle (by omega))]
      exact h.free k fun i hi hi' => hk i hi (by omega)

/-- Before `send_next` has overtaken the wrap, an acknowledgement releases an
initial part of the window. -/
theorem SpansFrom.ack_released {s : ArqRun μ} {b : Nat} (h : SpansFrom s b) (ackPsn : Nat)
    (hle : s.arq.sendBase ≤ s.arq.sendNext) :
    ∃ n, SpansFrom (arqStep s (.ack ackPsn)) (b + n) ∧
      (b + n < s.accepted.length → ¬ Covers ackPsn (s.arq.entry (b + n)).psn) := by
  have hbase := h.base_eq
  have hnext := h.next_eq
  have hlen := h.base_le
  have hroom := h.room
  have hsize : windowSize = 256 := rfl
  obtain ⟨n, hpop⟩ := arqHandleAck_popped ackPsn s.io hle (by omega) (by omega)
  have hn := hpop.le_next
  have hslots : ∀ i, (s.arq.sendBase + i) % windowSize = (b + i) % windowSize := fun i => by
    rw [hbase, slot_wrap]
  change ∃ n, SpansFrom ⟨(arqHandleAck s.arq ackPsn s.io).1, _, s.accepted⟩ (b + n) ∧ _
  generalize arqHandleAck s.arq ackPsn s.io = r at hpop ⊢
  have hkept : ∀ k, (∀ i, b ≤ i → i < b + n → k % windowSize ≠ i % windowSize) →
      r.1.entry k = s.arq.entry k := by
    intro k hk
    refine hpop.kept k fun i hi hi' heq => hk (b + (i - s.arq.sendBase)) (by omega) (by omega) ?_
    rw [heq, ← hslots, Nat.add_sub_cancel' hi]
  refine ⟨n, ⟨?_, ?_, ?_, ?_, ?_, ?_⟩, ?_⟩
  · simp only [hpop.sendBase]
    omega
  · simp only [hpop.sendNext]
    exact hnext
  · change b + n ≤ s.accepted.length
    omega
  · change s.accepted.length ≤ b + n + windowSize
    omega
  · intro i hi hi'
    have hsame : r.1.entry i = s.arq.entry i := hkept i fun j hj hj' =>
      (Ring.mod_ne_of_lt_of_sub_lt (by omega) (by simp only at hi'; omega)).symm
    simp only [hsame]
    exact h.held i (by omega) hi'
  · intro k hk
    by_cases hpopped : ∃ i, b ≤ i ∧ i < b + n ∧ k % windowSize = i % windowSize
    · obtain ⟨i, hi, hi', heq⟩ := hpopped
      have hrel := hpop.released (s.arq.sendBase + (i - b)) (by omega) (by omega)
      have hslot : r.1.entry k = r.1.entry (s.arq.sendBase + (i - b)) :=
        entry_congr r.1 (by rw [heq, hslots, Nat.add_sub_cancel' hi])
      simp only [hslot, hrel, released_inFlight]
    · have hnot : ∀ i, b ≤ i → i < b + n → k % windowSize ≠ i % windowSize :=
        fun i hi hi' heq => hpopped ⟨i, hi, hi', heq⟩
      simp only [hkept k hnot]
      apply h.free k
      intro i hi hi'
      by_cases hin : i < b + n
      · exact hnot i hi hin
      · exact hk i (by omega) hi'
  · intro hmore
    have hstops := hpop.stops (by omega)
    rwa [entry_congr s.arq (hslots n)] at hstops

/-- `arq_send_pkt` and `arq_handle_ack`. -/
def ArqOp.IsSendOrAck : ArqOp μ → Prop
  | .send _ _ _ => True
  | .ack _ => True
  | _ => False

theorem spansFrom_step {s : ArqRun μ} {b : Nat} (h : SpansFrom s b) {op : ArqOp μ}
    (hop : op.IsSendOrAck) : ∃ b', SpansFrom (arqStep s op) b' := by
  cases op with
  | send m psn ty => exact ⟨b, h.send m psn ty⟩
  | ack psn =>
    rcases Nat.lt_or_ge s.arq.sendNext s.arq.sendBase with hwrapped | hle
    · have hsame : arqStep s (.ack psn) = s := by
        simp only [arqStep, arqHandleAck_empty hwrapped.le]
      exact ⟨b, by rwa [hsame]⟩
    · obtain ⟨n, hn, -⟩ := h.ack_released psn hle
      exact ⟨b + n, hn⟩
  | nack psn => exact hop.elim
  | timeouts => exact hop.elim

theorem spansFrom_run (ops : List (ArqOp μ)) : ∀ {s : ArqRun μ} {b : Nat}, SpansFrom s b →
    (∀ op ∈ ops, op.IsSendOrAck) → ∃ b', SpansFrom (run arqStep s ops) b' := by
  induction ops with
  | nil => intro s b h _; exact ⟨b, h⟩
  | cons op ops ih =>
    intro s b h hops
    obtain ⟨b', h'⟩ := spansFrom_step h (hops op List.mem_cons_self)
    exact ih h' fun op' hop' => hops op' (List.mem_cons_of_mem op hop')

/-- An acknowledgement of the last of consecutive packets releases them all, if
the counters are in order. -/
theorem SpansFrom.ack_last {s : ArqRun μ} {b : Nat} (h : SpansFrom s b)
    (hfollows : s.accepted.IsChain Follows) {last : μ × Nat × WriteSegmentType}
    (hlast : s.accepted.getLast? = some last) (hle : s.arq.sendBase ≤ s.arq.sendNext) :
    SpansFrom (arqStep s (.ack last.2.1)) s.accepted.length := by
  obtain ⟨n, hn, hstops⟩ := h.ack_released last.2.1 hle
  have hbase := hn.base_le
  have hacc : (arqStep s (.ack last.2.1)).accepted = s.accepted := rfl
  rw [hacc] at hbase
  rcases Nat.eq_or_lt_of_le hbase with heq | hless
  · rwa [← heq]
  · -- what is left starts with a packet that the last one acknowledges
    have hroom := h.room
    obtain ⟨-, a, ha, hpsn⟩ := h.held (b + n) (by omega) hless
    rw [List.getLast?_eq_getElem?] at hlast
    have hend : s.accepted.length - 1 = b + n + (s.accepted.length - 1 - (b + n)) := by omega
    rw [hend] at hlast
    have hcov := covers_of_follows hfollows ha hlast
      ((by omega : s.accepted.length - 1 - (b + n) ≤ windowSize).trans_lt (by decide))
    exact absurd (hpsn ▸ hcov) (hstops hless)

/-- In every run of sends and acknowledgements, of any length, with consecutive
PSNs: the acknowledgement of the last accepted packet drains the window exactly
when `send_next` has not wrapped ahead of `send_base`. -/
theorem ack_drains_iff {qpn : Nat} {io : Io μ} {ops : List (ArqOp μ)} {s : ArqRun μ}
    (hs : run arqStep (.start qpn io) ops = s) (hops : ∀ op ∈ ops, op.IsSendOrAck)
    (hfollows : s.accepted.IsChain Follows) {last : μ × Nat × WriteSegmentType}
    (hlast : s.accepted.getLast? = some last) :
    Drained (arqHandleAck s.arq last.2.1 s.io).1 ↔ s.arq.sendBase ≤ s.arq.sendNext := by
  obtain ⟨b, hspans⟩ := spansFrom_run ops (spansFrom_start qpn io) hops
  rw [hs] at hspans
  constructor
  · intro hdrained
    by_contra hwrapped
    rw [arqHandleAck_empty (by omega)] at hdrained
    have hcounters : s.arq.sendBase = s.arq.sendNext := hdrained.2
    omega
  · intro hle
    exact (hspans.ack_last hfollows hlast hle).drained

/-- Three packets across the PSN wrap, and the acknowledgement of the last. -/
theorem ack_drains_across_psn_wrap :
    Drained (arqHandleAck (run arqStep (.start 7 (.start (.accepting none))) sendsAcrossWrap).arq 0
      (run arqStep (.start 7 (.start (.accepting none))) sendsAcrossWrap).io).1 := by
  have haccepted : (run arqStep (.start 7 (.start (.accepting none))) sendsAcrossWrap).accepted =
      [(10, 0xFFFFFE, .first), (11, 0xFFFFFF, .middle), (12, 0, .last)] := by decide +kernel
  have hlast : (run arqStep (.start 7 (.start (.accepting none))) sendsAcrossWrap).accepted.getLast? =
      some (12, 0, .last) := by
    rw [haccepted]
    rfl
  have hops : ∀ op ∈ sendsAcrossWrap, op.IsSendOrAck := by
    simp [sendsAcrossWrap, ArqOp.IsSendOrAck]
  have hfollows : (run arqStep (.start 7 (.start (.accepting none)))
      sendsAcrossWrap).accepted.IsChain Follows := by
    rw [haccepted]
    decide
  exact (ack_drains_iff rfl hops hfollows hlast).mpr (by decide +kernel)

/-! ## A run across the wrap of the counters -/

/-- The packet sent under sequence number `i`. -/
def numbered (i : Nat) : Nat × Nat × WriteSegmentType := (i, psnAdd 0 i, .only)

/-- `k` packets, each acknowledged before the next one is sent. -/
def sendAckPairs : Nat → List (ArqOp Nat)
  | 0 => []
  | k + 1 => sendAckPairs k ++ [.send k (psnAdd 0 k) .only, .ack (psnAdd 0 k)]

theorem sendAckPairs_isSendOrAck (k : Nat) : ∀ op ∈ sendAckPairs k, op.IsSendOrAck := by
  induction k with
  | zero => simp [sendAckPairs]
  | succ k ih =>
    intro op hop
    rw [sendAckPairs, List.mem_append] at hop
    rcases hop with hop | hop
    · exact ih op hop
    · simp only [List.mem_cons, List.not_mem_nil, or_false] at hop
      rcases hop with rfl | rfl <;> trivial

theorem numbered_follows (n : Nat) : ((List.range n).map numbered).IsChain Follows := by
  apply List.isChain_iff_getElem.mpr
  intro i hi
  simp [Follows, numbered, psnAdd_psnAdd]

/-- A send on a window without outstanding packets is accepted. -/
theorem SpansFrom.send_numbered {s : ArqRun Nat} {k : Nat} (h : SpansFrom s k)
    (hacc : s.accepted = (List.range k).map numbered) :
    SpansFrom (arqStep s (.send k (psnAdd 0 k) .only)) k ∧
      (arqStep s (.send k (psnAdd 0 k) .only)).accepted = (List.range (k + 1)).map numbered := by
  refine ⟨h.send k _ _, ?_⟩
  have hroom : s.accepted.length < k + windowSize := by
    rw [hacc, List.length_map, List.length_range]
    exact Nat.lt_add_of_pos_right (by decide)
  rw [arqStep_send_accepted (h.admits_iff.mpr hroom), List.range_succ, List.map_append, hacc]
  rfl

theorem sendAckPairs_spans (qpn : Nat) (io : Io Nat) {k : Nat} (hk : k < 4294967296) :
    SpansFrom (run arqStep (.start qpn io) (sendAckPairs k)) k ∧
      (run arqStep (.start qpn io) (sendAckPairs k)).accepted =
        (List.range k).map numbered := by
  induction k with
  | zero => exact ⟨spansFrom_start qpn io, rfl⟩
  | succ k ih =>
    obtain ⟨hspans, hacc⟩ := ih (by omega)
    rw [sendAckPairs, run_append]
    generalize run arqStep (.start qpn io) (sendAckPairs k) = s at hspans hacc
    obtain ⟨hsent, hsentAcc⟩ := hspans.send_numbered hacc
    rw [run_cons, run_cons, run_nil]
    generalize arqStep s (.send k (psnAdd 0 k) .only) = t at hsent hsentAcc
    have hlen : t.accepted.length = k + 1 := by simp [hsentAcc]
    have hordered : t.arq.sendBase ≤ t.arq.sendNext := by
      rw [hsent.base_eq, hsent.next_eq, hlen]
      omega
    have hlast : t.accepted.getLast? = some (numbered k) := by
      simp [hsentAcc, List.range_succ]
    refine ⟨?_, hsentAcc⟩
    have hack := hsent.ack_last (hsentAcc ▸ numbered_follows (k + 1)) hlast hordered
    rwa [hlen] at hack

/-- `k` acknowledged packets and one more. -/
def pairsAndOne (k : Nat) : List (ArqOp Nat) :=
  sendAckPairs k ++ [.send k (psnAdd 0 k) .only]

theorem pairsAndOne_isSendOrAck (k : Nat) : ∀ op ∈ pairsAndOne k, op.IsSendOrAck := by
  intro op hop
  rcases List.mem_append.mp hop with hop | hop
  · exact sendAckPairs_isSendOrAck k op hop
  · rw [List.mem_singleton.mp hop]
    trivial

theorem pairsAndOne_spans (qpn : Nat) (io : Io Nat) {k : Nat} (hk : k < 4294967296) :
    SpansFrom (run arqStep (.start qpn io) (pairsAndOne k)) k ∧
      (run arqStep (.start qpn io) (pairsAndOne k)).accepted =
        (List.range (k + 1)).map numbered := by
  obtain ⟨hspans, hacc⟩ := sendAckPairs_spans qpn io hk
  rw [pairsAndOne, run_append]
  exact hspans.send_numbered hacc

/-- When the packet under the last number the counter can hold is outstanding,
`send_next` is 0. -/
theorem pairsAndOne_wrapped (qpn : Nat) (io : Io Nat) {k : Nat} (hk : k + 1 = 4294967296) :
    (run arqStep (.start qpn io) (pairsAndOne k)).arq.sendNext <
      (run arqStep (.start qpn io) (pairsAndOne k)).arq.sendBase := by
  obtain ⟨hspans, hacc⟩ := pairsAndOne_spans qpn io (by omega : k < 4294967296)
  have hlen : (run arqStep (.start qpn io) (pairsAndOne k)).accepted.length = k + 1 := by
    simp [hacc]
  rw [hspans.base_eq, hspans.next_eq, hlen]
  omega

/-- After `2^32` packets, all acknowledged but the last one, the acknowledgement
of the last one releases nothing. -/
theorem ack_frozen_after_wrap :
    (∀ op ∈ pairsAndOne 4294967295, op.IsSendOrAck) ∧
    (run arqStep (.start 7 (.start (.accepting none)))
      (pairsAndOne 4294967295)).accepted.IsChain Follows ∧
    (run arqStep (.start 7 (.start (.accepting none)))
      (pairsAndOne 4294967295)).accepted.getLast? = some (numbered 4294967295) ∧
    ¬ Drained (arqHandleAck
      (run arqStep (.start 7 (.start (.accepting none))) (pairsAndOne 4294967295)).arq
      (numbered 4294967295).2.1
      (run arqStep (.start 7 (.start (.accepting none))) (pairsAndOne 4294967295)).io).1 := by
  have hwrap : ∃ k, k = 4294967295 ∧ k + 1 = 4294967296 := ⟨_, rfl, rfl⟩
  obtain ⟨k, hk, hwrap⟩ := hwrap
  rw [← hk]
  obtain ⟨-, hacc⟩ := pairsAndOne_spans 7 (.start (.accepting none)) (by omega : k < 4294967296)
  have hordered := pairsAndOne_wrapped 7 (.start (.accepting none)) hwrap
  refine ⟨pairsAndOne_isSendOrAck k, hacc ▸ numbered_follows (k + 1), ?_, fun hdrained => ?_⟩
  · simp [hacc, List.range_succ]
  · rw [arqHandleAck_empty hordered.le] at hdrained
    exact absurd hdrained.2 hordered.ne'

end RdmaGateway.Arq
