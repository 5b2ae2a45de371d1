/-
  Reassembly/Context.lean --- one write context as it fills up.

  The segment slots of a context say which message it is collecting only
  together with what opened it.  `Assembling ctx first n ty P` states that
  reading: the context was opened at PSN `first`, every received slot below `n`
  holds the segment of that offset, of type `ty`, and `P` relates the offset to
  the buffer stored there.  Only offset `n - 1` is final.  Slots from `n` on may
  hold anything.

  Two lemmas say how such a context changes (`assembling_opened`,
  `Assembling.store`) and two say what the scan of `jb_get_ordered_segs` makes of
  it (`Assembling.scan_of_all`, `Assembling.scan_of_missing`).
-/
import RdmaGateway.Reassembly.JitterBuffer
import RdmaGateway.Roce.Stream

set_option autoImplicit false

namespace RdmaGateway.Reassembly

open RdmaGateway.Foundation
open RdmaGateway.Roce

variable {μ : Type}

/-- Slot `i` of the context is in state `JB_SEGMENT_RECEIVED`. -/
def JbWriteContext.Received (ctx : JbWriteContext μ) (i : Nat) : Prop :=
  (ctx.segments.get i).state = .received

instance (ctx : JbWriteContext μ) (i : Nat) : Decidable (ctx.Received i) :=
  inferInstanceAs (Decidable (_ = _))

/-- The slot index a PSN falls in. -/
def JbWriteContext.slotOf (ctx : JbWriteContext μ) (psn : Nat) : Nat :=
  psnForwardDist ctx.firstPsn psn % jbMaxSegments

theorem JbWriteContext.slotOf_lt (ctx : JbWriteContext μ) (psn : Nat) :
    ctx.slotOf psn < jbMaxSegments :=
  Nat.mod_lt _ (by decide)

theorem JbWriteContext.received_slotOf (ctx : JbWriteContext μ) (psn : Nat) :
    ctx.Received (ctx.slotOf psn) ↔
      (ctx.segments.get (psnForwardDist ctx.firstPsn psn)).state = .received := by
  simp only [Received, slotOf, Ring.get_mod]

/-! ## Storing a segment -/

/-- Marking gaps changes a slot only from free to waiting. -/
theorem jbMarkWaiting_get (firstPsn expected dist j : Nat)
    (segs : Ring jbMaxSegments (JbSegment μ)) :
    (jbMarkWaiting firstPsn expected dist segs).get j = segs.get j ∨
      ((segs.get j).state = .free ∧
        (jbMarkWaiting firstPsn expected dist segs).get j =
          { segs.get j with state := .waiting }) := by
  unfold jbMarkWaiting
  induction dist with
  | zero => simp
  | succ d ih =>
    rw [List.range_succ, List.foldl_append]
    generalize (List.range d).foldl _ segs = marked at ih ⊢
    simp only [List.foldl_cons, List.foldl_nil]
    split
    · rename_i hfree
      rw [Ring.get_set]
      split
      · rename_i hslot
        rw [Ring.get_congr (r := marked) hslot.symm] at hfree ⊢
        rcases ih with ih | ⟨_, ih⟩
        · rw [ih] at hfree ⊢
          exact Or.inr ⟨hfree, rfl⟩
        · rw [ih] at hfree
          cases hfree
      · exact ih
    · exact ih

/-- The slot a segment is stored in. -/
theorem jbStoreSeg_get_slotOf (ctx : JbWriteContext μ) (psn : Nat) (ty : WriteSegmentType)
    (m : μ) :
    (jbStoreSeg ctx psn ty m).segments.get (ctx.slotOf psn) = ⟨psn, some m, .received, ty⟩ := by
  simp only [JbWriteContext.slotOf, Ring.get_mod, jbStoreSeg]
  split
  · simp
  · split
    · rcases jbMarkWaiting_get ctx.firstPsn ctx.expectedPsn (psnForwardDist ctx.expectedPsn psn)
        (psnForwardDist ctx.firstPsn psn)
        (ctx.segments.set (psnForwardDist ctx.firstPsn psn) ⟨psn, some m, .received, ty⟩)
        with h | ⟨h, _⟩
      · simpa using h
      · simp at h
    · simp

/-- Every other slot keeps its segment, or turns from free to waiting. -/
theorem jbStoreSeg_get_of_ne (ctx : JbWriteContext μ) (psn : Nat) (ty : WriteSegmentType)
    (m : μ) {j : Nat} (hj : j % jbMaxSegments ≠ ctx.slotOf psn) :
    (jbStoreSeg ctx psn ty m).segments.get j = ctx.segments.get j ∨
      ((ctx.segments.get j).state = .free ∧
        (jbStoreSeg ctx psn ty m).segments.get j =
          { ctx.segments.get j with state := .waiting }) := by
  have hset : (ctx.segments.set (psnForwardDist ctx.firstPsn psn)
      ⟨psn, some m, .received, ty⟩).get j = ctx.segments.get j :=
    Ring.get_set_of_ne hj
  simp only [jbStoreSeg]
  split
  · exact Or.inl hset
  · split
    · rcases jbMarkWaiting_get ctx.firstPsn ctx.expectedPsn
        (psnForwardDist ctx.expectedPsn psn) j
        (ctx.segments.set (psnForwardDist ctx.firstPsn psn) ⟨psn, some m, .received, ty⟩)
        with h | ⟨h, h'⟩
      · exact Or.inl (h.trans hset)
      · rw [hset] at h h'
        exact Or.inr ⟨h, h'⟩
    · exact Or.inl hset

/-- A slot other than the one stored in is received exactly when it was. -/
theorem jbStoreSeg_received_of_ne (ctx : JbWriteContext μ) (psn : Nat) (ty : WriteSegmentType)
    (m : μ) {j : Nat} (hj : j % jbMaxSegments ≠ ctx.slotOf psn) :
    (jbStoreSeg ctx psn ty m).Received j ↔ ctx.Received j := by
  unfold JbWriteContext.Received
  rcases jbStoreSeg_get_of_ne ctx psn ty m hj with h | ⟨h, h'⟩
  · rw [h]
  · rw [h', h]; simp

theorem jbStoreSeg_get_of_received (ctx : JbWriteContext μ) (psn : Nat) (ty : WriteSegmentType)
    (m : μ) {j : Nat} (hj : j % jbMaxSegments ≠ ctx.slotOf psn) (hrec : ctx.Received j) :
    (jbStoreSeg ctx psn ty m).segments.get j = ctx.segments.get j := by
  rcases jbStoreSeg_get_of_ne ctx psn ty m hj with h | ⟨h, _⟩
  · exact h
  · rw [JbWriteContext.Received, h] at hrec; cases hrec

/-! ## The scan -/

/-- A run of received slots that ends in its only final segment is delivered. -/
theorem jbScan_of_all (segs : Ring jbMaxSegments (JbSegment μ)) :
    ∀ (n fuel i : Nat), 0 < n → n ≤ fuel →
      (∀ j < n, (segs.get (i + j)).state = .received) →
      (∀ j < n, (segs.get (i + j)).segmentType.isFinal = true ↔ j + 1 = n) →
      jbScan segs fuel i =
        some ((List.range n).flatMap fun j => (segs.get (i + j)).mbuf.toList) := by
  intro n
  induction n with
  | zero => intro fuel i hn; omega
  | succ n ih =>
    intro fuel i _ hfuel hrec hfin
    obtain ⟨fuel, rfl⟩ : ∃ f, fuel = f + 1 := ⟨fuel - 1, by omega⟩
    have hrec0 : (segs.get i).state = .received := hrec 0 (by omega)
    have hfin0 := hfin 0 (by omega)
    simp only [Nat.add_zero] at hfin0
    simp only [jbScan, hrec0]
    rw [List.range_succ_eq_map, List.flatMap_cons, List.flatMap_map]
    by_cases hlast : n = 0
    · subst hlast
      simp [hfin0.mpr rfl]
    · have hnot : (segs.get i).segmentType.isFinal = false := by
        rw [Bool.eq_false_iff]
        exact fun h => hlast (by have := hfin0.mp h; omega)
      have hrest := ih fuel (i + 1) (by omega) (by omega)
        (fun j hj => by
          have := hrec (j + 1) (by omega)
          rwa [Nat.add_comm j, ← Nat.add_assoc] at this)
        (fun j hj => by
          have := hfin (j + 1) (by omega)
          rw [Nat.add_comm j 1, ← Nat.add_assoc] at this
          rw [this]; omega)
      rw [hnot, hrest]
      simp only [Bool.false_eq_true, if_false, Option.map_some, Nat.add_zero,
        Nat.succ_eq_add_one, Nat.add_assoc, Nat.add_comm 1]

/-- A slot that is not received, met before any final segment, stops the scan. -/
theorem jbScan_of_missing {segs : Ring jbMaxSegments (JbSegment μ)} :
    ∀ (j fuel i : Nat), j < fuel →
      (∀ k < j, (segs.get (i + k)).state = .received ∧
        (segs.get (i + k)).segmentType.isFinal = false) →
      (segs.get (i + j)).state ≠ .received →
      jbScan segs fuel i = none := by
  intro j
  induction j with
  | zero =>
    intro fuel i hfuel _ hmiss
    obtain ⟨fuel, rfl⟩ : ∃ f, fuel = f + 1 := ⟨fuel - 1, by omega⟩
    simp only [Nat.add_zero] at hmiss
    cases hstate : (segs.get i).state with
    | free => simp [jbScan, hstate]
    | waiting => simp [jbScan, hstate]
    | received => exact absurd hstate hmiss
  | succ j ih =>
    intro fuel i hfuel hbefore hmiss
    obtain ⟨fuel, rfl⟩ : ∃ f, fuel = f + 1 := ⟨fuel - 1, by omega⟩
    obtain ⟨hrec, hfin⟩ := hbefore 0 (by omega)
    simp only [Nat.add_zero] at hrec hfin
    have hrest : jbScan segs fuel (i + 1) = none := by
      refine ih fuel (i + 1) (by omega) (fun k hk => ?_) ?_
      · have := hbefore (k + 1) (by omega)
        rwa [Nat.add_comm k, ← Nat.add_assoc] at this
      · rwa [Nat.add_comm j, ← Nat.add_assoc] at hmiss
    simp [jbScan, hrec, hfin, hrest]

/-- What the scan puts out, the slots it looked at point to. -/
theorem jbScan_subset {segs : Ring jbMaxSegments (JbSegment μ)} :
    ∀ {fuel i : Nat} {out : List μ}, jbScan segs fuel i = some out →
      ∀ seg ∈ out, ∃ j < i + fuel, (segs.get j).mbuf = some seg := by
  intro fuel
  induction fuel with
  | zero =>
    intro i out h seg hseg
    cases h
    cases hseg
  | succ fuel ih =>
    intro i out h seg hseg
    unfold jbScan at h
    dsimp only at h
    split at h
    · cases h
    · cases h
    · split at h
      · cases h
        exact ⟨i, by omega, by simpa using hseg⟩
      · obtain ⟨rest, hrest, rfl⟩ := Option.map_eq_some_iff.mp h
        rcases List.mem_append.mp hseg with hseg | hseg
        · exact ⟨i, by omega, by simpa using hseg⟩
        · obtain ⟨j, hj, hmbuf⟩ := ih hrest seg hseg
          exact ⟨j, by omega, hmbuf⟩

/-! ## A context that collects one message -/

/-- The types of `n` consecutive segments that end one message. -/
def EndsAt (n : Nat) (ty : Nat → WriteSegmentType) : Prop :=
  0 < n ∧ n ≤ jbMaxSegments ∧ ∀ i < n, (ty i).isFinal = true ↔ i + 1 = n

/-- The context was opened at PSN `first` and its slots below `n` collect the
segments from there to the end of a message; `P i m` relates a stored buffer to
its offset. -/
structure Assembling (ctx : JbWriteContext μ) (first n : Nat) (ty : Nat → WriteSegmentType)
    (P : Nat → μ → Prop) : Prop where
  ends : EndsAt n ty
  firstPsn_eq : ctx.firstPsn = first
  opener : ctx.Received 0
  seg : ∀ i < n, ctx.Received i →
    ∃ m, ctx.segments.get i = ⟨psnAdd first i, some m, .received, ty i⟩ ∧ P i m
  flag : ctx.Received (n - 1) → ctx.writeComplete = true

variable {ctx : JbWriteContext μ} {first n : Nat} {ty : Nat → WriteSegmentType}
  {P : Nat → μ → Prop}

theorem endsAt_msgSegType (hn : 0 < n) (hmax : n ≤ jbMaxSegments) : EndsAt n (msgSegType n) :=
  ⟨hn, hmax, fun _ hi => msgSegType_isFinal hi⟩

theorem opened_not_received (qpn psn i : Nat) :
    ¬ (JbWriteContext.opened qpn psn : JbWriteContext μ).Received i := by
  simp [JbWriteContext.Received, JbWriteContext.opened, JbWriteContext.zero, JbSegment.zero]

theorem slotOf_self {ctx : JbWriteContext μ} : ctx.slotOf ctx.firstPsn = 0 := by
  simp [JbWriteContext.slotOf, psnForwardDist_eq]

/-- A context collects what follows the segment that opened it. -/
theorem assembling_opened {qpn psn : Nat} {m : μ} (hpsn : psn < maxPsn) (hends : EndsAt n ty)
    (hP : P 0 m) : Assembling (jbStoreSeg (.opened qpn psn) psn (ty 0) m) psn n ty P := by
  obtain ⟨hn, hmax, hfin⟩ := hends
  have hslot : (JbWriteContext.opened qpn psn : JbWriteContext μ).slotOf psn = 0 := slotOf_self
  have hself := jbStoreSeg_get_slotOf (.opened qpn psn) psn (ty 0) m
  rw [hslot] at hself
  have hother : ∀ i < n, i ≠ 0 → ¬ (jbStoreSeg (.opened qpn psn) psn (ty 0) m).Received i := by
    intro i hi hne
    rw [jbStoreSeg_received_of_ne _ _ _ _ (by rw [hslot, Nat.mod_eq_of_lt (by omega)]; exact hne)]
    exact opened_not_received qpn psn i
  refine ⟨⟨hn, hmax, hfin⟩, rfl, ?_, ?_, ?_⟩
  · rw [JbWriteContext.Received, hself]
  · intro i hi hrec
    have hi0 : i = 0 := by
      by_contra hne
      exact hother i hi hne hrec
    subst hi0
    refine ⟨m, ?_, hP⟩
    rw [hself, psnAdd_eq, Nat.add_zero, Nat.mod_eq_of_lt hpsn]
  · intro hrec
    have hone : n - 1 = 0 := by
      by_contra hne
      exact hother (n - 1) (by omega) hne hrec
    simp only [jbStoreSeg_writeComplete, Bool.or_eq_true]
    exact Or.inl ((hfin 0 hn).mpr (by omega))

/-- Storing into a free or waiting slot keeps the context collecting, provided a
segment that falls below `n` is the segment of that offset. -/
theorem Assembling.store {psn : Nat} {t : WriteSegmentType} {m : μ}
    (h : Assembling ctx first n ty P) (hmiss : ¬ ctx.Received (ctx.slotOf psn))
    (hseg : ctx.slotOf psn < n → psn = psnAdd first (ctx.slotOf psn) ∧
      t = ty (ctx.slotOf psn) ∧ P (ctx.slotOf psn) m) :
    Assembling (jbStoreSeg ctx psn t m) first n ty P := by
  obtain ⟨hn, hmax, hfin⟩ := h.ends
  have hself := jbStoreSeg_get_slotOf ctx psn t m
  -- below `n` an index is its own slot, so it is the stored slot or untouched
  have hne : ∀ i < n, i ≠ ctx.slotOf psn → i % jbMaxSegments ≠ ctx.slotOf psn := by
    intro i hi hne
    rwa [Nat.mod_eq_of_lt (by omega)]
  refine ⟨h.ends, h.firstPsn_eq, ?_, ?_, ?_⟩
  · have h0 : 0 ≠ ctx.slotOf psn := fun h0 => hmiss (h0 ▸ h.opener)
    exact (jbStoreSeg_received_of_ne ctx psn t m (hne 0 hn h0)).mpr h.opener
  · intro i hi hrec
    by_cases hslot : i = ctx.slotOf psn
    · obtain ⟨hpsn, hty, hP⟩ := hseg (hslot ▸ hi)
      refine ⟨m, ?_, hslot ▸ hP⟩
      rw [hslot, hself, ← hty, ← hpsn]
    · have hold : ctx.Received i :=
        (jbStoreSeg_received_of_ne ctx psn t m (hne i hi hslot)).mp hrec
      obtain ⟨m', hget, hP⟩ := h.seg i hi hold
      exact ⟨m', (jbStoreSeg_get_of_received ctx psn t m (hne i hi hslot) hold).trans hget, hP⟩
  · intro hrec
    rw [jbStoreSeg_writeComplete, Bool.or_eq_true]
    by_cases hslot : n - 1 = ctx.slotOf psn
    · obtain ⟨_, hty, _⟩ := hseg (by omega)
      left
      rw [hty, ← hslot]
      exact (hfin (n - 1) (by omega)).mpr (by omega)
    · right
      exact h.flag ((jbStoreSeg_received_of_ne ctx psn t m (hne _ (by omega) hslot)).mp hrec)

/-- Once every slot below `n` is received the scan delivers their buffers, in
order and no others. -/
theorem Assembling.scan_of_all (h : Assembling ctx first n ty P)
    (hall : ∀ i < n, ctx.Received i) :
    ∃ out, jbScan ctx.segments jbMaxSegments 0 = some out ∧
      out.map some = (List.range n).map fun i => (ctx.segments.get i).mbuf := by
  obtain ⟨hn, hmax, hfin⟩ := h.ends
  have hscan := jbScan_of_all ctx.segments n jbMaxSegments 0 hn hmax
    (fun j hj => by rw [Nat.zero_add]; exact hall j hj)
    (fun j hj => by
      obtain ⟨m, hget, _⟩ := h.seg j hj (hall j hj)
      rw [Nat.zero_add, hget]
      exact hfin j hj)
  refine ⟨_, hscan, ?_⟩
  rw [List.map_flatMap]
  -- every slot holds a buffer, so the flattening is a map
  have hsome : ∀ j ∈ List.range n,
      ((ctx.segments.get (0 + j)).mbuf.toList.map some) = [(ctx.segments.get j).mbuf] := by
    intro j hj
    obtain ⟨m, hget, _⟩ := h.seg j (List.mem_range.mp hj) (hall j (List.mem_range.mp hj))
    rw [Nat.zero_add, hget]
    rfl
  rw [List.flatMap_congr hsome, ← List.map_eq_flatMap]

/-- While a slot below `n` is missing the scan delivers nothing. -/
theorem Assembling.scan_of_missing (h : Assembling ctx first n ty P)
    (hmiss : ∃ i < n, ¬ ctx.Received i) : jbScan ctx.segments jbMaxSegments 0 = none := by
  obtain ⟨hn, hmax, hfin⟩ := h.ends
  -- the least missing slot: everything before it is received and not final
  obtain ⟨hlt, hnot⟩ := Nat.find_spec hmiss
  refine jbScan_of_missing (Nat.find hmiss) jbMaxSegments 0 (by omega) (fun k hk => ?_) ?_
  · have hrec : ctx.Received k := by
      by_contra hk'
      exact Nat.find_min hmiss hk ⟨by omega, hk'⟩
    obtain ⟨m, hget, _⟩ := h.seg k (by omega) hrec
    rw [Nat.zero_add, hget]
    refine ⟨rfl, ?_⟩
    rw [Bool.eq_false_iff]
    intro hfinal
    have hlast := (hfin k (by omega)).mp hfinal
    omega
  · rwa [Nat.zero_add]

/-- The buffers delivered satisfy `P` at their offsets. -/
theorem Assembling.out_property (h : Assembling ctx first n ty P)
    (hall : ∀ i < n, ctx.Received i) {out : List μ}
    (hout : out.map some = (List.range n).map fun i => (ctx.segments.get i).mbuf) :
    out.length = n ∧ ∀ i m, out[i]? = some m → P i m := by
  have hlen : out.length = n := by
    have := congrArg List.length hout
    simpa using this
  refine ⟨hlen, fun i m hm => ?_⟩
  have hi : i < n := by
    rw [← hlen]
    exact (List.getElem?_eq_some_iff.mp hm).1
  obtain ⟨m', hget, hP⟩ := h.seg i hi (hall i hi)
  have hboth := congrArg (fun l => l[i]?) hout
  simp only [List.getElem?_map, hm, Option.map_some, List.getElem?_range hi, hget,
    Option.some.injEq] at hboth
  rwa [hboth]

end RdmaGateway.Reassembly
