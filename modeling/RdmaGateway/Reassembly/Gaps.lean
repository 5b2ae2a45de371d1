/-
  Reassembly/Gaps.lean --- which missing segment `jb_check_missing` reports.

  `jb_check_missing` looks at the expected PSN only, and `jb_add_seg` moves the
  expected PSN by one when the segment that carries it is stored: it is the cursor
  of `Foundation.Cursor` over the positions that arrive.  So the first gap of a
  message is reported when the segments before it arrived in order; when one of
  them overtook another, the expected PSN stays behind on a received slot and
  nothing is reported.  A gap at PSN 0 is reported as 0, which is also the answer
  for no gap at all.
-/
import RdmaGateway.Foundation.Cursor
import RdmaGateway.Reassembly.Messages

set_option autoImplicit false

namespace RdmaGateway.Reassembly

open RdmaGateway.Foundation
open RdmaGateway.Dpdk
open RdmaGateway.Roce

variable {μ : Type}

/-! ## The positions that arrive -/

/-- How far behind `start` the segment of this call lies, if it is one of `qpn`. -/
def JbOp.offset (qpn start : Nat) : JbOp μ → Option Nat
  | .addSeg q psn _ _ => if q = qpn then some (psnForwardDist start psn) else none
  | .removeWrite _ => none

/-- The positions at which segments of `qpn` arrived, in order. -/
def offsets (qpn start : Nat) (ops : List (JbOp μ)) : List Nat :=
  ops.filterMap (JbOp.offset qpn start)

theorem offsets_append (qpn start : Nat) (ops : List (JbOp μ)) (op : JbOp μ) :
    offsets qpn start (ops ++ [op]) = offsets qpn start ops ++ (op.offset qpn start).toList := by
  simp only [offsets, List.filterMap_append, List.filterMap_cons, List.filterMap_nil]
  cases op.offset qpn start <;> rfl

/-- A segment of the message arrived exactly if its position is among the
positions that arrived. -/
theorem copies_ne_nil_iff {qpn start n : Nat} (hmax : n ≤ jbMaxSegments) {ops : List (JbOp μ)}
    (hops : ∀ op ∈ ops, op.OfMessage qpn start n) {i : Nat} (hi : i < n) :
    copies qpn (psnAdd start i) ops ≠ [] ↔ i ∈ offsets qpn start ops := by
  have hturn : jbMaxSegments < maxPsn := by decide
  rw [offsets, List.mem_filterMap]
  constructor
  · intro hne
    obtain ⟨m, hm⟩ := List.exists_mem_of_ne_nil _ hne
    obtain ⟨op, hop, hcopy⟩ := List.mem_filterMap.mp hm
    cases op with
    | addSeg q psn ty m' =>
      simp only [JbOp.copy] at hcopy
      split at hcopy
      · rename_i hself
        obtain ⟨rfl, rfl⟩ := hself
        refine ⟨_, hop, ?_⟩
        simp only [JbOp.offset, if_true]
        rw [psnForwardDist_psnAdd start (by omega)]
      · cases hcopy
    | removeWrite q => cases hcopy
  · rintro ⟨op, hop, hoffset⟩
    cases op with
    | addSeg q psn ty m =>
      simp only [JbOp.offset] at hoffset
      split at hoffset
      · rename_i hself
        have hmsg := hops _ hop
        simp only [JbOp.OfMessage, if_pos hself] at hmsg
        obtain ⟨j, hj, rfl, rfl⟩ := hmsg
        rw [psnForwardDist_psnAdd start (by omega), Option.some.injEq] at hoffset
        subst hoffset
        refine List.ne_nil_of_mem (a := m) (List.mem_filterMap.mpr ⟨_, hop, ?_⟩)
        simp [JbOp.copy, hself]
      · cases hoffset
    | removeWrite q => cases hoffset

/-! ## The expected PSN is the cursor -/

/-- The expected PSN of the context of `qpn` is the one the cursor over the
arrivals stands at. -/
def Expects (qpn start : Nat) (ops : List (JbOp μ)) (jb : JitterBuffer μ) : Prop :=
  ∃ ctx, jb.ctxOf qpn = some ctx ∧
    ctx.expectedPsn = psnAdd start (cursor (offsets qpn start ops))

section OneMessage

variable {qpn start n : Nat} {jb : JitterBuffer μ} {io : Io μ} {ops : List (JbOp μ)}

/-- The cursor stays within the message. -/
theorem cursor_offsets_le (hops : ∀ op ∈ ops, op.OfMessage qpn start n)
    (hmax : n ≤ jbMaxSegments) : cursor (offsets qpn start ops) ≤ n := by
  have hturn : jbMaxSegments < maxPsn := by decide
  refine cursor_le_gap fun hmem => ?_
  obtain ⟨op, hop, hoffset⟩ := List.mem_filterMap.mp hmem
  cases op with
  | addSeg q psn ty m =>
    simp only [JbOp.offset] at hoffset
    split at hoffset
    · rename_i hself
      have hmsg := hops _ hop
      simp only [JbOp.OfMessage, if_pos hself] at hmsg
      obtain ⟨j, hj, rfl, rfl⟩ := hmsg
      rw [psnForwardDist_psnAdd start (by omega), Option.some.injEq] at hoffset
      omega
    · cases hoffset
  | removeWrite q => cases hoffset

/-- The leading segment opens the context and is expected. -/
theorem expects_leading (hnone : jb.ctxOf qpn = none)
    (hfree : jb.HasFreeSlot) (ty : WriteSegmentType) (m : μ) :
    Expects qpn start [.addSeg qpn start ty m] (jbAddSeg jb qpn start ty m io).2.1 := by
  obtain ⟨i, _, _, _, hw⟩ := jbAddSeg_open start ty m io hnone hfree
  have hself : psnForwardDist start start = 0 := by rw [psnForwardDist_eq, Circle.dist_self]
  have hoffsets : offsets qpn start [JbOp.addSeg qpn start ty m] = [0] := by
    simp [offsets, JbOp.offset, hself]
  refine ⟨_, ctxOf_update_fresh hw (ctxOf_eq_none.mp hnone) rfl, ?_⟩
  have hexpected : (JbWriteContext.opened qpn start : JbWriteContext μ).expectedPsn = start := rfl
  simp only [jbStoreSeg, hexpected, hself, if_true, hoffsets]
  rfl

/-- A call that brings no segment to the QPN. -/
theorem Expects.of_other (h : Expects qpn start ops jb) {jb' : JitterBuffer μ} {op : JbOp μ}
    (hctx : jb'.ctxOf qpn = jb.ctxOf qpn) (hoffset : op.offset qpn start = none) :
    Expects qpn start (ops ++ [op]) jb' := by
  obtain ⟨ctx, hfound, hexpected⟩ := h
  refine ⟨ctx, hctx.trans hfound, ?_⟩
  rw [offsets_append, hoffset, Option.toList_none, List.append_nil, hexpected]

/-- A segment of the message moves the expected PSN as it moves the cursor. -/
theorem Expects.addSeg (h : Expects qpn start ops jb) (hcollects : Collects qpn start n ops jb)
    (hops : ∀ op ∈ ops, op.OfMessage qpn start n) {i : Nat} (hi : i < n) (m : μ) :
    Expects qpn start (ops ++ [.addSeg qpn (psnAdd start i) (msgSegType n i) m])
      (jbAddSeg jb qpn (psnAdd start i) (msgSegType n i) m io).2.1 := by
  have hturn : jbMaxSegments < maxPsn := by decide
  obtain ⟨ctx, hfound, hexpected⟩ := h
  obtain ⟨ctx', hfound', hasm, hrec⟩ := hcollects
  rw [hfound] at hfound'
  cases hfound'
  obtain ⟨-, hmax, -⟩ := hasm.ends
  have hslot : ctx.slotOf (psnAdd start i) = i := hasm.slotOf_psnAdd (by omega)
  have harrived : ctx.Received i ↔ i ∈ offsets qpn start ops :=
    (hrec i hi).trans (copies_ne_nil_iff hmax hops hi)
  have hcursor := cursor_offsets_le hops hmax
  have happend : offsets qpn start (ops ++ [.addSeg qpn (psnAdd start i) (msgSegType n i) m]) =
      offsets qpn start ops ++ [i] := by
    rw [offsets_append]
    simp only [JbOp.offset, if_true, psnForwardDist_psnAdd start (by omega : i < maxPsn)]
    rfl
  rw [Expects, happend, cursor_append]
  by_cases hdup : ctx.Received i
  · rw [jbAddSeg_duplicate hfound (by rwa [hslot]), if_neg fun h => h.2 (harrived.mp hdup)]
    exact ⟨ctx, hfound, hexpected⟩
  · obtain ⟨k, hfind, hadd⟩ :=
      jbAddSeg_store (psnAdd start i) (msgSegType n i) m io hfound (by rwa [hslot])
    rw [hadd]
    refine ⟨_, ctxOf_update_self rfl hfind ((jbStoreSeg_qpn _ _ _ _).trans (ctxOf_qpn hfound)), ?_⟩
    have hdist : psnForwardDist ctx.expectedPsn (psnAdd start i) = 0 ↔
        i = cursor (offsets qpn start ops) := by
      rw [hexpected, psnForwardDist_psnAdd_psnAdd start (by omega) (by omega)]
      split <;> omega
    by_cases hhit : i = cursor (offsets qpn start ops)
    · rw [if_pos ⟨hhit, fun hmem => hdup (harrived.mpr hmem)⟩]
      simp only [jbStoreSeg]
      rw [if_pos (hdist.mpr hhit), hexpected, psnAdd_psnAdd]
    · rw [if_neg fun h => hhit h.1]
      simp only [jbStoreSeg]
      rw [if_neg (mt hdist.mp hhit), hexpected]

/-- The leading segment is one of the message. -/
theorem ofMessage_leading (hpsn : start < maxPsn) (hn : 1 ≤ n) (m : μ) {rest : List (JbOp μ)}
    (hrest : ∀ op ∈ rest, op.OfMessage qpn start n) :
    ∀ op ∈ .addSeg qpn start (msgSegType n 0) m :: rest, op.OfMessage qpn start n := by
  intro op hop
  rcases List.mem_cons.mp hop with rfl | hop
  · have hzero : start = psnAdd start 0 := by
      rw [psnAdd_eq, Nat.add_zero, Nat.mod_eq_of_lt hpsn]
    simp only [JbOp.OfMessage, if_true]
    exact ⟨0, hn, hzero, rfl⟩
  · exact hrest op hop

theorem expects_run (hq : qpn ≠ 0) (hpsn : start < maxPsn) (hn : 1 ≤ n) (hmax : n ≤ jbMaxSegments)
    (hnone : jb.ctxOf qpn = none) (hfree : jb.HasFreeSlot) (m : μ) (rest : List (JbOp μ))
    (hrest : ∀ op ∈ rest, op.OfMessage qpn start n) :
    Expects qpn start (.addSeg qpn start (msgSegType n 0) m :: rest)
      (run jbStep (jb, io) (.addSeg qpn start (msgSegType n 0) m :: rest)).1 := by
  induction rest using List.reverseRecOn with
  | nil => exact expects_leading hnone hfree _ m
  | append_singleton rest op ih =>
    have hrest' : ∀ op' ∈ rest, op'.OfMessage qpn start n := fun op' hop' =>
      hrest op' (List.mem_append_left _ hop')
    have hbefore := ih hrest'
    have hcollects : Collects qpn start n _
        (run jbStep (jb, io) (.addSeg qpn start (msgSegType n 0) m :: rest)).1 :=
      collects_run hq hpsn hn hmax hnone hfree m rest hrest'
    have hops := ofMessage_leading hpsn hn m hrest'
    have hop := hrest op (List.mem_append_right _ List.mem_cons_self)
    rw [← List.cons_append, run_append]
    generalize run jbStep (jb, io) (.addSeg qpn start (msgSegType n 0) m :: rest) = s at *
    cases op with
    | addSeg q psn ty m' =>
      by_cases hself : q = qpn
      · subst hself
        simp only [JbOp.OfMessage, if_true] at hop
        obtain ⟨i, hi, rfl, rfl⟩ := hop
        exact hbefore.addSeg hcollects hops hi m'
      · exact hbefore.of_other (jbAddSeg_ctxOf_of_ne (Ne.symm hself) hq)
          (by simp [JbOp.offset, hself])
    | removeWrite q =>
      exact hbefore.of_other (jbRemoveWrite_ctxOf_of_ne (Ne.symm hop.1) hq) rfl

end OneMessage

/-! ## The first gap -/

/-- Position `g` of the message is its first gap: nothing arrived there, everything
before it arrived, and something behind it did. -/
structure FirstGap (qpn start n : Nat) (ops : List (JbOp μ)) (g : Nat) : Prop where
  missing : copies qpn (psnAdd start g) ops = []
  before : ∀ i < g, copies qpn (psnAdd start i) ops ≠ []
  overtaken : ∃ j, g < j ∧ j < n ∧ copies qpn (psnAdd start j) ops ≠ []

/-- A WRITE of at most 256 segments whose leading segment arrives first, with a
gap: `jb_check_missing` reports the first gap, as something other than the answer
for no gap, exactly when its PSN is not 0 and the segments before it arrived in
order. -/
theorem gap_reported_iff {qpn start n : Nat} (hq : qpn ≠ 0) (hpsn : start < maxPsn) (hn : 1 ≤ n)
    (hmax : n ≤ jbMaxSegments) {jb : JitterBuffer μ} {io : Io μ} (hnone : jb.ctxOf qpn = none)
    (hfree : jb.HasFreeSlot) (m : μ) (rest : List (JbOp μ))
    (hrest : ∀ op ∈ rest, op.OfMessage qpn start n) {g : Nat}
    (hgap : FirstGap qpn start n (.addSeg qpn start (msgSegType n 0) m :: rest) g) :
    let ops := .addSeg qpn start (msgSegType n 0) m :: rest
    let jb' := (run jbStep (jb, io) ops).1
    (jbCheckMissing jb' qpn = psnAdd start g ∧ jbCheckMissing jb' qpn ≠ 0) ↔
      psnAdd start g ≠ 0 ∧ ArrivedInOrder g (offsets qpn start ops) := by
  intro ops jb'
  have hops : ∀ op ∈ ops, op.OfMessage qpn start n := ofMessage_leading hpsn hn m hrest
  obtain ⟨ctx, hfound, hexpected⟩ : Expects qpn start ops jb' :=
    expects_run hq hpsn hn hmax hnone hfree m rest hrest
  obtain ⟨ctx', hfound', hasm, hrec⟩ : Collects qpn start n ops jb' :=
    collects_run hq hpsn hn hmax hnone hfree m rest hrest
  rw [hfound] at hfound'
  cases hfound'
  obtain ⟨j, hgj, hjn, -⟩ := hgap.overtaken
  have harrived : ∀ i < n, ctx.Received i ↔ i ∈ offsets qpn start ops := fun i hi =>
    (hrec i hi).trans (copies_ne_nil_iff hmax hops hi)
  have hmissing : ¬ ctx.Received g := fun h => (hrec g (by omega)).mp h hgap.missing
  have hnotIn : g ∉ offsets qpn start ops := fun h => hmissing ((harrived g (by omega)).mpr h)
  have hbefore : ∀ i < g, i ∈ offsets qpn start ops := fun i hi =>
    (copies_ne_nil_iff hmax hops (by omega)).mp (hgap.before i hi)
  have hle := cursor_le_gap hnotIn
  rw [jbCheckMissing_eq hfound, ← cursor_eq_iff hnotIn hbefore, hexpected,
    hasm.slotOf_psnAdd (by omega)]
  by_cases heq : cursor (offsets qpn start ops) = g
  · rw [heq, if_neg hmissing]
    simp
  · -- the cursor stands before the gap, on a received slot
    have hlt : cursor (offsets qpn start ops) < g := Nat.lt_of_le_of_ne hle heq
    rw [if_pos ((harrived _ (by omega)).mpr (hbefore _ hlt))]
    simp [heq]

/-- FIRST, then the third segment, across the PSN wrap: the second is reported. -/
theorem gap_reported_across_wrap :
    jbCheckMissing (run jbStep (jbInit, .start (.accepting none))
      [.addSeg 7 0xFFFFFE .first 0, .addSeg 7 0 .last 1]).1 7 = 0xFFFFFF := by
  have hgap : FirstGap 7 0xFFFFFE 3
      [JbOp.addSeg 7 0xFFFFFE (msgSegType 3 0) 0, .addSeg 7 0 .last 1] 1 :=
    ⟨by decide, by decide, 2, by decide, by decide, by decide⟩
  have hrest : ∀ op ∈ [JbOp.addSeg 7 0 .last 1], op.OfMessage 7 0xFFFFFE 3 := by
    intro op hop
    rw [List.mem_singleton.mp hop]
    exact ⟨2, by decide, by decide, by decide⟩
  have horder : ArrivedInOrder 1 (offsets 7 0xFFFFFE
      [JbOp.addSeg 7 0xFFFFFE (msgSegType 3 0) 0, .addSeg 7 0 .last 1]) :=
    fun i j hij hj => by omega
  have hnone : (jbInit : JitterBuffer Nat).ctxOf 7 = none := rfl
  obtain ⟨hreported, -⟩ := (gap_reported_iff (by decide) (by decide) (by decide) (by decide) hnone
    ⟨0, rfl, rfl⟩ 0 _ hrest hgap).mpr ⟨by decide, horder⟩
  exact hreported

/-- The segments of a message of five behind the first: 2, then 1, then 4. -/
def overtaking : List (JbOp Nat) :=
  [.addSeg 7 102 .middle 1, .addSeg 7 101 .middle 2, .addSeg 7 104 .last 3]

/-- The gap at 3 is not reported, since the expected PSN stands at 2. -/
theorem gap_after_overtaking_unreported :
    (∀ op ∈ overtaking, op.OfMessage 7 100 5) ∧
    FirstGap 7 100 5 (.addSeg 7 100 (msgSegType 5 0) 0 :: overtaking) 3 ∧
    jbCheckMissing (run jbStep (jbInit, .start (.accepting none))
      (.addSeg 7 100 (msgSegType 5 0) 0 :: overtaking)).1 7 = 0 := by
  refine ⟨fun op hop => ?_, ⟨by decide, by decide, 4, by decide, by decide, by decide⟩,
    by decide +kernel⟩
  simp only [overtaking, List.mem_cons, List.not_mem_nil, or_false] at hop
  rcases hop with rfl | rfl | rfl
  · exact ⟨2, by decide, by decide, by decide⟩
  · exact ⟨1, by decide, by decide, by decide⟩
  · exact ⟨4, by decide, by decide, by decide⟩

end RdmaGateway.Reassembly
