/-
  Reassembly/Messages.lean --- what the jitter buffer releases, over whole runs.

  A run is any sequence of `jb_add_seg` and `jb_remove_write` calls.  Two results
  are proved for every run:

  * a message of at most 256 segments whose leading segment arrives first is
    released exactly when it is whole, whatever the order of the rest, the
    duplicates among them and the traffic of other QPNs
    (`leading_first_reassembles`);
  * a run that keeps every context to the message that opened it releases only
    whole messages (`released_isCompleteWrite`).

  The condition of the second result is not one the buffer enforces: slot 0 of a
  context is whatever arrived first, and `last_alone_is_released` is the run in
  which that is a LAST.
-/
import RdmaGateway.Foundation.Run
import RdmaGateway.Reassembly.Flow
import Mathlib.Data.List.Induction

set_option autoImplicit false

namespace RdmaGateway.Reassembly

open RdmaGateway.Foundation
open RdmaGateway.Dpdk
open RdmaGateway.Roce

variable {μ : Type}

/-- The calls that change the jitter buffer. -/
inductive JbOp (μ : Type) where
  | addSeg (qpn psn : Nat) (segmentType : WriteSegmentType) (m : μ)
  | removeWrite (qpn : Nat)

/-- One call. -/
def jbStep (s : JitterBuffer μ × Io μ) : JbOp μ → JitterBuffer μ × Io μ
  | .addSeg qpn psn segmentType m => (jbAddSeg s.1 qpn psn segmentType m s.2).2
  | .removeWrite qpn => jbRemoveWrite s.1 qpn s.2

/-! ## One message whose leading segment arrives first -/

/-- The call is the arrival of a segment of the `n`-segment message that starts
at PSN `start` on `qpn`, or a call for another nonzero QPN. -/
def JbOp.OfMessage (qpn start n : Nat) : JbOp μ → Prop
  | .addSeg q psn segmentType _ =>
    if q = qpn then ∃ i < n, psn = psnAdd start i ∧ segmentType = msgSegType n i else q ≠ 0
  | .removeWrite q => q ≠ qpn ∧ q ≠ 0

/-- The buffer that arrives for `qpn` under PSN `psn` with this call. -/
def JbOp.copy (qpn psn : Nat) : JbOp μ → Option μ
  | .addSeg q p _ m => if q = qpn ∧ p = psn then some m else none
  | .removeWrite _ => none

/-- The buffers that arrived for `qpn` under PSN `psn`, in order. -/
def copies (qpn psn : Nat) (ops : List (JbOp μ)) : List μ := ops.filterMap (JbOp.copy qpn psn)

theorem copies_append (qpn psn : Nat) (ops : List (JbOp μ)) (op : JbOp μ) :
    copies qpn psn (ops ++ [op]) = copies qpn psn ops ++ (op.copy qpn psn).toList := by
  simp only [copies, List.filterMap_append, List.filterMap_cons, List.filterMap_nil]
  cases op.copy qpn psn <;> rfl

theorem psnAdd_inj {start i j : Nat} (hi : i < jbMaxSegments) (hj : j < jbMaxSegments) :
    psnAdd start i = psnAdd start j ↔ i = j := by
  have hmax : jbMaxSegments < maxPsn := by decide
  constructor
  · intro h
    have hdist := congrArg (psnForwardDist start) h
    rwa [psnForwardDist_psnAdd start (by omega), psnForwardDist_psnAdd start (by omega)] at hdist
  · exact fun h => h ▸ rfl

/-- A segment that arrives adds one copy at its own place. -/
theorem copies_addSeg {qpn start i j : Nat} (hi : i < jbMaxSegments) (hj : j < jbMaxSegments)
    (ops : List (JbOp μ)) (ty : WriteSegmentType) (m : μ) :
    copies qpn (psnAdd start j) (ops ++ [.addSeg qpn (psnAdd start i) ty m]) =
      copies qpn (psnAdd start j) ops ++ if j = i then [m] else [] := by
  rw [copies_append]
  congr 1
  simp only [JbOp.copy, true_and, psnAdd_inj hi hj, eq_comm (a := i)]
  split <;> rfl

/-- The copy that came first stays the first. -/
theorem head_copies_append {qpn psn : Nat} {ops : List (JbOp μ)} {m : μ}
    (h : (copies qpn psn ops).head? = some m) (op : JbOp μ) :
    (copies qpn psn (ops ++ [op])).head? = some m := by
  rw [copies_append, List.head?_append, h]
  rfl

theorem Assembling.mono {ctx : JbWriteContext μ} {first n : Nat} {ty : Nat → WriteSegmentType}
    {P Q : Nat → μ → Prop} (h : Assembling ctx first n ty P) (hPQ : ∀ i m, P i m → Q i m) :
    Assembling ctx first n ty Q where
  ends := h.ends
  firstPsn_eq := h.firstPsn_eq
  opener := h.opener
  seg := fun i hi hrec => by
    obtain ⟨m, hget, hP⟩ := h.seg i hi hrec
    exact ⟨m, hget, hPQ i m hP⟩
  flag := h.flag

/-- After the calls `ops`, `qpn` has a context that collects the message, holds
the first copy of every segment and has received exactly the segments that
arrived. -/
def Collects (qpn start n : Nat) (ops : List (JbOp μ)) (jb : JitterBuffer μ) : Prop :=
  ∃ ctx, jb.ctxOf qpn = some ctx ∧
    Assembling ctx start n (msgSegType n)
      (fun i m => (copies qpn (psnAdd start i) ops).head? = some m) ∧
    ∀ i < n, ctx.Received i ↔ copies qpn (psnAdd start i) ops ≠ []

section OneMessage

variable {qpn start n : Nat} {jb : JitterBuffer μ} {io : Io μ} {ops : List (JbOp μ)}

/-- The arrival of the leading segment opens the context. -/
theorem collects_leading (hpsn : start < maxPsn) (hn : 0 < n) (hmax : n ≤ jbMaxSegments)
    (hnone : jb.ctxOf qpn = none) (hfree : jb.HasFreeSlot) (m : μ) :
    Collects qpn start n [.addSeg qpn start (msgSegType n 0) m]
      (jbAddSeg jb qpn start (msgSegType n 0) m io).2.1 := by
  obtain ⟨i, _, _, _, hw⟩ := jbAddSeg_open start (msgSegType n 0) m io hnone hfree
  have hcopy : ∀ j < n, copies qpn (psnAdd start j)
      [JbOp.addSeg qpn start (msgSegType n 0) m] = if j = 0 then [m] else [] := by
    intro j hj
    have hzero : psnAdd start 0 = start := by
      rw [psnAdd_eq, Nat.add_zero, Nat.mod_eq_of_lt hpsn]
    have hiff : start = psnAdd start j ↔ j = 0 := by
      rw [← hzero, psnAdd_psnAdd, psnAdd_inj (by omega) (by omega)]
      omega
    simp only [copies, JbOp.copy, true_and, hiff, List.filterMap_cons, List.filterMap_nil]
    by_cases h0 : j = 0 <;> simp [h0]
  have hasm : Assembling (jbStoreSeg (.opened qpn start) start (msgSegType n 0) m) start n
      (msgSegType n) (fun i m' => (copies qpn (psnAdd start i)
        [JbOp.addSeg qpn start (msgSegType n 0) m]).head? = some m') :=
    assembling_opened hpsn (endsAt_msgSegType hn hmax) (by rw [hcopy 0 hn]; rfl)
  refine ⟨_, ctxOf_update_fresh hw (ctxOf_eq_none.mp hnone) rfl, hasm, fun j hj => ?_⟩
  rw [hcopy j hj]
  by_cases h0 : j = 0
  · subst h0
    simpa using hasm.opener
  · have hslot : (JbWriteContext.opened qpn start : JbWriteContext μ).slotOf start = 0 :=
      slotOf_self
    have hne : j % jbMaxSegments ≠ (JbWriteContext.opened qpn start : JbWriteContext μ).slotOf
        start := by
      rw [hslot, Nat.mod_eq_of_lt (by omega)]
      exact h0
    rw [jbStoreSeg_received_of_ne _ _ _ _ hne]
    simpa [h0] using opened_not_received qpn start j

/-- A call that brings no segment to the QPN keeps its collection. -/
theorem Collects.of_other (h : Collects qpn start n ops jb) {jb' : JitterBuffer μ} {op : JbOp μ}
    (hctx : jb'.ctxOf qpn = jb.ctxOf qpn) (hcopy : ∀ psn, op.copy qpn psn = none) :
    Collects qpn start n (ops ++ [op]) jb' := by
  obtain ⟨ctx, hfound, hasm, hrec⟩ := h
  have hsame : ∀ psn, copies qpn psn (ops ++ [op]) = copies qpn psn ops := by
    intro psn
    rw [copies_append, hcopy psn]
    simp
  refine ⟨ctx, hctx.trans hfound, ?_, ?_⟩
  · simpa only [hsame] using hasm
  · simpa only [hsame] using hrec

/-- A duplicate changes nothing, and the first copy is still the first. -/
theorem Collects.duplicate {ctx : JbWriteContext μ} (hfound : jb.ctxOf qpn = some ctx)
    (hasm : Assembling ctx start n (msgSegType n)
      (fun i m => (copies qpn (psnAdd start i) ops).head? = some m))
    (hrec : ∀ i < n, ctx.Received i ↔ copies qpn (psnAdd start i) ops ≠ []) {i : Nat} (hi : i < n)
    (hdup : ctx.Received i) (m : μ) :
    Collects qpn start n (ops ++ [.addSeg qpn (psnAdd start i) (msgSegType n i) m]) jb := by
  obtain ⟨-, hmax, -⟩ := hasm.ends
  have hold : copies qpn (psnAdd start i) ops ≠ [] := (hrec i hi).mp hdup
  refine ⟨ctx, hfound, hasm.mono fun j m' hm' => head_copies_append hm' _, fun j hj => ?_⟩
  rw [hrec j hj, copies_addSeg (by omega) (by omega)]
  by_cases hji : j = i
  · subst hji
    simp [hold]
  · simp [hji]

/-- The first copy is stored: its slot was free or waiting. -/
theorem Collects.store {ctx : JbWriteContext μ} {jb' : JitterBuffer μ} {i : Nat} {m : μ}
    (hfound : jb'.ctxOf qpn = some (jbStoreSeg ctx (psnAdd start i) (msgSegType n i) m))
    (hasm : Assembling ctx start n (msgSegType n)
      (fun i m => (copies qpn (psnAdd start i) ops).head? = some m))
    (hrec : ∀ i < n, ctx.Received i ↔ copies qpn (psnAdd start i) ops ≠ []) (hi : i < n)
    (hmiss : ¬ ctx.Received (ctx.slotOf (psnAdd start i))) :
    Collects qpn start n (ops ++ [.addSeg qpn (psnAdd start i) (msgSegType n i) m]) jb' := by
  obtain ⟨-, hmax, -⟩ := hasm.ends
  have hslot : ctx.slotOf (psnAdd start i) = i := hasm.slotOf_psnAdd (by omega)
  have hempty : copies qpn (psnAdd start i) ops = [] := by
    rw [hslot, hrec i hi, not_not] at hmiss
    exact hmiss
  have hlater : Assembling ctx start n (msgSegType n) (fun j m' => (copies qpn (psnAdd start j)
      (ops ++ [.addSeg qpn (psnAdd start i) (msgSegType n i) m])).head? = some m') :=
    hasm.mono fun j m' hm' => head_copies_append hm' _
  refine ⟨_, hfound, hlater.store hmiss fun _ => ?_, fun j hj => ?_⟩
  · rw [hslot]
    refine ⟨rfl, rfl, ?_⟩
    rw [copies_addSeg (by omega) (by omega), hempty]
    simp
  · rw [copies_addSeg (by omega) (by omega)]
    by_cases hji : j = i
    · subst hji
      have hself := jbStoreSeg_get_slotOf ctx (psnAdd start j) (msgSegType n j) m
      rw [hslot] at hself
      simp [JbWriteContext.Received, hself]
    · have hother : j % jbMaxSegments ≠ ctx.slotOf (psnAdd start i) := by
        rw [hslot, Nat.mod_eq_of_lt (by omega)]
        exact hji
      rw [jbStoreSeg_received_of_ne _ _ _ _ hother, hrec j hj]
      simp [hji]

/-- The arrival of a segment of the message extends the collection: it is stored
when it is the first copy and dropped when it is not. -/
theorem Collects.addSeg (h : Collects qpn start n ops jb) {i : Nat} (hi : i < n) (m : μ) :
    Collects qpn start n (ops ++ [.addSeg qpn (psnAdd start i) (msgSegType n i) m])
      (jbAddSeg jb qpn (psnAdd start i) (msgSegType n i) m io).2.1 := by
  obtain ⟨ctx, hfound, hasm, hrec⟩ := h
  obtain ⟨-, hmax, -⟩ := hasm.ends
  by_cases hdup : ctx.Received (ctx.slotOf (psnAdd start i))
  · rw [jbAddSeg_duplicate hfound hdup]
    rw [hasm.slotOf_psnAdd (by omega)] at hdup
    exact Collects.duplicate hfound hasm hrec hi hdup m
  · obtain ⟨k, hfind, hadd⟩ := jbAddSeg_store (psnAdd start i) (msgSegType n i) m io hfound hdup
    refine Collects.store ?_ hasm hrec hi hdup
    rw [hadd]
    exact ctxOf_update_self rfl hfind ((jbStoreSeg_qpn _ _ _ _).trans (ctxOf_qpn hfound))

/-- Every call of the run extends the collection. -/
theorem Collects.step (h : Collects qpn start n ops jb) (hq : qpn ≠ 0) {op : JbOp μ}
    (hop : op.OfMessage qpn start n) (io : Io μ) :
    Collects qpn start n (ops ++ [op]) (jbStep (jb, io) op).1 := by
  cases op with
  | addSeg q psn ty m =>
    by_cases hself : q = qpn
    · subst hself
      simp only [JbOp.OfMessage, if_true] at hop
      obtain ⟨i, hi, rfl, rfl⟩ := hop
      exact h.addSeg hi m
    · exact h.of_other (jbAddSeg_ctxOf_of_ne (Ne.symm hself) hq)
        (fun psn' => by simp [JbOp.copy, hself])
  | removeWrite q =>
    exact h.of_other (jbRemoveWrite_ctxOf_of_ne (Ne.symm hop.1) hq) (fun _ => rfl)

/-- What the two queries answer once a context collects the message. -/
theorem Collects.queries (h : Collects qpn start n ops jb) :
    ((∃ i < n, copies qpn (psnAdd start i) ops = []) →
      jbGetOrderedSegs jb qpn = (-1, [])) ∧
    ((∀ i < n, copies qpn (psnAdd start i) ops ≠ []) →
      jbIsWriteComplete jb qpn = true ∧ (jbGetOrderedSegs jb qpn).1 = 0 ∧
        (jbGetOrderedSegs jb qpn).2.map some =
          (List.range n).map fun i => (copies qpn (psnAdd start i) ops).head?) := by
  obtain ⟨ctx, hfound, hasm, hrec⟩ := h
  have hn := hasm.ends.1
  constructor
  · rintro ⟨i, hi, hnil⟩
    have hmiss : ∃ i < n, ¬ ctx.Received i := ⟨i, hi, by rw [hrec i hi, hnil]; simp⟩
    exact jbGetOrderedSegs_of_scan_none hfound (hasm.scan_of_missing hmiss)
  · intro harrived
    have hall : ∀ i < n, ctx.Received i := fun i hi => (hrec i hi).mpr (harrived i hi)
    obtain ⟨out, hscan, hout⟩ := hasm.scan_of_all hall
    rw [jbGetOrderedSegs_of_scan hfound hscan]
    refine ⟨?_, rfl, ?_⟩
    · rw [jbIsWriteComplete_eq, hfound]
      exact hasm.flag (hall (n - 1) (by omega))
    · rw [hout]
      refine List.map_congr_left fun i hi => ?_
      have hi' : i < n := List.mem_range.mp hi
      obtain ⟨m, hget, hfirst⟩ := hasm.seg i hi' (hall i hi')
      rw [hget, hfirst]

end OneMessage

/-- The leading segment and then calls of the message and of other QPNs: the
context collects the message. -/
theorem collects_run {qpn start n : Nat} (hq : qpn ≠ 0) (hpsn : start < maxPsn) (hn : 1 ≤ n)
    (hmax : n ≤ jbMaxSegments) {jb : JitterBuffer μ} {io : Io μ} (hnone : jb.ctxOf qpn = none)
    (hfree : jb.HasFreeSlot) (m : μ) (rest : List (JbOp μ))
    (hrest : ∀ op ∈ rest, op.OfMessage qpn start n) :
    Collects qpn start n (.addSeg qpn start (msgSegType n 0) m :: rest)
      (run jbStep (jb, io) (.addSeg qpn start (msgSegType n 0) m :: rest)).1 := by
  -- induction on the calls after the first, taken from the end of the run
  induction rest using List.reverseRecOn with
  | nil => exact collects_leading hpsn hn hmax hnone hfree m
  | append_singleton rest op ih =>
    have hbefore := ih fun op' hop' => hrest op' (by simp [hop'])
    rw [← List.cons_append, run_append]
    exact hbefore.step hq (hrest op (by simp)) _

/-- A WRITE of at most 256 segments whose leading segment arrives first.  The
rest may arrive in any order and any number of times, between calls for other
QPNs: until every PSN has arrived nothing can be delivered, and once every PSN
has arrived `jb_get_ordered_segs` returns 0 with the first copies, in PSN order. -/
theorem leading_first_reassembles {qpn start n : Nat} (hq : qpn ≠ 0) (hpsn : start < maxPsn)
    (hn : 1 ≤ n) (hmax : n ≤ jbMaxSegments) {jb : JitterBuffer μ} {io : Io μ}
    (hnone : jb.ctxOf qpn = none) (hfree : jb.HasFreeSlot) (m : μ) (rest : List (JbOp μ))
    (hrest : ∀ op ∈ rest, op.OfMessage qpn start n) :
    let ops := .addSeg qpn start (msgSegType n 0) m :: rest
    let jb' := (run jbStep (jb, io) ops).1
    ((∃ i < n, copies qpn (psnAdd start i) ops = []) →
      ¬ (jbIsWriteComplete jb' qpn = true ∧ (jbGetOrderedSegs jb' qpn).1 = 0)) ∧
    ((∀ i < n, copies qpn (psnAdd start i) ops ≠ []) →
      jbIsWriteComplete jb' qpn = true ∧ (jbGetOrderedSegs jb' qpn).1 = 0 ∧
        (jbGetOrderedSegs jb' qpn).2.map some =
          (List.range n).map fun i => (copies qpn (psnAdd start i) ops).head?) := by
  intro ops jb'
  have hcollects : Collects qpn start n ops jb' :=
    collects_run hq hpsn hn hmax hnone hfree m rest hrest
  obtain ⟨hsome, hwhole⟩ := hcollects.queries
  refine ⟨fun hmiss hdelivered => ?_, hwhole⟩
  rw [hsome hmiss] at hdelivered
  simp at hdelivered

/-- A message of two segments across the PSN wrap, its LAST repeated. -/
theorem leading_first_reassembles_across_wrap :
    (jbGetOrderedSegs (run jbStep (jbInit, .start (.accepting none))
      [.addSeg 7 0xFFFFFF .first 10, .addSeg 7 0 .last 11, .addSeg 7 0 .last 12]).1 7).2.map some =
        [some 10, some 11] := by
  have hrest : ∀ op ∈ [JbOp.addSeg 7 0 .last 11, .addSeg 7 0 .last 12],
      op.OfMessage 7 0xFFFFFF 2 := by
    intro op hop
    simp only [List.mem_cons, List.not_mem_nil, or_false] at hop
    rcases hop with rfl | rfl <;> exact ⟨1, by decide, rfl, rfl⟩
  have h := @leading_first_reassembles Nat 7 0xFFFFFF 2 (by decide) (by decide) (by decide)
    (by decide) jbInit (.start (.accepting none)) rfl ⟨0, rfl, rfl⟩ 10 _ hrest
  exact (h.2 (by decide)).2.2

/-! ## What a run may release

The buffers of each QPN are copies of the packets of a sender stream; `pos`
gives the stream position of a buffer. -/

/-- The call adds a packet of the stream of its nonzero QPN. -/
def JbOp.DrawnFrom (streams : Nat → SenderStream) (pos : μ → Nat) : JbOp μ → Prop
  | .addSeg qpn psn segmentType m =>
    qpn ≠ 0 ∧ pos m < (streams qpn).length ∧ psn = (streams qpn).psn (pos m) ∧
      segmentType = (streams qpn).segType (pos m)
  | .removeWrite _ => True

/-- The call keeps the context of its QPN to one message.  A new context is
opened by the leading segment of a message of at most 256 segments, and a packet
that falls in a slot of that message which is not received yet belongs to that
message. -/
def InPlace (streams : Nat → SenderStream) (pos : μ → Nat) (s : JitterBuffer μ × Io μ) :
    JbOp μ → Prop
  | .addSeg qpn _ _ m =>
    match s.1.ctxOf qpn with
    | none => s.1.HasFreeSlot → ∃ n, (streams qpn).Message (pos m) n ∧ n ≤ jbMaxSegments
    | some ctx => Fits (streams qpn) pos ctx m
  | .removeWrite _ => True

/-- The invariant of a run whose calls are all in place. -/
structure KeepsMessages (streams : Nat → SenderStream) (pos : μ → Nat)
    (jb : JitterBuffer μ) : Prop where
  distinct : jb.QpnsDistinct
  free_empty : ∀ i, (jb.writes i).qpn = 0 → ∀ k, ¬ (jb.writes i).Received k
  collects : ∀ qpn ≠ 0, ∀ ctx, jb.ctxOf qpn = some ctx →
    ∃ s n, (streams qpn).Message s n ∧ CollectsAt (streams qpn) pos ctx s n

section Runs

variable {streams : Nat → SenderStream} {pos : μ → Nat}

theorem keepsMessages_jbInit : KeepsMessages streams pos (jbInit : JitterBuffer μ) where
  distinct := qpnsDistinct_jbInit
  free_empty := fun i _ k => by
    simp [jbInit, JbWriteContext.Received, JbWriteContext.zero, JbSegment.zero]
  collects := fun qpn hq ctx h => by
    have := ctxOf_qpn h
    obtain ⟨i, _, rfl⟩ := ctxOf_eq_some h
    exact absurd this.symm hq

/-- The context of the QPN after an in-place `jb_add_seg`. -/
theorem KeepsMessages.addSeg_collects {s : JitterBuffer μ × Io μ} {qpn : Nat} {m : μ}
    (h : KeepsMessages streams pos s.1) (hq : qpn ≠ 0)
    (hplace : InPlace streams pos s
      (.addSeg qpn ((streams qpn).psn (pos m)) ((streams qpn).segType (pos m)) m))
    {ctx : JbWriteContext μ}
    (hctx : (jbAddSeg s.1 qpn ((streams qpn).psn (pos m)) ((streams qpn).segType (pos m)) m
      s.2).2.1.ctxOf qpn = some ctx) :
    ∃ start n, (streams qpn).Message start n ∧ CollectsAt (streams qpn) pos ctx start n := by
  cases hfound : s.1.ctxOf qpn with
  | none =>
    by_cases hfree : s.1.HasFreeSlot
    · rw [(jbAddSeg_accept _ _ _ _ fun _ => hfree).2, hfound] at hctx
      cases hctx
      simp only [InPlace, hfound] at hplace
      obtain ⟨n, hmsg, hmax⟩ := hplace hfree
      exact ⟨pos m, n, hmsg, collectsAt_accept_none hmsg.tail hmax⟩
    · rw [jbAddSeg_full hfound hfree, hfound] at hctx
      cases hctx
  | some old =>
    obtain ⟨start, n, hmsg, hcollects⟩ := h.collects qpn hq old hfound
    rw [(jbAddSeg_accept _ _ _ _ (by simp [hfound])).2, hfound] at hctx
    cases hctx
    simp only [InPlace, hfound] at hplace
    exact ⟨start, n, hmsg, hcollects.accept hplace⟩

/-- An in-place call keeps the invariant. -/
theorem KeepsMessages.step {s : JitterBuffer μ × Io μ} {op : JbOp μ}
    (h : KeepsMessages streams pos s.1) (hdrawn : op.DrawnFrom streams pos)
    (hplace : InPlace streams pos s op) : KeepsMessages streams pos (jbStep s op).1 := by
  cases op with
  | addSeg qpn psn ty m =>
    obtain ⟨hq, _, rfl, rfl⟩ := hdrawn
    refine ⟨jbAddSeg_qpnsDistinct h.distinct, ?_, ?_⟩
    · intro i hi
      rcases jbAddSeg_writes s.1 qpn ((streams qpn).psn (pos m)) ((streams qpn).segType (pos m))
        m s.2 with hsame | ⟨j, ctx, hw, hctx, _⟩
      · simp only [jbStep, hsame] at hi ⊢
        exact h.free_empty i hi
      · simp only [jbStep, hw] at hi ⊢
        by_cases hij : i = j
        · subst hij
          rw [Function.update_self, hctx] at hi
          exact absurd hi hq
        · rw [Function.update_of_ne hij] at hi ⊢
          exact h.free_empty i hi
    · intro q' hq' ctx hctx
      by_cases hself : q' = qpn
      · subst hself
        exact h.addSeg_collects hq hplace hctx
      · rw [jbStep, jbAddSeg_ctxOf_of_ne hself hq'] at hctx
        exact h.collects q' hq' ctx hctx
  | removeWrite qpn =>
    refine ⟨jbRemoveWrite_qpnsDistinct h.distinct, ?_, ?_⟩
    · intro i hi
      cases hfind : jbFind s.1 qpn with
      | none =>
        simp only [jbStep, jbRemoveWrite, hfind] at hi ⊢
        exact h.free_empty i hi
      | some j =>
        simp only [jbStep, jbRemoveWrite_writes hfind] at hi ⊢
        by_cases hij : i = j
        · subst hij
          simp [JbWriteContext.Received, JbWriteContext.zero, JbSegment.zero]
        · rw [Function.update_of_ne hij] at hi ⊢
          exact h.free_empty i hi
    · intro q' hq' ctx hctx
      by_cases hself : q' = qpn
      · subst hself
        rw [jbStep, jbRemoveWrite_ctxOf_self h.distinct hq'] at hctx
        cases hctx
      · rw [jbStep, jbRemoveWrite_ctxOf_of_ne hself hq'] at hctx
        exact h.collects q' hq' ctx hctx

end Runs

/-- In every run from `jb_init` whose calls are all in place, whatever
`jb_get_ordered_segs` releases is exactly one complete WRITE. -/
theorem released_isCompleteWrite (streams : Nat → SenderStream) (pos : μ → Nat) (io : Io μ)
    (ops : List (JbOp μ)) (hdrawn : ∀ op ∈ ops, op.DrawnFrom streams pos)
    (hplace : StepsMeet jbStep (InPlace streams pos) (jbInit, io) ops) (qpn : Nat)
    (out : List μ)
    (hrel : jbGetOrderedSegs (run jbStep (jbInit, io) ops).1 qpn = (0, out)) :
    IsCompleteWrite
      (out.map fun m => ((streams qpn).psn (pos m), (streams qpn).segType (pos m))) := by
  have hkeeps : KeepsMessages streams pos (run jbStep (jbInit, io) ops).1 := by
    have hmeet : StepsMeet jbStep
        (fun s op => InPlace streams pos s op ∧ op.DrawnFrom streams pos) (jbInit, io) ops :=
      stepsMeet_and hplace hdrawn
    have hstep : ∀ (s : JitterBuffer μ × Io μ) (op : JbOp μ), KeepsMessages streams pos s.1 →
        InPlace streams pos s op ∧ op.DrawnFrom streams pos →
        KeepsMessages streams pos (jbStep s op).1 :=
      fun s op hinv hop => hinv.step hop.2 hop.1
    exact run_induction hstep keepsMessages_jbInit hmeet
  cases hfound : (run jbStep (jbInit, io) ops).1.ctxOf qpn with
  | none => rw [jbGetOrderedSegs_of_none hfound] at hrel; cases hrel
  | some ctx =>
    cases hscan : jbScan ctx.segments jbMaxSegments 0 with
    | none => rw [jbGetOrderedSegs_of_scan_none hfound hscan] at hrel; cases hrel
    | some out' =>
      rw [jbGetOrderedSegs_of_scan hfound hscan] at hrel
      cases hrel
      by_cases hq : qpn = 0
      · -- `jb_find` of QPN 0 returns a free slot, and nothing is received there
        obtain ⟨i, hfind, rfl⟩ := ctxOf_eq_some hfound
        have hmiss := hkeeps.free_empty i (by rw [jbFind_some hfind, hq]) 0
        rw [jbScan_of_missing 0 jbMaxSegments 0 (by decide) (by simp) hmiss] at hscan
        cases hscan
      · obtain ⟨s, n, hmsg, hcollects⟩ := hkeeps.collects qpn hq ctx hfound
        obtain ⟨_, hpos⟩ := hcollects.scan_eq hscan
        refine ⟨(streams qpn).psn s, n, hmsg.pos, ?_⟩
        have hmap : (out.map fun m => ((streams qpn).psn (pos m), (streams qpn).segType (pos m))) =
            (out.map pos).map fun k => ((streams qpn).psn k, (streams qpn).segType k) := by
          simp
        rw [hmap, hpos, List.range'_eq_map_range, List.map_map]
        refine List.map_congr_left fun i hi => ?_
        simp only [Function.comp_apply, Prod.mk.injEq]
        exact ⟨SenderStream_psn_add _ _ _, hmsg.segType_eq (List.mem_range.mp hi)⟩

/-- A stream of one message, FIRST and LAST, from PSN 0. -/
def firstLast : SenderStream := ⟨0, [2], by simp⟩

/-- Both segments in order: the run is in place and releases the message. -/
theorem released_isCompleteWrite_firstLast :
    jbGetOrderedSegs (run jbStep (jbInit, .start (.accepting none))
      [.addSeg 7 0 .first 0, .addSeg 7 1 .last 1]).1 7 = (0, [0, 1]) ∧
    IsCompleteWrite ([0, 1].map fun m => (firstLast.psn m, firstLast.segType m)) := by
  have hrel : jbGetOrderedSegs (run jbStep (jbInit, .start (.accepting none))
      [.addSeg 7 0 .first 0, .addSeg 7 1 .last 1]).1 7 = (0, [0, 1]) := by decide +kernel
  refine ⟨hrel, released_isCompleteWrite (fun _ => firstLast) id (.start (.accepting none))
    [.addSeg 7 0 .first 0, .addSeg 7 1 .last 1] ?_ ⟨?_, ?_, trivial⟩ 7 [0, 1] hrel⟩
  · intro op hop
    simp only [List.mem_cons, List.not_mem_nil, or_false] at hop
    rcases hop with rfl | rfl <;> exact ⟨by decide, by decide, rfl, rfl⟩
  · exact fun _ => ⟨2, ⟨[], [], rfl, rfl⟩, by decide⟩
  · intro opener n hopener hmsg _ _
    obtain rfl : (0 : Nat) = opener := Option.some.inj hopener
    have htwo : firstLast.Message 0 2 := ⟨[], [], rfl, rfl⟩
    rw [hmsg.length_unique htwo.tail]
    decide

/-- The LAST of a two-segment message, arriving alone, is released as if it were
a whole message. -/
theorem last_alone_is_released :
    (JbOp.addSeg 7 1 .last 1).DrawnFrom (fun _ => firstLast) id ∧
    jbGetOrderedSegs (run jbStep (jbInit, .start (.accepting none)) [.addSeg 7 1 .last 1]).1 7 =
      (0, [1]) ∧
    ¬ IsCompleteWrite ([1].map fun m => (firstLast.psn m, firstLast.segType m)) := by
  refine ⟨⟨by decide, by decide, rfl, rfl⟩, by decide +kernel, fun h => ?_⟩
  exact absurd h.head_isLeading (by decide)

end RdmaGateway.Reassembly
