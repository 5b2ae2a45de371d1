/-
  Reassembly/Invariant.lean --- the representation invariant of the jitter buffer.

  `RepInv` gathers what the fields of `jitter_buffer_t` say about each other in
  every state that `jb_add_seg` and `jb_remove_write` reach from `jb_init`: the
  counters count, a received segment sits where its PSN puts it, the expected PSN
  stands right behind a run of received segments, and the completion flag knows of
  a final one.

  The one step with an argument in it is the store.  The expected PSN moves only
  when the segment that carries it arrives and finds its slot not received, so it
  cannot move past a whole turn of the ring: slot 0 is taken by then.
-/
import Mathlib.Data.Fintype.Card
import RdmaGateway.Reassembly.Messages

set_option autoImplicit false

namespace RdmaGateway.Reassembly

open RdmaGateway.Foundation
open RdmaGateway.Dpdk
open RdmaGateway.Roce

variable {μ : Type} {ctx : JbWriteContext μ} {jb jb' : JitterBuffer μ} {qpn psn : Nat}

/-! ## One context -/

/-- The slots in state `JB_SEGMENT_RECEIVED`. -/
def JbWriteContext.receivedSlots (ctx : JbWriteContext μ) : Finset Nat :=
  (Finset.range jbMaxSegments).filter fun i => ctx.Received i

theorem mem_receivedSlots {i : Nat} :
    i ∈ ctx.receivedSlots ↔ i < jbMaxSegments ∧ ctx.Received i := by
  simp [JbWriteContext.receivedSlots]

/-- How far the expected PSN is ahead of the one that opened the context. -/
def JbWriteContext.advanced (ctx : JbWriteContext μ) : Nat :=
  psnForwardDist ctx.firstPsn ctx.expectedPsn

/-- What the fields of a context say about each other. -/
structure ContextInv (ctx : JbWriteContext μ) : Prop where
  expectedPsn_lt : ctx.expectedPsn < maxPsn
  counted : ctx.segmentCount = ctx.receivedSlots.card
  placed : ∀ i < jbMaxSegments, ctx.Received i →
    (ctx.segments.get i).mbuf.isSome = true ∧ ctx.slotOf (ctx.segments.get i).psn = i
  advanced_le : ctx.advanced ≤ jbMaxSegments
  behind : ∀ k < ctx.advanced, ctx.Received k ∧ (ctx.segments.get k).psn = psnAdd ctx.firstPsn k
  complete : ctx.writeComplete = true ↔
    ∃ i < jbMaxSegments, ctx.Received i ∧ (ctx.segments.get i).segmentType.isFinal = true

theorem ContextInv.count_le (h : ContextInv ctx) : ctx.segmentCount ≤ jbMaxSegments := by
  rw [h.counted]
  exact (Finset.card_filter_le _ _).trans_eq (Finset.card_range _)

/-- The context `jb_get_or_create_write` sets up. -/
theorem contextInv_opened (hpsn : psn < maxPsn) :
    ContextInv (JbWriteContext.opened qpn psn : JbWriteContext μ) := by
  have hnot : ∀ i, ¬ (JbWriteContext.opened qpn psn : JbWriteContext μ).Received i :=
    opened_not_received qpn psn
  have hadv : (JbWriteContext.opened qpn psn : JbWriteContext μ).advanced = 0 := by
    simp [JbWriteContext.advanced, JbWriteContext.opened, psnForwardDist_eq]
  refine ⟨hpsn, ?_, fun i _ hi => absurd hi (hnot i), by omega, fun k hk => by omega, ?_⟩
  · rw [JbWriteContext.receivedSlots, Finset.filter_false_of_mem fun i _ => hnot i]
    rfl
  · constructor
    · intro hflag
      cases hflag
    · rintro ⟨i, -, hi, -⟩
      exact absurd hi (hnot i)

/-- The slots received after a store. -/
theorem receivedSlots_store (ctx : JbWriteContext μ) (psn : Nat) (ty : WriteSegmentType) (m : μ) :
    (jbStoreSeg ctx psn ty m).receivedSlots = insert (ctx.slotOf psn) ctx.receivedSlots := by
  ext i
  rw [Finset.mem_insert, mem_receivedSlots, mem_receivedSlots]
  by_cases hi : i = ctx.slotOf psn
  · subst hi
    simp [JbWriteContext.Received, jbStoreSeg_get_slotOf, ctx.slotOf_lt]
  · constructor
    · rintro ⟨hlt, hrec⟩
      rw [jbStoreSeg_received_of_ne ctx psn ty m (by rwa [Nat.mod_eq_of_lt hlt])] at hrec
      exact Or.inr ⟨hlt, hrec⟩
    · rintro (heq | ⟨hlt, hrec⟩)
      · exact absurd heq hi
      · exact ⟨hlt, (jbStoreSeg_received_of_ne ctx psn ty m
          (by rwa [Nat.mod_eq_of_lt hlt])).mpr hrec⟩

theorem psnAdd_advanced (h : ctx.expectedPsn < maxPsn) :
    psnAdd ctx.firstPsn ctx.advanced = ctx.expectedPsn := by
  have hpos : 0 < maxPsn := by decide
  rw [JbWriteContext.advanced, psnForwardDist_eq, psnAdd_eq, ← Nat.mod_add_mod]
  rw [Nat.mod_eq_of_lt h]
  exact Circle.advance_dist (Nat.mod_lt _ hpos) h

/-- The expected PSN after the segment that carries it. -/
theorem ContextInv.advanced_lt (h : ContextInv ctx)
    (hmiss : ¬ ctx.Received (ctx.slotOf ctx.expectedPsn)) : ctx.advanced < jbMaxSegments := by
  refine Nat.lt_of_le_of_ne h.advanced_le fun heq => hmiss ?_
  have hslot : ctx.slotOf ctx.expectedPsn = 0 := by
    change ctx.advanced % jbMaxSegments = 0
    rw [heq, Nat.mod_self]
  rw [hslot]
  exact (h.behind 0 (by rw [heq]; decide)).1

theorem eq_of_psnForwardDist_eq_zero {a b : Nat} (ha : a < maxPsn) (hb : b < maxPsn)
    (h : psnForwardDist a b = 0) : a = b := by
  have hadv := Circle.advance_dist ha hb
  rw [psnForwardDist_eq, Nat.mod_eq_of_lt ha, Nat.mod_eq_of_lt hb] at h
  rw [h] at hadv
  simpa [Circle.advance, Nat.mod_eq_of_lt ha] using hadv

section Store

variable {t : WriteSegmentType} {m : μ}

/-- The expected PSN stays, or the segment that carries it has arrived and it moves
by one. -/
theorem ContextInv.advanced_store (h : ContextInv ctx) (hpsn : psn < maxPsn)
    (hmiss : ¬ ctx.Received (ctx.slotOf psn)) :
    (jbStoreSeg ctx psn t m).expectedPsn < maxPsn ∧
      ((jbStoreSeg ctx psn t m).advanced = ctx.advanced ∨
        (psn = ctx.expectedPsn ∧ ctx.advanced < jbMaxSegments ∧
          (jbStoreSeg ctx psn t m).advanced = ctx.advanced + 1)) := by
  by_cases hdist : psnForwardDist ctx.expectedPsn psn = 0
  · obtain rfl := eq_of_psnForwardDist_eq_zero h.expectedPsn_lt hpsn hdist
    have hlt := h.advanced_lt hmiss
    have hmax : jbMaxSegments < maxPsn := by decide
    have heq : (jbStoreSeg ctx ctx.expectedPsn t m).expectedPsn =
        psnAdd ctx.firstPsn (ctx.advanced + 1) := by
      simp only [jbStoreSeg, if_pos hdist]
      rw [← psnAdd_psnAdd, psnAdd_advanced h.expectedPsn_lt]
    refine ⟨heq ▸ psnAdd_lt _ _, Or.inr ⟨rfl, hlt, ?_⟩⟩
    rw [JbWriteContext.advanced, heq, jbStoreSeg_firstPsn]
    exact psnForwardDist_psnAdd _ (by omega)
  · have heq : (jbStoreSeg ctx psn t m).expectedPsn = ctx.expectedPsn := by
      simp only [jbStoreSeg, if_neg hdist]
    refine ⟨heq ▸ h.expectedPsn_lt, Or.inl ?_⟩
    rw [JbWriteContext.advanced, heq]
    rfl

/-- A received slot keeps its segment when another slot is stored into. -/
theorem received_store_of_miss (hmiss : ¬ ctx.Received (ctx.slotOf psn)) {i : Nat}
    (hi : i < jbMaxSegments) (hrec : ctx.Received i) :
    (jbStoreSeg ctx psn t m).Received i ∧
      (jbStoreSeg ctx psn t m).segments.get i = ctx.segments.get i := by
  have hne : i % jbMaxSegments ≠ ctx.slotOf psn := by
    rw [Nat.mod_eq_of_lt hi]
    rintro rfl
    exact hmiss hrec
  exact ⟨(jbStoreSeg_received_of_ne ctx psn t m hne).mpr hrec,
    jbStoreSeg_get_of_received ctx psn t m hne hrec⟩

/-- A slot received after a store is the one stored into, or was received before. -/
theorem received_of_store {i : Nat} (hi : i < jbMaxSegments)
    (hrec : (jbStoreSeg ctx psn t m).Received i) : i = ctx.slotOf psn ∨ ctx.Received i := by
  have hmem := mem_receivedSlots.mpr ⟨hi, hrec⟩
  rw [receivedSlots_store, Finset.mem_insert] at hmem
  exact hmem.imp_right fun hmem => (mem_receivedSlots.mp hmem).2

theorem received_store_slotOf : (jbStoreSeg ctx psn t m).Received (ctx.slotOf psn) := by
  rw [JbWriteContext.Received, jbStoreSeg_get_slotOf]

theorem ContextInv.behind_store (h : ContextInv ctx) (hpsn : psn < maxPsn)
    (hmiss : ¬ ctx.Received (ctx.slotOf psn)) {k : Nat}
    (hk : k < (jbStoreSeg ctx psn t m).advanced) :
    (jbStoreSeg ctx psn t m).Received k ∧
      ((jbStoreSeg ctx psn t m).segments.get k).psn = psnAdd ctx.firstPsn k := by
  have hold : k < ctx.advanced → (jbStoreSeg ctx psn t m).Received k ∧
      ((jbStoreSeg ctx psn t m).segments.get k).psn = psnAdd ctx.firstPsn k := by
    intro hk
    obtain ⟨hrec, hpsnk⟩ := h.behind k hk
    obtain ⟨hrec', hget⟩ := received_store_of_miss (t := t) (m := m) hmiss
      (hk.trans_le h.advanced_le) hrec
    exact ⟨hrec', by rw [hget, hpsnk]⟩
  rcases (h.advanced_store (t := t) (m := m) hpsn hmiss).2 with heq | ⟨rfl, hlt, heq⟩
  · exact hold (heq ▸ hk)
  · by_cases hkd : k = ctx.advanced
    · have hslot : ctx.slotOf ctx.expectedPsn = k := by
        rw [hkd]
        exact Nat.mod_eq_of_lt hlt
      refine ⟨hslot ▸ received_store_slotOf, ?_⟩
      rw [← hslot, jbStoreSeg_get_slotOf, hslot, hkd, psnAdd_advanced hpsn]
    · exact hold (by omega)

theorem ContextInv.complete_store (h : ContextInv ctx)
    (hmiss : ¬ ctx.Received (ctx.slotOf psn)) :
    (jbStoreSeg ctx psn t m).writeComplete = true ↔
      ∃ i < jbMaxSegments, (jbStoreSeg ctx psn t m).Received i ∧
        ((jbStoreSeg ctx psn t m).segments.get i).segmentType.isFinal = true := by
  rw [jbStoreSeg_writeComplete, Bool.or_eq_true, h.complete]
  constructor
  · rintro (hfinal | ⟨i, hi, hrec, hfinal⟩)
    · refine ⟨ctx.slotOf psn, ctx.slotOf_lt psn, received_store_slotOf, ?_⟩
      rw [jbStoreSeg_get_slotOf]
      exact hfinal
    · obtain ⟨hrec', hget⟩ := received_store_of_miss (t := t) (m := m) hmiss hi hrec
      exact ⟨i, hi, hrec', by rw [hget]; exact hfinal⟩
  · rintro ⟨i, hi, hrec, hfinal⟩
    rcases received_of_store hi hrec with rfl | hold
    · rw [jbStoreSeg_get_slotOf] at hfinal
      exact Or.inl hfinal
    · rw [(received_store_of_miss hmiss hi hold).2] at hfinal
      exact Or.inr ⟨i, hi, hold, hfinal⟩

/-- Storing a segment into a slot that was not received. -/
theorem ContextInv.store (h : ContextInv ctx) (hpsn : psn < maxPsn)
    (hmiss : ¬ ctx.Received (ctx.slotOf psn)) : ContextInv (jbStoreSeg ctx psn t m) where
  expectedPsn_lt := (h.advanced_store hpsn hmiss).1
  counted := by
    have hnew : ctx.slotOf psn ∉ ctx.receivedSlots :=
      fun hmem => hmiss (mem_receivedSlots.mp hmem).2
    rw [receivedSlots_store, Finset.card_insert_of_notMem hnew, ← h.counted]
    rfl
  placed := by
    intro i hi hrec
    rcases received_of_store hi hrec with rfl | hold
    · rw [jbStoreSeg_get_slotOf]
      exact ⟨rfl, rfl⟩
    · rw [(received_store_of_miss hmiss hi hold).2]
      exact h.placed i hi hold
  advanced_le := by
    rcases (h.advanced_store (t := t) (m := m) hpsn hmiss).2 with heq | ⟨-, hlt, heq⟩
    · rw [heq]
      exact h.advanced_le
    · rw [heq]
      exact hlt
  behind := fun _ hk => h.behind_store hpsn hmiss hk
  complete := h.complete_store hmiss

end Store

/-! ## The whole buffer -/

/-- The occupied slots. -/
def JitterBuffer.occupied (jb : JitterBuffer μ) : Finset (Fin jbMaxPendingWrites) :=
  Finset.univ.filter fun i => (jb.writes i).qpn ≠ 0

theorem mem_occupied {i : Fin jbMaxPendingWrites} : i ∈ jb.occupied ↔ (jb.writes i).qpn ≠ 0 := by
  simp [JitterBuffer.occupied]

/-- The representation invariant. -/
structure RepInv (jb : JitterBuffer μ) : Prop where
  distinct : jb.QpnsDistinct
  active : jb.activeWriteCount = jb.occupied.card
  contexts : ∀ i ∈ jb.occupied, ContextInv (jb.writes i) ∧ 1 ≤ (jb.writes i).segmentCount
  free : ∀ i ∉ jb.occupied, jb.writes i = .zero

theorem RepInv.active_le (h : RepInv jb) : jb.activeWriteCount ≤ jbMaxPendingWrites := by
  rw [h.active]
  exact (Finset.card_filter_le _ _).trans_eq (Finset.card_fin _)

theorem repInv_jbInit : RepInv (jbInit : JitterBuffer μ) where
  distinct := qpnsDistinct_jbInit
  active := by
    have hnone : (jbInit : JitterBuffer μ).occupied = ∅ :=
      Finset.filter_false_of_mem fun _ _ hne => hne rfl
    rw [hnone]
    rfl
  contexts := fun _ hi => absurd rfl (mem_occupied.mp hi)
  free := fun _ _ => rfl

/-- Replacing one context: the counter follows, and what the new context has to
satisfy depends on whether it is occupied. -/
theorem RepInv.update (h : RepInv jb) {i : Fin jbMaxPendingWrites} (ctx : JbWriteContext μ)
    (hw : jb'.writes = Function.update jb.writes i ctx) (hdist : jb'.QpnsDistinct)
    (hactive : jb'.activeWriteCount = jb'.occupied.card)
    (hnew : ctx.qpn ≠ 0 → ContextInv ctx ∧ 1 ≤ ctx.segmentCount)
    (hzero : ctx.qpn = 0 → ctx = .zero) : RepInv jb' := by
  refine ⟨hdist, hactive, fun j hj => ?_, fun j hj => ?_⟩
  · rw [mem_occupied, hw] at hj
    rw [hw]
    by_cases hji : j = i
    · subst hji
      rw [Function.update_self] at hj ⊢
      exact hnew hj
    · rw [Function.update_of_ne hji] at hj ⊢
      exact h.contexts j (mem_occupied.mpr hj)
  · rw [mem_occupied, hw, not_not] at hj
    rw [hw]
    by_cases hji : j = i
    · subst hji
      rw [Function.update_self] at hj ⊢
      exact hzero hj
    · rw [Function.update_of_ne hji] at hj ⊢
      exact h.free j fun hmem => mem_occupied.mp hmem hj

variable (jb) in
/-- The occupied slots after one context was replaced. -/
theorem occupied_update {i : Fin jbMaxPendingWrites} {ctx : JbWriteContext μ}
    (hw : jb'.writes = Function.update jb.writes i ctx) :
    jb'.occupied = if ctx.qpn = 0 then jb.occupied.erase i else insert i jb.occupied := by
  ext j
  rw [mem_occupied, hw]
  by_cases hji : j = i
  · subst hji
    rw [Function.update_self]
    split <;> simp_all
  · rw [Function.update_of_ne hji]
    split <;> simp [hji, mem_occupied]

/-- `jb_add_seg` keeps the invariant; `-1` means that nothing changed. -/
theorem RepInv.addSeg (h : RepInv jb) (hq : qpn ≠ 0) (hpsn : psn < maxPsn)
    (ty : WriteSegmentType) (m : μ) (io : Io μ) : RepInv (jbAddSeg jb qpn psn ty m io).2.1 := by
  have hdist : (jbAddSeg jb qpn psn ty m io).2.1.QpnsDistinct := jbAddSeg_qpnsDistinct h.distinct
  cases jbAddSeg_outcome jb qpn psn ty m io with
  | full _ _ hr =>
    rw [hr]
    exact h
  | duplicate _ _ hr =>
    rw [hr]
    exact h
  | @opened i _ hfree hr =>
    rw [hr] at hdist ⊢
    have hnew : i ∉ jb.occupied := fun hmem => mem_occupied.mp hmem hfree.1
    refine h.update (jbStoreSeg (.opened qpn psn) psn ty m) rfl hdist ?_ (fun _ => ?_)
      fun hzero => absurd hzero hq
    · have hcard : jb.occupied.card < jbMaxPendingWrites := by
        simpa using Finset.card_lt_univ_of_notMem hnew
      rw [occupied_update jb rfl, if_neg (by exact hq), Finset.card_insert_of_notMem hnew,
        ← h.active]
      rw [← h.active] at hcard
      exact add32_of_lt (Nat.lt_trans (Nat.succ_lt_succ hcard) (by decide))
    · have hopen : ContextInv (JbWriteContext.opened qpn psn : JbWriteContext μ) :=
        contextInv_opened hpsn
      exact ⟨hopen.store hpsn (opened_not_received qpn psn _), by simp [jbStoreSeg]⟩
  | @stored i ctx hfind hctx hmiss hr =>
    rw [hr] at hdist ⊢
    subst hctx
    have hqpn := jbFind_some hfind
    have hmem : i ∈ jb.occupied := mem_occupied.mpr (hqpn ▸ hq)
    refine h.update (jbStoreSeg (jb.writes i) psn ty m) rfl hdist ?_ (fun _ => ?_)
      fun hzero => absurd (hqpn.symm.trans hzero) hq
    · rw [occupied_update jb rfl, if_neg (by simpa [hqpn] using hq),
        Finset.insert_eq_of_mem hmem, ← h.active]
      rfl
    · exact ⟨(h.contexts i hmem).1.store hpsn hmiss, by simp [jbStoreSeg]⟩

/-- `jb_remove_write` of a nonzero QPN keeps the invariant. -/
theorem RepInv.removeWrite (h : RepInv jb) (hq : qpn ≠ 0) (io : Io μ) :
    RepInv (jbRemoveWrite jb qpn io).1 := by
  have hdist : (jbRemoveWrite jb qpn io).1.QpnsDistinct := jbRemoveWrite_qpnsDistinct h.distinct
  cases hfind : jbFind jb qpn with
  | none =>
    rw [jbRemoveWrite_of_none (by simp [JitterBuffer.ctxOf, hfind])]
    exact h
  | some i =>
    have hmem : i ∈ jb.occupied := mem_occupied.mpr (jbFind_some hfind ▸ hq)
    have hpos := Finset.card_pos.mpr ⟨i, hmem⟩
    have hle := h.active_le
    rw [← h.active] at hpos
    refine h.update .zero (jbRemoveWrite_writes hfind) hdist ?_ (fun hne => absurd rfl hne)
      fun _ => rfl
    have hzero : (JbWriteContext.zero : JbWriteContext μ).qpn = 0 := rfl
    rw [occupied_update jb (jbRemoveWrite_writes hfind), if_pos hzero, Finset.card_erase_of_mem hmem,
      ← h.active]
    simp only [jbRemoveWrite, hfind]
    exact sub32_of_le (Nat.lt_of_le_of_lt hle (by decide)) hpos

/-! ## Every reachable state -/

/-- The calls of the source: a nonzero QPN, a 24-bit PSN, a WRITE segment. -/
def JbOp.Admissible : JbOp μ → Prop
  | .addSeg qpn psn segmentType _ => qpn ≠ 0 ∧ psn < maxPsn ∧ segmentType ≠ .none
  | .removeWrite qpn => qpn ≠ 0

theorem RepInv.step {s : JitterBuffer μ × Io μ} {op : JbOp μ} (h : RepInv s.1)
    (hop : op.Admissible) : RepInv (jbStep s op).1 := by
  cases op with
  | addSeg qpn psn ty m => exact h.addSeg hop.1 hop.2.1 ty m s.2
  | removeWrite qpn => exact h.removeWrite hop s.2

/-- `-1` is answered before anything is written. -/
theorem jbAddSeg_of_neg (jb : JitterBuffer μ) (qpn psn : Nat) (ty : WriteSegmentType) (m : μ)
    (io : Io μ) (hneg : (jbAddSeg jb qpn psn ty m io).1 = -1) :
    (jbAddSeg jb qpn psn ty m io).2 = (jb, io) := by
  cases jbAddSeg_outcome jb qpn psn ty m io with
  | full _ _ hr => rw [hr]
  | duplicate _ _ hr =>
    rw [hr] at hneg
    cases hneg
  | stored _ _ _ hr =>
    rw [hr] at hneg
    cases hneg
  | opened _ _ hr =>
    rw [hr] at hneg
    cases hneg

/-- The invariant holds in every state reached from `jb_init`, and a call that
finds no slot leaves the state it found. -/
theorem jb_reachable_repInv (io : Io μ) (ops : List (JbOp μ)) (hops : ∀ op ∈ ops, op.Admissible) :
    let jb := (run jbStep (jbInit, io) ops).1
    RepInv jb ∧ jb.activeWriteCount ≤ jbMaxPendingWrites ∧
      (∀ i ∈ jb.occupied, (jb.writes i).segmentCount ≤ jbMaxSegments) ∧
      ∀ qpn psn ty m io', (jbAddSeg jb qpn psn ty m io').1 = -1 →
        (jbAddSeg jb qpn psn ty m io').2 = (jb, io') := by
  intro jb
  have hinv : RepInv jb :=
    run_induction (C := fun _ op => JbOp.Admissible op)
      (fun (s : JitterBuffer μ × Io μ) _ (h : RepInv s.1) hop => h.step hop) repInv_jbInit
      (stepsMeet_of_forall (fun _ => hops) _)
  exact ⟨hinv, hinv.active_le, fun i hi => (hinv.contexts i hi).1.count_le,
    fun qpn psn ty m io' => jbAddSeg_of_neg jb qpn psn ty m io'⟩

/-- A FIRST segment at the last PSN, the LAST one past the wrap that arrives
twice, and another QPN that is opened and removed. -/
theorem jb_reachable_repInv_across_wrap :
    RepInv (run jbStep (jbInit, Io.start (.accepting none))
      [.addSeg 7 0xFFFFFF .first 0, .addSeg 7 1 .last 1, .addSeg 7 1 .last 2,
        .addSeg 9 5 .middle 3, .removeWrite 9]).1 := by
  have hall := jb_reachable_repInv (Io.start (.accepting none))
    [.addSeg 7 0xFFFFFF .first 0, .addSeg 7 1 .last 1, .addSeg 7 1 .last 2,
      .addSeg 9 5 .middle 3, .removeWrite (μ := Nat) 9] (by
    simp [JbOp.Admissible, maxPsn])
  exact hall.1

end RdmaGateway.Reassembly
