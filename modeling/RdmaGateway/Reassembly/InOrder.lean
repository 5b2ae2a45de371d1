/-
  Reassembly/InOrder.lean --- a context whose segments arrive in order.

  As long as every segment carries the PSN after the last one, the slots fill from 0 on and
  nothing is missing behind them: a context holds the arrivals themselves, in order
  (`HoldsInOrder`), and the final segment releases them all.
-/
import RdmaGateway.Reassembly.Agreement

set_option autoImplicit false

namespace RdmaGateway.Reassembly

open RdmaGateway.Foundation
open RdmaGateway.Roce

variable {μ : Type}

/-- The context has received exactly these segments, from slot 0 on, none of them final. -/
structure HoldsInOrder (ctx : JbWriteContext μ) (held : List (JbSegment μ)) : Prop where
  taken : ∀ i < jbMaxSegments, ctx.taken i = held[i]?
  waits : ctx.writeComplete = false
  notFinal : ∀ seg ∈ held, seg.segmentType.isFinal = false

theorem holdsInOrder_opened (qpn psn : Nat) :
    HoldsInOrder (.opened qpn psn : JbWriteContext μ) [] :=
  ⟨fun i _ => taken_eq_none.mpr (opened_not_received qpn psn i), rfl,
    fun _ hseg => absurd hseg List.not_mem_nil⟩

/-- A packet without a context arrives at the context that is set up for it. -/
theorem accept_none_eq (qpn psn : Nat) (ty : WriteSegmentType) (m : μ) :
    accept none qpn psn ty m = accept (some (.opened qpn psn)) qpn psn ty m := by
  rw [accept_some, if_neg (opened_not_received qpn psn _)]
  rfl

/-- The scan meets the segments held, up to the final one. -/
theorem jbScan_of_taken (ctx : JbWriteContext μ) {last : JbSegment μ}
    (hlast : last.segmentType.isFinal = true) :
    ∀ (held : List (JbSegment μ)) (fuel i : Nat), held.length < fuel →
      (∀ seg ∈ held, seg.segmentType.isFinal = false) →
      (∀ j ≤ held.length, ctx.taken (i + j) = (held ++ [last])[j]?) →
      jbScan ctx.segments fuel i =
        some ((held ++ [last]).filterMap JbSegment.mbuf) := by
  intro held
  induction held with
  | nil =>
    intro fuel i hfuel _ htaken
    obtain ⟨fuel, rfl⟩ := Nat.exists_eq_succ_of_ne_zero (Nat.ne_of_gt hfuel)
    have hself : ctx.taken i = some last := htaken 0 (Nat.le_refl 0)
    rw [jbScan_taken, hself]
    cases hmbuf : last.mbuf <;> simp [hlast, hmbuf]
  | cons seg held ih =>
    intro fuel i hfuel hheld htaken
    obtain ⟨fuel, rfl⟩ := Nat.exists_eq_succ_of_ne_zero (Nat.ne_of_gt (Nat.zero_lt_of_lt hfuel))
    have hself : ctx.taken i = some seg := htaken 0 (Nat.zero_le _)
    have hrest := ih fuel (i + 1) (Nat.lt_of_succ_lt_succ hfuel)
      (fun x hx => hheld x (List.mem_cons_of_mem _ hx)) (fun j hj => by
        have hnext := htaken (j + 1) (Nat.succ_le_succ hj)
        rwa [Nat.add_comm j, ← Nat.add_assoc, Nat.add_comm 1 j] at hnext)
    have hopen := hheld seg List.mem_cons_self
    rw [jbScan_taken, hself]
    cases hmbuf : seg.mbuf <;> simp [hopen, hrest, hmbuf]

section Arrival

variable {ctx : JbWriteContext μ} {held : List (JbSegment μ)} {qpn psn : Nat}
  {ty : WriteSegmentType} {m : μ}

/-- The next segment in order is stored behind those held. -/
theorem HoldsInOrder.taken_accept (h : HoldsInOrder ctx held) (hslot : ctx.slotOf psn = held.length)
    {i : Nat} (hi : i < jbMaxSegments) :
    (accept (some ctx) qpn psn ty m).taken i = (held ++ [⟨psn, some m, .received, ty⟩])[i]? := by
  rw [Reassembly.taken_accept ctx qpn psn ty m hi, hslot, h.taken i hi]
  split
  · rename_i hself
    simp [hself]
  · rename_i hne
    rcases Nat.lt_or_gt_of_ne hne with hlt | hgt
    · rw [List.getElem?_append_left hlt]
    · rw [List.getElem?_eq_none (Nat.le_of_lt hgt),
        List.getElem?_eq_none (by rw [List.length_append]; exact hgt)]

variable (qpn m) in
theorem HoldsInOrder.writeComplete_accept (h : HoldsInOrder ctx held)
    (hlen : held.length < jbMaxSegments) (hslot : ctx.slotOf psn = held.length) :
    (accept (some ctx) qpn psn ty m).writeComplete = ty.isFinal := by
  have hopen : ¬ ctx.Received (ctx.slotOf psn) := by
    rw [hslot, ← taken_eq_none, h.taken _ hlen]
    exact List.getElem?_eq_none le_rfl
  rw [accept_some, if_neg hopen, jbStoreSeg_writeComplete, h.waits, Bool.or_false]

/-- It is held too, if more is to come. -/
theorem HoldsInOrder.next (h : HoldsInOrder ctx held) (hlen : held.length < jbMaxSegments)
    (hslot : ctx.slotOf psn = held.length) (hopen : ty.isFinal = false) :
    release (accept (some ctx) qpn psn ty m) = (some (accept (some ctx) qpn psn ty m), []) ∧
      HoldsInOrder (accept (some ctx) qpn psn ty m)
        (held ++ [⟨psn, some m, .received, ty⟩]) := by
  have hwaits := (h.writeComplete_accept qpn m hlen hslot).trans hopen
  refine ⟨by rw [release, if_neg (by simp [hwaits])], fun i hi => h.taken_accept hslot hi, hwaits,
    fun seg hseg => ?_⟩
  rcases List.mem_append.mp hseg with hold | hnew
  · exact h.notFinal seg hold
  · rw [List.mem_singleton.mp hnew]
    exact hopen

/-- The final segment releases what is held and itself. -/
theorem HoldsInOrder.last (h : HoldsInOrder ctx held) (hlen : held.length < jbMaxSegments)
    (hslot : ctx.slotOf psn = held.length) (hfinal : ty.isFinal = true) :
    release (accept (some ctx) qpn psn ty m) =
      (none, held.filterMap JbSegment.mbuf ++ [m]) := by
  have hflag := (h.writeComplete_accept qpn m hlen hslot).trans hfinal
  have hscan := jbScan_of_taken (accept (some ctx) qpn psn ty m) hfinal held jbMaxSegments 0 hlen
    h.notFinal fun j hj => by
      rw [Nat.zero_add]
      exact h.taken_accept hslot (Nat.lt_of_le_of_lt hj hlen)
  have hself : [(⟨psn, some m, .received, ty⟩ : JbSegment μ)].filterMap JbSegment.mbuf = [m] := rfl
  rw [List.filterMap_append, hself] at hscan
  rw [release, if_pos hflag, hscan]
  cases held.filterMap JbSegment.mbuf with
  | nil => rfl
  | cons x xs => rfl

end Arrival

/-- Reading a list by index, past its end, is reading the list. -/
theorem filterMap_range_getElem? {α β : Type} (f : α → Option β) (xs : List α) :
    ∀ {n : Nat}, xs.length ≤ n → (List.range n).filterMap (fun i => xs[i]?.bind f) =
      xs.filterMap f := by
  induction xs with
  | nil => intro n _; simp
  | cons x xs ih =>
    intro n hn
    obtain ⟨n, rfl⟩ := Nat.exists_eq_succ_of_ne_zero (Nat.ne_of_gt (Nat.zero_lt_of_lt hn))
    have hrest := ih (Nat.le_of_succ_le_succ hn)
    rw [List.range_succ_eq_map, List.filterMap_cons, List.filterMap_map, List.filterMap_cons]
    simp only [List.getElem?_cons_zero, Option.bind_some, Function.comp_def,
      Nat.succ_eq_add_one, List.getElem?_cons_succ, hrest]

/-- The buffers of a context with nothing behind the segments it holds. -/
theorem HoldsInOrder.held_eq {ctx : JbWriteContext μ} {held : List (JbSegment μ)}
    (h : HoldsInOrder ctx held) (hlen : held.length ≤ jbMaxSegments)
    (hstray : ∀ i, ¬ ctx.Received i → (ctx.segments.get i).mbuf = none) :
    ctx.held = held.filterMap JbSegment.mbuf := by
  rw [← filterMap_range_getElem? JbSegment.mbuf held hlen, JbWriteContext.held]
  refine List.filterMap_congr fun i hi => ?_
  rw [← h.taken i (List.mem_range.mp hi), JbWriteContext.taken]
  split
  · rfl
  · rename_i hmiss
    rw [hstray i hmiss]
    rfl

end RdmaGateway.Reassembly
