/-
  Processor/Ownership.lean --- who gives back the buffers of the WAN side.

  A received buffer belongs to the call that received it until a jitter-buffer
  segment takes it over.  As long as no arrival completes a WRITE, releases and
  segments account for the arrivals: every buffer was released once or is stored
  (`wan_step_account`).  The arrival that completes a WRITE breaks this.  Its
  segments are transmitted, or freed when the queue is full, and `jb_remove_write`
  frees them again, because `jb_get_ordered_segs` leaves the pointers in the
  context (`wan_step_releases_twice`).
-/
import RdmaGateway.Foundation.Ledger
import RdmaGateway.Processor.WanStep
import RdmaGateway.Reassembly.Invariant

set_option autoImplicit false

namespace RdmaGateway.Processor

open RdmaGateway.Foundation
open RdmaGateway.Dpdk
open RdmaGateway.Wire
open RdmaGateway.Roce
open RdmaGateway.Tunnel
open RdmaGateway.Arq
open RdmaGateway.Reassembly

/-! ## Releases -/

/-- One when the event releases buffer `x`: it is freed, or a queue takes it. -/
def releaseDelta (x : Nat) : Event Mbuf → Int
  | .free m => mark x m
  | .txBurst _ m true => mark x m
  | _ => 0

/-- How often buffer `x` was released. -/
def releases (x : Nat) (trace : List (Event Mbuf)) : Int := balance (releaseDelta x) trace

/-- The buffers the pool handed out. -/
def allocated (trace : List (Event Mbuf)) : List Nat :=
  trace.filterMap fun
    | .alloc b => some b.id
    | _ => none

section Releases

variable {x : Nat} {ev : List (Event Mbuf)}

theorem releaseDelta_nonneg (x : Nat) (e : Event Mbuf) : 0 ≤ releaseDelta x e := by
  unfold releaseDelta
  split
  · exact mark_nonneg x _
  · exact mark_nonneg x _
  · exact le_rfl

theorem releases_nonneg (x : Nat) (ev : List (Event Mbuf)) : 0 ≤ releases x ev := by
  induction ev with
  | nil => exact le_rfl
  | cons e ev ih =>
    have he := releaseDelta_nonneg x e
    rw [releases, balance_cons]
    exact Int.add_nonneg he ih

theorem releases_append (x : Nat) (ev ev' : List (Event Mbuf)) :
    releases x (ev ++ ev') = releases x ev + releases x ev' := balance_append _ _ _

theorem releases_txEvents (x : Nat) (port : Port) (m : Mbuf) (accepted : Bool) :
    releases x (txEvents port m accepted) = mark x m := by
  cases accepted <;> simp [releases, txEvents, releaseDelta]

theorem releases_free (x : Nat) (m : Mbuf) : releases x [.free m] = mark x m := by
  simp [releases, releaseDelta]

theorem releases_frees (x : Nat) (ms : List Mbuf) :
    releases x (ms.map .free) = balance (mark x) ms := by
  induction ms with
  | nil => rfl
  | cons m ms ih =>
    rw [releases] at ih
    simp [releases, releaseDelta, ih]

theorem allocated_append (ev ev' : List (Event Mbuf)) :
    allocated (ev ++ ev') = allocated ev ++ allocated ev' := List.filterMap_append

/-- A frame of the gateway's own releases only what the pool handed out for it. -/
theorem releases_ownTraffic {P : Port → Mbuf → Prop} (h : OwnTraffic P ev)
    (hx : x ∉ allocated ev) : releases x ev = 0 := by
  have hne : ∀ {b b' : Mbuf}, b'.id = b.id → x ≠ b.id → mark x b' = 0 := by
    intro b b' hid hx
    rw [mark, hid, if_neg hx.symm]
  induction h with
  | nil => rfl
  | @returned b b' hid =>
    have hb : x ≠ b.id := by simpa [allocated] using hx
    simp [releases, releaseDelta, hne hid hb]
  | @sent b f port accepted hid _ =>
    have hb : x ≠ b.id := by
      rintro rfl
      exact hx List.mem_cons_self
    have hcons : releases x (.alloc b :: txEvents port f accepted) =
        releases x (txEvents port f accepted) := by
      simp [releases, releaseDelta]
    rw [hcons, releases_txEvents, hne hid hb]
  | append _ _ ih ih' =>
    rw [allocated_append, List.mem_append, not_or] at hx
    rw [releases_append, ih hx.1, ih' hx.2]
    rfl

theorem releases_handsOver {srcIp : Nat} {segs : List Mbuf} (h : HandsOver srcIp segs ev) :
    releases x ev = balance (mark x) segs := by
  induction h with
  | nil => rfl
  | @cons seg segs ev accepted _ ih =>
    rw [releases_append, releases_txEvents, ih, balance_cons]
    rfl

end Releases

/-! ## Segments -/

/-- One when the segment points to buffer `x`. -/
def segMark (x : Nat) (seg : JbSegment Mbuf) : Int := seg.mbuf.elim 0 (mark x)

/-- How many segments of a context point to buffer `x`. -/
def ctxStored (x : Nat) (ctx : JbWriteContext Mbuf) : Int := ∑ j, segMark x (ctx.segments.cell j)

/-- How many segments of the jitter buffer point to buffer `x`. -/
def stored (x : Nat) (jb : JitterBuffer Mbuf) : Int := ∑ i, ctxStored x (jb.writes i)

theorem segMark_nonneg (x : Nat) (seg : JbSegment Mbuf) : 0 ≤ segMark x seg := by
  unfold segMark
  cases seg.mbuf with
  | none => exact le_rfl
  | some m => exact mark_nonneg x m

theorem ctxStored_nonneg (x : Nat) (ctx : JbWriteContext Mbuf) : 0 ≤ ctxStored x ctx :=
  Finset.sum_nonneg fun _ _ => segMark_nonneg x _

theorem stored_nonneg (x : Nat) (jb : JitterBuffer Mbuf) : 0 ≤ stored x jb :=
  Finset.sum_nonneg fun _ _ => ctxStored_nonneg x _

theorem ctxStored_zero (x : Nat) : ctxStored x .zero = 0 := Finset.sum_eq_zero fun _ _ => rfl

theorem segCell_eq (ctx : JbWriteContext Mbuf) (j : Fin jbMaxSegments) :
    ctx.segments.cell j = ctx.segments.get j := by
  rw [Ring.get, Ring.slot, Fin.ofNat_val_eq_self]

/-- Only received segments point to a buffer. -/
def NoStray (ctx : JbWriteContext Mbuf) : Prop :=
  ∀ j, ¬ ctx.Received j → (ctx.segments.get j).mbuf = none

/-- Storing a segment into a slot that was not received adds its buffer. -/
theorem ctxStored_store {x psn : Nat} {ctx : JbWriteContext Mbuf} {ty : WriteSegmentType} {m : Mbuf}
    (hstray : NoStray ctx) (hmiss : ¬ ctx.Received (ctx.slotOf psn)) :
    ctxStored x (jbStoreSeg ctx psn ty m) = ctxStored x ctx + mark x m := by
  have hcell : ∀ j : Fin jbMaxSegments, segMark x ((jbStoreSeg ctx psn ty m).segments.cell j) =
      segMark x (Function.update ctx.segments.cell (Ring.slot jbMaxSegments (ctx.slotOf psn))
        ⟨psn, some m, .received, ty⟩ j) := by
    intro j
    by_cases hj : j = Ring.slot jbMaxSegments (ctx.slotOf psn)
    · subst hj
      rw [Function.update_self]
      exact congrArg (segMark x) (jbStoreSeg_get_slotOf ctx psn ty m)
    · have hne : (j : Nat) % jbMaxSegments ≠ ctx.slotOf psn := by
        intro heq
        refine hj (Fin.ext ?_)
        rw [← Nat.mod_eq_of_lt j.isLt, heq]
        exact (Nat.mod_eq_of_lt (ctx.slotOf_lt psn)).symm
      rw [Function.update_of_ne hj, segCell_eq, segCell_eq]
      rcases jbStoreSeg_get_of_ne ctx psn ty m hne with heq | ⟨-, heq⟩
      · rw [heq]
      · rw [heq]
        rfl
  have hsum := sum_update (segMark x) ctx.segments.cell
    (Ring.slot jbMaxSegments (ctx.slotOf psn)) ⟨psn, some m, .received, ty⟩
  have hold : segMark x (ctx.segments.cell (Ring.slot jbMaxSegments (ctx.slotOf psn))) = 0 := by
    have hnone := hstray _ hmiss
    rw [Ring.get] at hnone
    rw [segMark, hnone]
    rfl
  have hnew : segMark x ⟨psn, some m, .received, ty⟩ = mark x m := rfl
  rw [ctxStored, Finset.sum_congr rfl fun j _ => hcell j, ctxStored]
  omega

theorem noStray_store {psn : Nat} {ctx : JbWriteContext Mbuf} {ty : WriteSegmentType} {m : Mbuf}
    (hstray : NoStray ctx) : NoStray (jbStoreSeg ctx psn ty m) := by
  intro j hj
  have hne : j % jbMaxSegments ≠ ctx.slotOf psn := by
    intro heq
    apply hj
    rw [JbWriteContext.Received, ← Ring.get_mod, heq, jbStoreSeg_get_slotOf]
  rw [jbStoreSeg_received_of_ne ctx psn ty m hne] at hj
  rcases jbStoreSeg_get_of_ne ctx psn ty m hne with heq | ⟨-, heq⟩
  · rw [heq]
    exact hstray j hj
  · rw [heq]
    exact hstray j hj

theorem noStray_zero : NoStray .zero := fun _ _ => rfl

theorem stored_update {x : Nat} {jb jb' : JitterBuffer Mbuf} {i : Fin jbMaxPendingWrites}
    {ctx : JbWriteContext Mbuf} (hw : jb'.writes = Function.update jb.writes i ctx) :
    stored x jb' + ctxStored x (jb.writes i) = stored x jb + ctxStored x ctx := by
  rw [stored, hw]
  exact sum_update (ctxStored x) jb.writes i ctx

theorem noStray_update {jb jb' : JitterBuffer Mbuf} {i : Fin jbMaxPendingWrites}
    {ctx : JbWriteContext Mbuf} (hw : jb'.writes = Function.update jb.writes i ctx)
    (h : ∀ i, NoStray (jb.writes i)) (hctx : NoStray ctx) : ∀ i, NoStray (jb'.writes i) := by
  intro j
  rw [hw]
  by_cases hji : j = i
  · subst hji
    rwa [Function.update_self]
  · rw [Function.update_of_ne hji]
    exact h j

/-! ## One step -/

/-- What a WAN core satisfies between steps. -/
structure WanInv (s : ProcessorContext × Host) : Prop where
  rep : RepInv s.1.jitterBuffer
  stray : ∀ i, NoStray (s.1.jitterBuffer.writes i)
  windows : s.1.arqMgr = arqMgrInit

theorem wanInv_init (host : Host) (lcoreId : Nat) : WanInv (procInit host lcoreId false, host) :=
  ⟨repInv_jbInit, fun _ => noStray_zero, rfl⟩

/-- Replacing a context by one that points to the same buffers and to one more. -/
theorem stored_of_store {x psn : Nat} {jb jb' : JitterBuffer Mbuf} {i : Fin jbMaxPendingWrites}
    {ctx : JbWriteContext Mbuf} {ty : WriteSegmentType} {m : Mbuf}
    (hw : jb'.writes = Function.update jb.writes i (jbStoreSeg ctx psn ty m))
    (hsame : ctxStored x (jb.writes i) = ctxStored x ctx) (hstray : NoStray ctx)
    (hmiss : ¬ ctx.Received (ctx.slotOf psn)) : stored x jb' = stored x jb + mark x m := by
  have hsum := stored_update (x := x) hw
  rw [ctxStored_store hstray hmiss] at hsum
  omega

/-- `jb_add_seg` stores the buffer exactly when it answers `1`. -/
theorem WanInv.addSeg {s : ProcessorContext × Host} (h : WanInv s) {m : Mbuf}
    (hq : m.bthGetQpn ≠ 0) :
    RepInv (addSegOf s.1 s.2 m).2.1 ∧ (∀ i, NoStray ((addSegOf s.1 s.2 m).2.1.writes i)) ∧
      ∀ x, stored x (addSegOf s.1 s.2 m).2.1 =
        stored x s.1.jitterBuffer + if (addSegOf s.1 s.2 m).1 = 1 then mark x m else 0 := by
  refine ⟨h.rep.addSeg hq m.bthGetPsn_lt _ _ _, ?_⟩
  rw [addSegOf]
  cases jbAddSeg_outcome s.1.jitterBuffer m.bthGetQpn m.bthGetPsn (getSegmentType m.bthOpcode) m
      s.2.io with
  | full _ _ hr =>
    rw [hr]
    exact ⟨h.stray, fun x => by simp⟩
  | duplicate _ _ hr =>
    rw [hr]
    exact ⟨h.stray, fun x => by simp⟩
  | @stored i ctx hfind hctx hmiss hr =>
    subst hctx
    rw [hr]
    refine ⟨noStray_update rfl h.stray (noStray_store (h.stray i)), fun x => ?_⟩
    rw [if_pos rfl]
    exact stored_of_store rfl rfl (h.stray i) hmiss
  | @opened i hnone hfree hr =>
    rw [hr]
    have hold : s.1.jitterBuffer.writes i = .zero :=
      h.rep.free i fun hmem => mem_occupied.mp hmem hfree.1
    have hnew : NoStray (.opened m.bthGetQpn m.bthGetPsn) := fun _ _ => rfl
    refine ⟨noStray_update rfl h.stray (noStray_store hnew), fun x => ?_⟩
    rw [if_pos rfl]
    refine stored_of_store rfl ?_ hnew (opened_not_received _ _ _)
    rw [hold]
    rfl

/-- The arrival completes a WRITE: with it in the buffer, `jb_get_ordered_segs` has
segments to deliver. -/
def Completes (s : ProcessorContext × Host) (m : Mbuf) : Prop :=
  m.isRoceWrite ∧ 0 ≤ (addSegOf s.1 s.2 m).1 ∧
    jbIsWriteComplete (addSegOf s.1 s.2 m).2.1 m.bthGetQpn = true ∧
    (jbGetOrderedSegs (addSegOf s.1 s.2 m).2.1 m.bthGetQpn).1 = 0 ∧
    0 < (jbGetOrderedSegs (addSegOf s.1 s.2 m).2.1 m.bthGetQpn).2.length

/-- What a step does to the buffers: it releases the arrival or stores it. -/
structure Accounts (s s' : ProcessorContext × Host) (m : Mbuf) (ev : List (Event Mbuf)) :
    Prop where
  adds : Adds s.2 s'.2 ev
  rep : RepInv s'.1.jitterBuffer
  stray : ∀ i, NoStray (s'.1.jitterBuffer.writes i)
  arrives : ∀ x, stored x s'.1.jitterBuffer ≤ stored x s.1.jitterBuffer + mark x m
  balanced : ∀ x, x ∉ allocated ev →
    releases x ev + stored x s'.1.jitterBuffer = stored x s.1.jitterBuffer + mark x m

/-- A packet that is freed at once. -/
theorem accounts_freed {s s' : ProcessorContext × Host} (h : WanInv s) {m : Mbuf}
    (hjb : s'.1.jitterBuffer = s.1.jitterBuffer) (hadds : Adds s.2 s'.2 [.free m]) :
    Accounts s s' m [.free m] := by
  refine ⟨hadds, ?_, ?_, fun x => ?_, fun x _ => ?_⟩
  · rw [hjb]
    exact h.rep
  · rw [hjb]
    exact h.stray
  · have hmark := mark_nonneg x m
    rw [hjb]
    omega
  · rw [hjb, releases_free]
    omega

theorem wan_step_accounts {s : ProcessorContext × Host} (h : WanInv s) {m : Mbuf}
    (hq : m.isRoceWrite → m.bthGetQpn ≠ 0) (hno : ¬ Completes s m) :
    ∃ ev, Accounts s (wanStep s m) m ev := by
  cases wan_outcome s.1 m s.2 with
  | freed _ hjb hadds => exact ⟨_, accounts_freed h hjb (hadds h.windows)⟩
  | wrote hwrite hout =>
    obtain ⟨hrep, hstray, hstored⟩ := h.addSeg (hq hwrite)
    cases hout with
    | refused _ hjb hadds => exact ⟨_, accounts_freed h hjb hadds⟩
    | @taken proc₁ host₁ evAdd evNack hrc hjb hown hadds hdel =>
      have hrc' : 0 ≤ (addSegOf s.1 s.2 m).1 := by
        rcases hrc with ⟨hrc, -⟩ | ⟨hrc, -⟩
        · exact hrc.ge
        · rw [hrc]
          decide
      cases hdel with
      | delivers hcomplete hsegs hpos _ _ _ _ =>
        rw [hjb] at hcomplete hsegs
        exact absurd ⟨hwrite, hrc', hcomplete, by rw [hsegs], by rw [hsegs]; exact hpos⟩ hno
      | waits hsame _ =>
        refine ⟨evAdd ++ evNack, ?_, ?_, ?_, fun x => ?_, fun x hx => ?_⟩
        · rw [wanStep, hsame]
          exact hadds
        · rw [wanStep, hsame, hjb]
          exact hrep
        · rw [wanStep, hsame]
          dsimp only
          rw [hjb]
          exact hstray
        · have hmark := mark_nonneg x m
          have hst := hstored x
          rw [wanStep, hsame]
          dsimp only
          rw [hjb, hst]
          split <;> omega
        · rw [allocated_append, List.mem_append, not_or] at hx
          have hst := hstored x
          rw [wanStep, hsame, releases_append, releases_ownTraffic hown hx.2]
          dsimp only
          rw [hjb, hst]
          rcases hrc with ⟨hrc, rfl⟩ | ⟨hrc, rfl⟩
          · rw [releases_free, if_neg (by rw [hrc]; decide)]
            omega
          · rw [if_pos hrc]
            simp [releases]

theorem Accounts.wanInv {s : ProcessorContext × Host} {m : Mbuf} {ev : List (Event Mbuf)}
    (h : Accounts s (wanStep s m) m ev) (hinv : WanInv s) : WanInv (wanStep s m) :=
  ⟨h.rep, h.stray, procProcessWanRx_arqMgr_init hinv.windows m s.2⟩

/-! ## Runs -/

/-- A run in which no arrival completes a WRITE. -/
theorem wan_run_accounts {s : ProcessorContext × Host} (h : WanInv s) {xs : List Mbuf}
    (hq : ∀ m ∈ xs, m.isRoceWrite → m.bthGetQpn ≠ 0)
    (hmeet : StepsMeet wanStep (fun s m => ¬ Completes s m) s xs) :
    WanInv (run wanStep s xs) ∧ ∃ ev, Adds s.2 (run wanStep s xs).2 ev ∧
      (∀ x, stored x (run wanStep s xs).1.jitterBuffer ≤
        stored x s.1.jitterBuffer + balance (mark x) xs) ∧
      ∀ x, x ∉ allocated ev → releases x ev + stored x (run wanStep s xs).1.jitterBuffer =
        stored x s.1.jitterBuffer + balance (mark x) xs := by
  induction xs generalizing s with
  | nil => exact ⟨h, [], .refl s.2, fun x => by simp, fun x _ => by simp [releases]⟩
  | cons m xs ih =>
    obtain ⟨ev, hacc⟩ := wan_step_accounts h (hq m (by simp)) hmeet.1
    obtain ⟨hinv, ev', hadds', harr', hbal'⟩ :=
      ih (hacc.wanInv h) (fun m' hm' => hq m' (by simp [hm'])) hmeet.2
    refine ⟨hinv, ev ++ ev', hacc.adds.trans hadds', fun x => ?_, fun x hx => ?_⟩
    · have h₁ := hacc.arrives x
      have h₂ := harr' x
      rw [run_cons, balance_cons]
      omega
    · rw [allocated_append, List.mem_append, not_or] at hx
      have h₁ := hacc.balanced x hx.1
      have h₂ := hbal' x hx.2
      rw [run_cons, balance_cons, releases_append]
      omega

section Marks

variable {x : Nat} {ms : List Mbuf}

theorem balance_mark_nonneg (x : Nat) (ms : List Mbuf) : 0 ≤ balance (mark x) ms := by
  induction ms with
  | nil => exact le_rfl
  | cons m ms ih =>
    rw [balance_cons]
    exact Int.add_nonneg (mark_nonneg x m) ih

theorem one_le_balance_mark {m : Mbuf} (hm : m ∈ ms) : 1 ≤ balance (mark m.id) ms := by
  obtain ⟨before, after, rfl⟩ := List.append_of_mem hm
  have h₁ := balance_mark_nonneg m.id before
  have h₂ := balance_mark_nonneg m.id after
  have hself : mark m.id m = 1 := if_pos rfl
  rw [balance_append, balance_cons, hself]
  omega

theorem exists_of_balance_mark (h : 1 ≤ balance (mark x) ms) : ∃ m ∈ ms, m.id = x := by
  by_contra hno
  have hzero : balance (mark x) ms = 0 :=
    balance_eq_zero fun m hm => if_neg fun hid => hno ⟨m, hm, hid⟩
  omega

theorem balance_mark_of_nodup {m : Mbuf} (hnodup : (ms.map Mbuf.id).Nodup) (hm : m ∈ ms) :
    balance (mark m.id) ms = 1 := by
  obtain ⟨before, after, rfl⟩ := List.append_of_mem hm
  rw [List.map_append, List.map_cons] at hnodup
  have hdisj := List.nodup_append.mp hnodup
  have hself : mark m.id m = 1 := if_pos rfl
  have h₁ : balance (mark m.id) before = 0 := by
    refine balance_eq_zero fun m' hm' => if_neg fun hid => ?_
    exact hdisj.2.2 _ (List.mem_map_of_mem hm') _ List.mem_cons_self hid
  have h₂ : balance (mark m.id) after = 0 := by
    refine balance_eq_zero fun m' hm' => if_neg fun hid => ?_
    have hnot := (List.nodup_cons.mp hdisj.2.1).1
    rw [← hid] at hnot
    exact hnot (List.mem_map_of_mem hm')
  rw [balance_append, balance_cons, hself, h₁, h₂]
  rfl

end Marks

/-! ## The arrival that completes a WRITE -/

theorem orderedSegs_held {jb : JitterBuffer Mbuf} {qpn : Nat} {out : List Mbuf}
    (h : jbGetOrderedSegs jb qpn = (0, out)) {seg : Mbuf} (hseg : seg ∈ out) :
    seg ∈ heldOf jb qpn ∧ 1 ≤ stored seg.id jb := by
  obtain ⟨i, j, hfind, hj, hmbuf⟩ := jbGetOrderedSegs_subset (by rw [h]; exact hseg)
  have hctx : jb.ctxOf qpn = some (jb.writes i) := by simp [JitterBuffer.ctxOf, hfind]
  refine ⟨?_, ?_⟩
  · rw [heldOf, hctx]
    exact List.mem_filterMap.mpr ⟨j, List.mem_range.mpr hj, hmbuf⟩
  · have hone : segMark seg.id ((jb.writes i).segments.get j) = 1 := by
      rw [segMark, hmbuf]
      exact if_pos rfl
    have hle : segMark seg.id ((jb.writes i).segments.get j) ≤ ctxStored seg.id (jb.writes i) :=
      Finset.single_le_sum (f := fun j => segMark seg.id ((jb.writes i).segments.cell j))
        (fun _ _ => segMark_nonneg _ _) (Finset.mem_univ (Ring.slot jbMaxSegments j))
    have hle' : ctxStored seg.id (jb.writes i) ≤ stored seg.id jb :=
      Finset.single_le_sum (f := fun i => ctxStored seg.id (jb.writes i))
        (fun _ _ => ctxStored_nonneg _ _) (Finset.mem_univ i)
    omega

/-- A delivered segment is released by the hand-over and again by
`jb_remove_write`. -/
theorem wan_step_releases_twice {s : ProcessorContext × Host} (h : WanInv s) {m : Mbuf}
    (hq : m.bthGetQpn ≠ 0) (hcomplete : Completes s m) :
    ∃ x, 2 ≤ releases x (wanStep s m).2.io.trace ∧
      1 ≤ stored x s.1.jitterBuffer + mark x m := by
  obtain ⟨hwrite, hrc, hflag, hzero, hpos⟩ := hcomplete
  cases wan_outcome s.1 m s.2 with
  | freed hno _ _ => exact absurd hwrite hno
  | wrote _ hout =>
    cases hout with
    | refused hneg _ _ =>
      rw [hneg] at hrc
      cases hrc
    | @taken proc₁ host₁ evAdd evNack _ hjb _ hadds hdel =>
      cases hdel with
      | waits _ hno =>
        rw [hjb] at hno
        exact absurd ⟨hflag, hzero, hpos⟩ hno
      | @delivers out evHand evAck io _ hsegs hlen _ hhands _ hadds' =>
        obtain ⟨seg, hseg⟩ := List.exists_mem_of_length_pos hlen
        obtain ⟨hheld, hone⟩ := orderedSegs_held hsegs hseg
        refine ⟨seg.id, ?_, ?_⟩
        · have hall := (hadds.trans hadds').trace
          have h₁ := one_le_balance_mark hseg
          have h₂ := one_le_balance_mark hheld
          have h₃ := releases_nonneg seg.id s.2.io.trace
          have h₄ := releases_nonneg seg.id (evAdd ++ evNack)
          have h₅ := releases_nonneg seg.id evAck
          rw [wanStep, hall, releases_append, releases_append _ (evAdd ++ evNack),
            releases_append _ _ evAck, releases_append _ evHand, releases_handsOver hhands,
            releases_frees]
          omega
        · have hst := (h.addSeg hq).2.2 seg.id
          have hmark := mark_nonneg seg.id m
          rw [hjb] at hone
          split at hst <;> omega

/-! ## The account of a whole run -/

/-- Buffer `x` was released at most once, and once when no segment points to it. -/
def OwnedOnce (s : ProcessorContext × Host) (x : Nat) : Prop :=
  releases x s.2.io.trace ≤ 1 ∧
    (stored x s.1.jitterBuffer = 0 → releases x s.2.io.trace = 1)

/-- Every received buffer is accounted for after every step of a run exactly when
no arrival completes a WRITE. -/
theorem owned_once_iff (host : Host) (lcoreId : Nat) (xs : List Mbuf)
    (htrace : host.io.trace = []) (hnodup : (xs.map Mbuf.id).Nodup)
    (hq : ∀ m ∈ xs, m.isRoceWrite → m.bthGetQpn ≠ 0)
    (hpool : ∀ m ∈ xs,
      m.id ∉ allocated (run wanStep (procInit host lcoreId false, host) xs).2.io.trace) :
    (∀ p, p <+: xs → ∀ m ∈ p,
      OwnedOnce (run wanStep (procInit host lcoreId false, host) p) m.id) ↔
      StepsMeet wanStep (fun s m => ¬ Completes s m) (procInit host lcoreId false, host) xs := by
  have hinit := wanInv_init host lcoreId
  have hstart : ∀ x, stored x (procInit host lcoreId false).jitterBuffer = 0 :=
    fun x => Finset.sum_eq_zero fun _ _ => ctxStored_zero x
  generalize hs : (procInit host lcoreId false, host) = s at *
  have hempty : s.2.io.trace = [] := by rw [← hs]; exact htrace
  have hnone : ∀ x, stored x s.1.jitterBuffer = 0 := by rw [← hs]; exact hstart
  constructor
  · intro howned
    by_contra hmeet
    obtain ⟨p, m, q, rfl, hp, hcomplete⟩ := exists_first_of_not_stepsMeet hmeet
    rw [not_not] at hcomplete
    obtain ⟨hinv, ev, -, harr, -⟩ :=
      wan_run_accounts hinit (fun m' hm' => hq m' (by simp [hm'])) hp
    obtain ⟨x, htwice, hone⟩ := wan_step_releases_twice hinv (hq m (by simp) hcomplete.1) hcomplete
    have hx : 1 ≤ balance (mark x) (p ++ [m]) := by
      have harrx := harr x
      rw [hnone] at harrx
      simp only [balance_append, balance_cons, balance_nil]
      omega
    obtain ⟨m', hm', rfl⟩ := exists_of_balance_mark hx
    have hle := (howned (p ++ [m]) ⟨q, by simp⟩ m' hm').1
    rw [run_append, run_cons, run_nil] at hle
    omega
  · intro hmeet p hp m hm
    obtain ⟨q, rfl⟩ := hp
    obtain ⟨hmeetp, hmeetq⟩ := stepsMeet_append.mp hmeet
    have hqp : ∀ m ∈ p, m.isRoceWrite → m.bthGetQpn ≠ 0 := fun m' hm' => hq m' (by simp [hm'])
    have hqq : ∀ m ∈ q, m.isRoceWrite → m.bthGetQpn ≠ 0 := fun m' hm' => hq m' (by simp [hm'])
    obtain ⟨hinv, ev, hadds, -, hbal⟩ := wan_run_accounts hinit hqp hmeetp
    obtain ⟨-, ev', hadds', -⟩ := wan_run_accounts hinv hqq hmeetq
    have hfresh : m.id ∉ allocated ev := by
      have hall := hpool m (by simp [hm])
      rw [run_append, hadds'.trace, hadds.trace, hempty, List.nil_append, allocated_append,
        List.mem_append, not_or] at hall
      exact hall.1
    have honce : balance (mark m.id) p = 1 := by
      rw [List.map_append] at hnodup
      exact balance_mark_of_nodup (List.nodup_append.mp hnodup).1 hm
    have hsum := hbal m.id hfresh
    have hst := stored_nonneg m.id (run wanStep s p).1.jitterBuffer
    rw [hnone, honce] at hsum
    rw [OwnedOnce, hadds.trace, hempty, List.nil_append]
    exact ⟨by omega, fun hzero => by omega⟩

/-- A WRITE whose FIRST and MIDDLE arrive: both buffers are stored, none released. -/
theorem owned_once_iff_open :
    releases 1 (run wanStep (procInit .unloaded 1 false, .unloaded)
      [writeFrame 1 roceOpcodeWriteFirst 7 0, writeFrame 2 roceOpcodeWriteMiddle 7 1]).2.io.trace =
        0 ∧
    ∀ p, p <+: [writeFrame 1 roceOpcodeWriteFirst 7 0, writeFrame 2 roceOpcodeWriteMiddle 7 1] →
      ∀ m ∈ p, OwnedOnce (run wanStep (procInit .unloaded 1 false, .unloaded) p) m.id := by
  refine ⟨by decide +kernel, (owned_once_iff .unloaded 1 _ rfl (by decide +kernel) (by decide +kernel)
    (by decide +kernel)).mpr ⟨fun h => absurd h.2.2.1 (by decide +kernel),
      fun h => absurd h.2.2.1 (by decide +kernel), trivial⟩⟩

/-- An ONLY packet is transmitted and then freed. -/
theorem only_packet_released_twice :
    (writeFrame 1 roceOpcodeWriteOnly 7 0).bthGetQpn ≠ 0 ∧
    releases 1 (wanStep (procInit .unloaded 1 false, .unloaded)
      (writeFrame 1 roceOpcodeWriteOnly 7 0)).2.io.trace = 2 ∧
    ¬ OwnedOnce (run wanStep (procInit .unloaded 1 false, .unloaded)
      [writeFrame 1 roceOpcodeWriteOnly 7 0]) 1 := by
  have htwo : releases 1 (wanStep (procInit .unloaded 1 false, .unloaded)
      (writeFrame 1 roceOpcodeWriteOnly 7 0)).2.io.trace = 2 := by
    decide +kernel
  refine ⟨by decide +kernel, htwo, fun h => ?_⟩
  have hle := h.1
  rw [run_cons, run_nil, htwo] at hle
  exact absurd hle (by decide)

end RdmaGateway.Processor
