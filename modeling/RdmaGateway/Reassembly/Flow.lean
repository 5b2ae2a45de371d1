/-
  Reassembly/Flow.lean --- the reassembler of one flow.

  All that a QPN sees of the jitter buffer is the context found for it, so one
  arrival is a function on that context: `accept` stores the segment, `release`
  is the test for a complete WRITE that follows every arrival and wipes the
  context when it succeeds.  `jbAddSeg_accept` and `jbGetOrderedSegs_release` say
  that the table of contexts computes exactly this function.

  The second half reads a flow against the stream its packets were drawn from.
  A context opened by the packet at position `s` collects the rest of the message
  that position lies in (`CollectsAt`), as long as every packet that falls in an
  open slot of that rest belongs to it (`Fits`).
-/
import RdmaGateway.Reassembly.Buffer

set_option autoImplicit false

namespace RdmaGateway.Reassembly

open RdmaGateway.Foundation
open RdmaGateway.Dpdk
open RdmaGateway.Roce

variable {μ : Type}

/-- The context of a flow after an arrival. -/
def accept (found : Option (JbWriteContext μ)) (qpn psn : Nat) (ty : WriteSegmentType) (m : μ) :
    JbWriteContext μ :=
  match found with
  | none => jbStoreSeg (.opened qpn psn) psn ty m
  | some ctx =>
    if ctx.Received (ctx.slotOf psn) then ctx else jbStoreSeg ctx psn ty m

theorem accept_some (ctx : JbWriteContext μ) (qpn psn : Nat) (ty : WriteSegmentType) (m : μ) :
    accept (some ctx) qpn psn ty m =
      if ctx.Received (ctx.slotOf psn) then ctx else jbStoreSeg ctx psn ty m := rfl

/-- The test for a complete WRITE: what is delivered, and the context left. -/
def release (ctx : JbWriteContext μ) : Option (JbWriteContext μ) × List μ :=
  if ctx.writeComplete then
    match jbScan ctx.segments jbMaxSegments 0 with
    | some (m :: out) => (none, m :: out)
    | _ => (some ctx, [])
  else (some ctx, [])

section Table

variable {jb : JitterBuffer μ} {qpn psn : Nat} {ty : WriteSegmentType} {m : μ} {io : Io μ}

variable (psn ty m io) in
/-- `jb_add_seg` computes `accept`, unless it finds no slot for a new context. -/
theorem jbAddSeg_accept (hroom : jb.ctxOf qpn = none → jb.HasFreeSlot) :
    0 ≤ (jbAddSeg jb qpn psn ty m io).1 ∧
      (jbAddSeg jb qpn psn ty m io).2.1.ctxOf qpn = some (accept (jb.ctxOf qpn) qpn psn ty m) := by
  cases hfound : jb.ctxOf qpn with
  | none =>
    obtain ⟨i, _, hrc, _, hw⟩ := jbAddSeg_open psn ty m io hfound (hroom hfound)
    refine ⟨by rw [hrc]; decide, ?_⟩
    exact ctxOf_update_fresh hw (ctxOf_eq_none.mp hfound) rfl
  | some ctx =>
    by_cases hdup : ctx.Received (ctx.slotOf psn)
    · rw [jbAddSeg_duplicate hfound hdup]
      exact ⟨le_rfl, by simp [accept, hdup, hfound]⟩
    · obtain ⟨i, hfind, hadd⟩ := jbAddSeg_store psn ty m io hfound hdup
      rw [hadd]
      refine ⟨Int.one_nonneg, ?_⟩
      rw [ctxOf_update_self rfl hfind ((jbStoreSeg_qpn _ _ _ _).trans (ctxOf_qpn hfound))]
      simp [accept, hdup]

/-- The two queries that follow an arrival compute `release`. -/
theorem jbGetOrderedSegs_release {ctx : JbWriteContext μ} (hfound : jb.ctxOf qpn = some ctx) :
    (jbIsWriteComplete jb qpn = true ∧ (jbGetOrderedSegs jb qpn).1 = 0 ∧
        0 < (jbGetOrderedSegs jb qpn).2.length ∧
        release ctx = (none, (jbGetOrderedSegs jb qpn).2)) ∨
      (¬ (jbIsWriteComplete jb qpn = true ∧ (jbGetOrderedSegs jb qpn).1 = 0 ∧
          0 < (jbGetOrderedSegs jb qpn).2.length) ∧ release ctx = (some ctx, [])) := by
  have hflag : jbIsWriteComplete jb qpn = ctx.writeComplete := by
    rw [jbIsWriteComplete_eq, hfound]
    rfl
  rw [hflag]
  cases hcomplete : ctx.writeComplete with
  | false => exact Or.inr ⟨by simp, by simp [release, hcomplete]⟩
  | true =>
    cases hscan : jbScan ctx.segments jbMaxSegments 0 with
    | none =>
      rw [jbGetOrderedSegs_of_scan_none hfound hscan]
      exact Or.inr ⟨by simp, by simp [release, hcomplete, hscan]⟩
    | some out =>
      rw [jbGetOrderedSegs_of_scan hfound hscan]
      cases out with
      | nil => exact Or.inr ⟨by simp, by simp [release, hcomplete, hscan]⟩
      | cons m out => exact Or.inl ⟨rfl, rfl, by simp, by simp [release, hcomplete, hscan]⟩

end Table

/-! ## A flow against its sender stream

The buffers of the flow are copies of the packets of a sender stream; `pos` gives
the stream position of a buffer. -/

section Stream

variable {st : SenderStream} {pos : μ → Nat} {ctx : JbWriteContext μ} {qpn s n : Nat} {m : μ}

/-- The context collects the `n` positions from `s` to the end of a message. -/
def CollectsAt (st : SenderStream) (pos : μ → Nat) (ctx : JbWriteContext μ) (s n : Nat) : Prop :=
  st.Tail s n ∧
    Assembling ctx (st.psn s) n (fun i => st.segType (s + i)) fun i m => pos m = s + i

/-- A packet that falls in an open slot of the rest of the message that opened
the context belongs to that rest. -/
def Fits (st : SenderStream) (pos : μ → Nat) (ctx : JbWriteContext μ) (m : μ) : Prop :=
  ∀ opener n, (ctx.segments.get 0).mbuf = some opener → st.Tail (pos opener) n →
    ¬ ctx.Received (ctx.slotOf (st.psn (pos m))) → ctx.slotOf (st.psn (pos m)) < n →
    pos opener ≤ pos m ∧ pos m < pos opener + n

/-- A segment of the collected message falls in the slot of its offset. -/
theorem Assembling.slotOf_psnAdd {ctx : JbWriteContext μ} {first n : Nat}
    {ty : Nat → WriteSegmentType} {P : Nat → μ → Prop} (h : Assembling ctx first n ty P) {i : Nat}
    (hi : i < jbMaxSegments) : ctx.slotOf (psnAdd first i) = i := by
  have hmax : jbMaxSegments < maxPsn := by decide
  rw [JbWriteContext.slotOf, h.firstPsn_eq, psnForwardDist_psnAdd first (by omega),
    Nat.mod_eq_of_lt hi]

theorem CollectsAt.le_max (h : CollectsAt st pos ctx s n) : n ≤ jbMaxSegments := h.2.ends.2.1

/-- The PSN of an offset into the collected message. -/
theorem SenderStream_psn_add (st : SenderStream) (s j : Nat) :
    st.psn (s + j) = psnAdd (st.psn s) j := by
  rw [SenderStream.psn, SenderStream.psn, psnAdd_psnAdd]

/-- The buffer that opened a collecting context. -/
theorem CollectsAt.opener (h : CollectsAt st pos ctx s n) :
    ∃ m, (ctx.segments.get 0).mbuf = some m ∧ pos m = s := by
  obtain ⟨m, hget, hpos⟩ := h.2.seg 0 h.1.1 h.2.opener
  exact ⟨m, by rw [hget], by simpa using hpos⟩

/-- A new context collects from the position of the packet that opens it. -/
theorem collectsAt_accept_none (htail : st.Tail (pos m) n) (hmax : n ≤ jbMaxSegments) :
    CollectsAt st pos (accept none qpn (st.psn (pos m)) (st.segType (pos m)) m) (pos m) n :=
  ⟨htail, assembling_opened (psnAdd_lt _ _) ⟨htail.1, hmax, fun _ hi => htail.isFinal hi⟩ rfl⟩

/-- A fitting packet in an open slot below `n` is the packet of that offset. -/
theorem CollectsAt.pos_of_fits (h : CollectsAt st pos ctx s n) (hfits : Fits st pos ctx m)
    (hopen : ¬ ctx.Received (ctx.slotOf (st.psn (pos m))))
    (hlt : ctx.slotOf (st.psn (pos m)) < n) : pos m = s + ctx.slotOf (st.psn (pos m)) := by
  have hmax := h.le_max
  obtain ⟨opener, hopener, rfl⟩ := h.opener
  obtain ⟨hle, hend⟩ := hfits opener n hopener h.1 hopen hlt
  obtain ⟨j, hj⟩ : ∃ j, pos m = pos opener + j := ⟨pos m - pos opener, by omega⟩
  have hslot : ctx.slotOf (st.psn (pos m)) = j := by
    rw [hj, SenderStream_psn_add]
    exact h.2.slotOf_psnAdd (by omega)
  rw [hslot, hj]

/-- A fitting packet keeps the context to its message. -/
theorem CollectsAt.accept (h : CollectsAt st pos ctx s n) (hfits : Fits st pos ctx m) :
    CollectsAt st pos (accept (some ctx) qpn (st.psn (pos m)) (st.segType (pos m)) m) s n := by
  rw [accept_some]
  split
  · exact h
  · rename_i hopen
    refine ⟨h.1, h.2.store hopen fun hlt => ?_⟩
    have hpos := h.pos_of_fits hfits hopen hlt
    refine ⟨?_, ?_, hpos⟩
    · rw [← SenderStream_psn_add, ← hpos]
    · rw [← hpos]

/-- The slots received after a fitting packet: those before, and its own. -/
theorem CollectsAt.received_accept (h : CollectsAt st pos ctx s n) {i : Nat} (hi : i < n)
    (hrec : (Reassembly.accept (some ctx) qpn (st.psn (pos m)) (st.segType (pos m)) m).Received i)
    (hmiss : ¬ ctx.Received i) :
    ctx.slotOf (st.psn (pos m)) = i ∧ ¬ ctx.Received (ctx.slotOf (st.psn (pos m))) := by
  have hmax := h.le_max
  rw [accept_some] at hrec
  split at hrec
  · exact absurd hrec hmiss
  · rename_i hopen
    refine ⟨?_, hopen⟩
    by_contra hne
    rw [jbStoreSeg_received_of_ne _ _ _ _ (by rw [Nat.mod_eq_of_lt (by omega)]; exact Ne.symm hne)]
      at hrec
    exact hmiss hrec

/-- A context that lacks a segment of its message delivers nothing. -/
theorem CollectsAt.release_of_missing (h : CollectsAt st pos ctx s n)
    (hmiss : ∃ i < n, ¬ ctx.Received i) : release ctx = (some ctx, []) := by
  simp only [release, h.2.scan_of_missing hmiss]
  split <;> rfl

/-- What a complete scan of a collecting context delivers: the positions it
collects, in order. -/
theorem CollectsAt.scan_eq {out : List μ} (h : CollectsAt st pos ctx s n)
    (hscan : jbScan ctx.segments jbMaxSegments 0 = some out) :
    (∀ i < n, ctx.Received i) ∧ out.map pos = List.range' s n := by
  have hall : ∀ i < n, ctx.Received i := by
    by_contra hmiss
    push Not at hmiss
    rw [h.2.scan_of_missing hmiss] at hscan
    cases hscan
  refine ⟨hall, ?_⟩
  obtain ⟨out', hscan', hout⟩ := h.2.scan_of_all hall
  rw [hscan] at hscan'
  cases hscan'
  obtain ⟨hlen, hP⟩ := h.2.out_property hall hout
  refine List.ext_getElem? fun i => ?_
  by_cases hi : i < n
  · obtain ⟨m, hget⟩ : ∃ m, out[i]? = some m := ⟨_, List.getElem?_eq_getElem (by omega)⟩
    have hpos := hP i m hget
    simp [hi, hget, hpos]
  · rw [List.getElem?_eq_none (by simp; omega), List.getElem?_eq_none (by simp; omega)]

/-- A context that has every segment of its message delivers it and is wiped. -/
theorem CollectsAt.release_of_all (h : CollectsAt st pos ctx s n)
    (hall : ∀ i < n, ctx.Received i) :
    ∃ out, release ctx = (none, out) ∧ out.map pos = List.range' s n := by
  obtain ⟨out, hscan, -⟩ := h.2.scan_of_all hall
  obtain ⟨-, hpos⟩ := h.scan_eq hscan
  have hn := h.1.1
  cases out with
  | nil =>
    have hlen := congrArg List.length hpos
    simp at hlen
    omega
  | cons m out =>
    refine ⟨m :: out, ?_, hpos⟩
    simp [release, h.2.flag (hall (n - 1) (by omega)), hscan]

/-- A new context has received the slot it was opened at. -/
theorem received_accept_none_iff {psn i : Nat} {ty : WriteSegmentType} (hi : i < jbMaxSegments) :
    (Reassembly.accept none qpn psn ty m).Received i ↔ i = 0 := by
  have hslot : (JbWriteContext.opened qpn psn : JbWriteContext μ).slotOf psn = 0 := slotOf_self
  have hself := jbStoreSeg_get_slotOf (.opened qpn psn) psn ty m
  rw [hslot] at hself
  constructor
  · intro hrec
    by_contra hne
    rw [Reassembly.accept, jbStoreSeg_received_of_ne _ _ _ _
      (by rw [hslot, Nat.mod_eq_of_lt hi]; exact hne)] at hrec
    exact opened_not_received qpn psn i hrec
  · rintro rfl
    rw [Reassembly.accept, JbWriteContext.Received, hself]

/-- A packet of the collected part fills its own slot and no other. -/
theorem CollectsAt.received_accept_iff (h : CollectsAt st pos ctx s n) {i j : Nat} (hi : i < n)
    (hj : j < n) (hpos : pos m = s + j) :
    (Reassembly.accept (some ctx) qpn (st.psn (pos m)) (st.segType (pos m)) m).Received i ↔
      ctx.Received i ∨ i = j := by
  have hmax := h.le_max
  have hslot : ctx.slotOf (st.psn (pos m)) = j := by
    rw [hpos, SenderStream_psn_add]
    exact h.2.slotOf_psnAdd (by omega)
  rw [accept_some]
  split
  · rename_i hdup
    rw [hslot] at hdup
    refine ⟨Or.inl, ?_⟩
    rintro (hrec | rfl)
    · exact hrec
    · exact hdup
  · have hself := jbStoreSeg_get_slotOf ctx (st.psn (pos m)) (st.segType (pos m)) m
    rw [hslot] at hself
    by_cases hij : i = j
    · subst hij
      simp only [or_true, iff_true]
      rw [JbWriteContext.Received, hself]
    · rw [jbStoreSeg_received_of_ne _ _ _ _
        (by rw [hslot, Nat.mod_eq_of_lt (by omega)]; exact hij)]
      simp [hij]

/-- After an arrival a collecting context still lacks a segment, or delivers the
positions it collects. -/
theorem CollectsAt.release_cases (h : CollectsAt st pos ctx s n) :
    ((∃ i < n, ¬ ctx.Received i) ∧ release ctx = (some ctx, [])) ∨
      ((∀ i < n, ctx.Received i) ∧
        ∃ out, release ctx = (none, out) ∧ out.map pos = List.range' s n) := by
  by_cases hall : ∀ i < n, ctx.Received i
  · exact Or.inr ⟨hall, h.release_of_all hall⟩
  · push Not at hall
    exact Or.inl ⟨hall, h.release_of_missing hall⟩

/-- The packet that completes a collecting context is one of those it delivers. -/
theorem CollectsAt.completed_by (h : CollectsAt st pos ctx s n)
    (hmiss : ∃ i < n, ¬ ctx.Received i) (hfits : Fits st pos ctx m)
    (hall : ∀ i < n,
      (Reassembly.accept (some ctx) qpn (st.psn (pos m)) (st.segType (pos m)) m).Received i) :
    s ≤ pos m ∧ pos m < s + n := by
  obtain ⟨i, hi, hnot⟩ := hmiss
  obtain ⟨hslot, hopen⟩ := h.received_accept hi (hall i hi) hnot
  have hpos := h.pos_of_fits hfits hopen (by rw [hslot]; exact hi)
  rw [hslot] at hpos
  omega

end Stream

end RdmaGateway.Reassembly
