/-
  Arq/Contexts.lean --- which slot of the manager belongs to which queue pair.

  `arq_find` compares the `qpn` field of a slot, and `arq_get_or_create` takes a
  slot whose `qpn` is 0 for an unused one.  The field is key and free marker at
  once, and 0 is a queue pair number the 24-bit header field can carry: a call
  for QPN 0 finds the first unused slot, which stays unused and goes to the next
  queue pair that needs one.  `contexts_stable` says that nothing else takes a
  context away from its queue pair.
-/
import RdmaGateway.Foundation.Run
import RdmaGateway.Arq.Slots

set_option autoImplicit false

namespace RdmaGateway.Arq

open RdmaGateway.Foundation
open RdmaGateway.Dpdk
open RdmaGateway.Roce

variable {μ : Type}

/-! ## What `arq_get_or_create` can do -/

/-- The three outcomes of `arq_get_or_create`. -/
inductive Obtains (mgr : ArqManager μ) (qpn : Nat) :
    Option (Fin maxQpCtx) → ArqManager μ → Prop where
  | found {i : Fin maxQpCtx} (hfind : arqFind mgr qpn = some i)
      (hqpn : (mgr.contexts i).qpn = qpn) : Obtains mgr qpn (some i) mgr
  | created {i : Fin maxQpCtx} (hnone : ∀ j, (mgr.contexts j).qpn ≠ qpn)
      (hunused : (mgr.contexts i).qpn = 0) :
      Obtains mgr qpn (some i) (mgr.setContext i (.fresh qpn))
  | full (hnone : ∀ j, (mgr.contexts j).qpn ≠ qpn) (hused : ∀ j, (mgr.contexts j).qpn ≠ 0) :
      Obtains mgr qpn none mgr

theorem arqFind_some {mgr : ArqManager μ} {qpn : Nat} {i : Fin maxQpCtx}
    (h : arqFind mgr qpn = some i) : (mgr.contexts i).qpn = qpn := by
  simpa using Table.findSlot_some h

theorem arqFind_none {mgr : ArqManager μ} {qpn : Nat} (h : arqFind mgr qpn = none) :
    ∀ j, (mgr.contexts j).qpn ≠ qpn := by
  intro j
  simpa using Table.findSlot_eq_none.mp h j

theorem arqGetOrCreate_obtains (mgr : ArqManager μ) (qpn : Nat) :
    Obtains mgr qpn (arqGetOrCreate mgr qpn).1 (arqGetOrCreate mgr qpn).2 := by
  unfold arqGetOrCreate
  split
  · rename_i i hfind
    exact .found hfind (arqFind_some hfind)
  · rename_i hnone
    split
    · rename_i i hfree
      exact .created (arqFind_none hnone) (by simpa using Table.findSlot_some hfree)
    · rename_i hfull
      exact .full (arqFind_none hnone) fun j => by simpa using Table.findSlot_eq_none.mp hfull j

/-- A queue pair number that only slot `i` carries is found there. -/
theorem arqFind_of_unique {mgr : ArqManager μ} {qpn : Nat} {i : Fin maxQpCtx}
    (hi : (mgr.contexts i).qpn = qpn) (huniq : ∀ j, (mgr.contexts j).qpn = qpn → j = i) :
    arqFind mgr qpn = some i :=
  Table.findSlot_eq_some_of_unique (by simpa using hi) fun j hj => huniq j (by simpa using hj)

theorem arqSendPkt_qpn (arq : ArqContext μ) (m : μ) (psn : Nat) (ty : WriteSegmentType)
    (io : Io μ) : (arqSendPkt arq m psn ty io).2.1.qpn = arq.qpn := by
  cases h : (arq.entry arq.sendNext).inFlight with
  | true => rw [arqSendPkt_rejected h]
  | false =>
    rw [arqSendPkt_accepted h]
    rfl

/-! ## Runs of calls on one manager -/

/-- The calls.  `sendPkt` and `handleAck` are made for a queue pair, on a context
that an earlier call handed out for it. -/
inductive ManagerOp (μ : Type) where
  | getOrCreate (qpn : Nat)
  | lookup (qpn : Nat)
  | sendPkt (qpn : Nat) (i : Fin maxQpCtx) (m : μ) (psn : Nat) (segmentType : WriteSegmentType)
  | handleAck (qpn : Nat) (i : Fin maxQpCtx) (ackPsn : Nat)

/-- The queue pair a call is for. -/
def ManagerOp.qpn : ManagerOp μ → Nat
  | .getOrCreate qpn => qpn
  | .lookup qpn => qpn
  | .sendPkt qpn _ _ _ _ => qpn
  | .handleAck qpn _ _ => qpn

/-- The manager in the course of a run, with the contexts handed out so far and
the queue pairs they were handed out for. -/
structure ManagerRun (μ : Type) where
  mgr : ArqManager μ
  io : Io μ
  given : List (Nat × Fin maxQpCtx)

/-- After `arq_mgr_init`. -/
def ManagerRun.start (io : Io μ) : ManagerRun μ := ⟨arqMgrInit, io, []⟩

/-- The context is handed out for the queue pair. -/
def ManagerRun.give (s : ManagerRun μ) (qpn : Nat) (i : Option (Fin maxQpCtx)) :
    List (Nat × Fin maxQpCtx) :=
  s.given ++ i.toList.map fun i => (qpn, i)

/-- One call.  A call on a context that was not handed out for its queue pair is
not one the program can make, and does nothing here. -/
def managerStep (s : ManagerRun μ) : ManagerOp μ → ManagerRun μ
  | .getOrCreate qpn =>
    let (i, mgr) := arqGetOrCreate s.mgr qpn
    ⟨mgr, s.io, s.give qpn i⟩
  | .lookup qpn => ⟨s.mgr, s.io, s.give qpn (arqLookup s.mgr qpn)⟩
  | .sendPkt qpn i m psn ty =>
    if (qpn, i) ∈ s.given then
      let (_, arq, io) := arqSendPkt (s.mgr.contexts i) m psn ty s.io
      ⟨s.mgr.setContext i arq, io, s.given⟩
    else s
  | .handleAck qpn i ackPsn =>
    if (qpn, i) ∈ s.given then
      let (arq, io) := arqHandleAck (s.mgr.contexts i) ackPsn s.io
      ⟨s.mgr.setContext i arq, io, s.given⟩
    else s

/-- Contexts are stable: a queue pair that was handed a context gets that context
again, no other queue pair was handed it, and no call for another queue pair
changes it. -/
structure ContextsStable (s : ManagerRun μ) : Prop where
  again : ∀ qpn i, (qpn, i) ∈ s.given →
    (arqGetOrCreate s.mgr qpn).1 = some i ∧ arqLookup s.mgr qpn = some i
  apart : ∀ qpn qpn' i, (qpn, i) ∈ s.given → (qpn', i) ∈ s.given → qpn = qpn'
  untouched : ∀ qpn i, (qpn, i) ∈ s.given → ∀ op : ManagerOp μ, op.qpn ≠ qpn →
    (managerStep s op).mgr.contexts i = s.mgr.contexts i

/-- A lookup for QPN 0 does not meet an unused slot. -/
def ZeroFindsNoUnused (s : ManagerRun μ) : ManagerOp μ → Prop
  | .getOrCreate qpn => qpn = 0 → ∀ i, (s.mgr.contexts i).qpn ≠ 0
  | .lookup qpn => qpn = 0 → ∀ i, (s.mgr.contexts i).qpn ≠ 0
  | _ => True

/-- A context handed out carries the number of its queue pair, and no two used
slots carry the same number. -/
structure Keyed (s : ManagerRun μ) : Prop where
  given : ∀ qpn i, (qpn, i) ∈ s.given → qpn ≠ 0 ∧ (s.mgr.contexts i).qpn = qpn
  unique : ∀ i j, (s.mgr.contexts i).qpn ≠ 0 → (s.mgr.contexts i).qpn = (s.mgr.contexts j).qpn →
    i = j

theorem keyed_start (io : Io μ) : Keyed (ManagerRun.start io) where
  given := fun _ _ h => absurd h List.not_mem_nil
  unique := fun _ _ h _ => absurd rfl h

theorem mem_give {s : ManagerRun μ} {qpn qpn' : Nat} {i : Fin maxQpCtx}
    {o : Option (Fin maxQpCtx)} :
    (qpn', i) ∈ s.give qpn o ↔ (qpn', i) ∈ s.given ∨ qpn' = qpn ∧ o = some i := by
  cases o <;> simp [ManagerRun.give, eq_comm]

/-- A step that keeps the QPN of every slot, and hands out only what carries its
number, keeps the slots keyed. -/
theorem Keyed.of_qpn {s t : ManagerRun μ} (h : Keyed s)
    (hqpn : ∀ i, (t.mgr.contexts i).qpn = (s.mgr.contexts i).qpn)
    (hgiven : ∀ qpn i, (qpn, i) ∈ t.given →
      (qpn, i) ∈ s.given ∨ qpn ≠ 0 ∧ (s.mgr.contexts i).qpn = qpn) : Keyed t := by
  refine ⟨fun qpn i hi => ?_, fun i j => ?_⟩
  · rw [hqpn]
    rcases hgiven qpn i hi with hi | hi
    · exact h.given qpn i hi
    · exact hi
  · rw [hqpn, hqpn]
    exact h.unique i j

/-- A new context for a nonzero QPN that no slot carries keeps the slots keyed. -/
theorem Keyed.create {s : ManagerRun μ} (h : Keyed s) {qpn : Nat} {i : Fin maxQpCtx}
    (hq : qpn ≠ 0) (hnone : ∀ j, (s.mgr.contexts j).qpn ≠ qpn)
    (hunused : (s.mgr.contexts i).qpn = 0) :
    Keyed ⟨s.mgr.setContext i (.fresh qpn), s.io, s.give qpn (some i)⟩ := by
  have hself : ((s.mgr.setContext i (.fresh qpn)).contexts i).qpn = qpn := by
    rw [setContext_contexts_self]
    rfl
  have hother : ∀ j, j ≠ i → (s.mgr.setContext i (.fresh qpn)).contexts j = s.mgr.contexts j :=
    fun j hj => setContext_contexts_of_ne _ _ hj
  refine ⟨fun qpn' j hj => ?_, fun j k hj hjk => ?_⟩
  · rcases mem_give.mp hj with hj | ⟨rfl, hsome⟩
    · -- what was handed out before is used, so it is not the slot taken now
      obtain ⟨hq', hqpn'⟩ := h.given qpn' j hj
      have hji : j ≠ i := fun heq => hq' (by rw [← hqpn', heq, hunused])
      exact ⟨hq', by rw [hother j hji, hqpn']⟩
    · cases hsome
      exact ⟨hq, hself⟩
  · simp only at hj hjk
    by_cases hji : j = i
    · subst hji
      by_contra hne
      rw [hself, hother k (Ne.symm hne)] at hjk
      exact hnone k hjk.symm
    · by_cases hki : k = i
      · subst hki
        rw [hself, hother j hji] at hjk
        exact absurd hjk (hnone j)
      · rw [hother j hji] at hj
        rw [hother j hji, hother k hki] at hjk
        exact h.unique j k hj hjk

theorem Keyed.step {s : ManagerRun μ} {op : ManagerOp μ} (h : Keyed s)
    (hzero : ZeroFindsNoUnused s op) : Keyed (managerStep s op) := by
  cases op with
  | getOrCreate qpn =>
    have hobtains := arqGetOrCreate_obtains s.mgr qpn
    simp only [managerStep]
    generalize arqGetOrCreate s.mgr qpn = r at hobtains ⊢
    obtain ⟨o, mgr⟩ := r
    cases hobtains with
    | found hfind hqpn =>
      refine h.of_qpn (fun _ => rfl) fun qpn' i hi => ?_
      rcases mem_give.mp hi with hi | ⟨rfl, hsome⟩
      · exact Or.inl hi
      · cases hsome
        exact Or.inr ⟨fun hq => hzero hq _ (hqpn.trans hq), hqpn⟩
    | created hnone hunused =>
      exact h.create (fun hq => hzero hq _ hunused) hnone hunused
    | full hnone hused =>
      refine h.of_qpn (fun _ => rfl) fun qpn' i hi => Or.inl ?_
      simpa [mem_give] using hi
  | lookup qpn =>
    refine h.of_qpn (fun _ => rfl) fun qpn' i hi => ?_
    rcases mem_give.mp hi with hi | ⟨rfl, hsome⟩
    · exact Or.inl hi
    · have hqpn := arqFind_some hsome
      exact Or.inr ⟨fun hq => hzero hq i (hqpn.trans hq), hqpn⟩
  | sendPkt qpn i m psn ty =>
    simp only [managerStep]
    split
    · refine h.of_qpn (fun j => ?_) fun _ _ => Or.inl
      by_cases hj : j = i
      · subst hj
        rw [setContext_contexts_self, arqSendPkt_qpn]
      · rw [setContext_contexts_of_ne _ _ hj]
    · exact h
  | handleAck qpn i ackPsn =>
    simp only [managerStep]
    split
    · refine h.of_qpn (fun j => ?_) fun _ _ => Or.inl
      by_cases hj : j = i
      · subst hj
        rw [setContext_contexts_self, arqHandleAck_qpn]
      · rw [setContext_contexts_of_ne _ _ hj]
    · exact h

/-- A context handed out is found again under its QPN. -/
theorem Keyed.find {s : ManagerRun μ} (h : Keyed s) {qpn : Nat} {i : Fin maxQpCtx}
    (hi : (qpn, i) ∈ s.given) : arqFind s.mgr qpn = some i := by
  obtain ⟨hq, hqpn⟩ := h.given qpn i hi
  refine arqFind_of_unique hqpn fun j hj => h.unique j i ?_ ?_
  · rwa [hj]
  · rw [hj, hqpn]

/-- A call for another queue pair writes another slot, or none. -/
theorem Keyed.untouched {s : ManagerRun μ} (h : Keyed s) {qpn : Nat} {i : Fin maxQpCtx}
    (hi : (qpn, i) ∈ s.given) {op : ManagerOp μ} (hop : op.qpn ≠ qpn) :
    (managerStep s op).mgr.contexts i = s.mgr.contexts i := by
  obtain ⟨hq, hqpn⟩ := h.given qpn i hi
  cases op with
  | getOrCreate qpn' =>
    have hobtains := arqGetOrCreate_obtains s.mgr qpn'
    simp only [managerStep]
    generalize arqGetOrCreate s.mgr qpn' = r at hobtains ⊢
    obtain ⟨o, mgr⟩ := r
    cases hobtains with
    | found hfind hqpn' => rfl
    | created hnone hunused =>
      refine setContext_contexts_of_ne _ _ fun heq => hq ?_
      rw [← hqpn, heq, hunused]
    | full hnone hused => rfl
  | lookup qpn' => rfl
  | sendPkt qpn' j m psn ty =>
    simp only [managerStep]
    split
    · rename_i hj
      refine setContext_contexts_of_ne _ _ fun heq => hop ?_
      subst heq
      exact (h.given qpn' i hj).2.symm.trans hqpn
    · rfl
  | handleAck qpn' j ackPsn =>
    simp only [managerStep]
    split
    · rename_i hj
      refine setContext_contexts_of_ne _ _ fun heq => hop ?_
      subst heq
      exact (h.given qpn' i hj).2.symm.trans hqpn
    · rfl

theorem Keyed.stable {s : ManagerRun μ} (h : Keyed s) : ContextsStable s where
  again := fun qpn i hi => by
    have hfind := h.find hi
    exact ⟨by simp [arqGetOrCreate, hfind], hfind⟩
  apart := fun qpn qpn' i hi hi' => (h.given qpn i hi).2.symm.trans (h.given qpn' i hi').2
  untouched := fun _ _ hi _ hop => h.untouched hi hop

/-- In every run in which no call for QPN 0 meets an unused slot, contexts are
stable in every state reached. -/
theorem contexts_stable (io : Io μ) (ops : List (ManagerOp μ))
    (hmeet : StepsMeet managerStep ZeroFindsNoUnused (.start io) ops) :
    ContextsStable (run managerStep (.start io) ops) :=
  (run_induction (fun _ _ h hzero => h.step hzero) (keyed_start io) hmeet).stable

/-- Two queue pairs, one packet each: the contexts stay where they are. -/
theorem contexts_stable_two_queue_pairs :
    ContextsStable (run managerStep (.start (.start (.accepting none)))
      [.getOrCreate 7, .sendPkt 7 0 1 5 .only, .getOrCreate 9, .sendPkt 9 1 2 5 .only,
        .handleAck 7 0 5]) := by
  refine contexts_stable (μ := Nat) _ _ ⟨?_, trivial, ?_, trivial, trivial, trivial⟩
  · exact fun h => absurd h (by decide)
  · exact fun h => absurd h (by decide)

/-- QPN 0 is handed the first unused slot, and QPN 5 then gets the same one. -/
theorem zero_shares_a_context :
    (run managerStep (.start (.start (.accepting (none : Option Nat))))
      [.getOrCreate 0, .getOrCreate 5]).given = [(0, 0), (5, 0)] ∧
    ¬ ContextsStable (run managerStep (.start (.start (.accepting (none : Option Nat))))
      [.getOrCreate 0, .getOrCreate 5]) := by
  have hgiven : (run managerStep (.start (.start (.accepting (none : Option Nat))))
      [.getOrCreate 0, .getOrCreate 5]).given = [(0, 0), (5, 0)] := by decide +kernel
  refine ⟨hgiven, fun h => ?_⟩
  have hsame := h.apart 0 5 0 (by rw [hgiven]; simp) (by rw [hgiven]; simp)
  exact absurd hsame (by decide)

end RdmaGateway.Arq
