/-
  Processor/Congestion.lean --- when a LAN core notifies its hosts of congestion.

  A CNP for a QP is sent because a packet of that QP carries a congestion mark, or
  because a periodic check finds the flag set.  The flag is a latch over the usages
  the checks saw, and the time stamp of a QP keeps its CNPs apart whichever of the two
  sent them.  `Paces` is the invariant behind the latter: QPs have one slot each, and
  the stamp in it is no older than the last CNP and no newer than the clock.
-/
import RdmaGateway.Foundation.Pacing
import RdmaGateway.Processor.Notifications

set_option autoImplicit false

namespace RdmaGateway.Processor

open RdmaGateway.Foundation
open RdmaGateway.Dpdk
open RdmaGateway.Wire
open RdmaGateway.Roce
open RdmaGateway.Tunnel
open RdmaGateway.Arq

/-! ## Pacing -/

theorem CnpOutcome.qpn_of_mem {proc : ProcessorContext} {i : Fin maxQpCtx} {now : Nat}
    {log : List CnpTx} {qpMgr : QpManager} (h : CnpOutcome proc i now log qpMgr) {tx : CnpTx}
    (htx : tx ∈ log) : tx.qpn = (proc.qpMgr.qps i).qpn % 16777216 := by
  cases h with
  | silent => cases htx
  | sent _ hqpn _ =>
    rw [List.mem_singleton.mp htx]
    exact hqpn

/-- The slot that `qp_get_or_create` returns: one of the QPN, or a free one that it
sets up for a QPN that had none. -/
theorem qpGetOrCreate_some {mgr mgr' : QpManager} {qpn : Nat} {i : Fin maxQpCtx}
    (h : qpGetOrCreate mgr qpn = (some i, mgr')) :
    mgr' = mgr ∧ (mgr.qps i).active = true ∧ (mgr.qps i).qpn = qpn ∨
      (∀ j, (mgr.qps j).active = true → (mgr.qps j).qpn ≠ qpn) ∧ (mgr.qps i).active = false ∧
        mgr'.qps = Function.update mgr.qps i { QpContext.zero with qpn := qpn, active := true } := by
  unfold qpGetOrCreate at h
  split at h
  · rename_i j hfind
    cases h
    have hfound := Table.findSlot_some hfind
    simp only [Bool.and_eq_true, beq_iff_eq] at hfound
    exact .inl ⟨rfl, hfound⟩
  · rename_i hnone
    split at h
    · rename_i j hfind
      have hfree := Table.findSlot_some hfind
      cases h
      refine .inr ⟨fun k hactive hqpn => ?_, by simpa using hfree, rfl⟩
      have hk := Table.findSlot_eq_none.mp hnone k
      simp [hactive, hqpn] at hk
    · cases h

theorem qpGetOrCreate_slot {mgr mgr' : QpManager} {qpn : Nat} {i : Fin maxQpCtx}
    (h : qpGetOrCreate mgr qpn = (some i, mgr')) :
    (mgr'.qps i).active = true ∧ (mgr'.qps i).qpn = qpn := by
  rcases qpGetOrCreate_some h with ⟨rfl, hfound⟩ | ⟨-, -, hqps⟩
  · exact hfound
  · rw [hqps, Function.update_self]
    exact ⟨rfl, rfl⟩

/-- Every QP has one slot.  Its stamp is not newer than `t`, and not older than any CNP
of the log that was for the QP.  The log is paced. -/
structure Paces (t : Nat) (proc : ProcessorContext) (log : List CnpTx) : Prop where
  one_slot : ∀ i j, (proc.qpMgr.qps i).active = true → (proc.qpMgr.qps j).active = true →
    (proc.qpMgr.qps i).qpn = (proc.qpMgr.qps j).qpn → i = j
  qpn_lt : ∀ i, (proc.qpMgr.qps i).qpn < 16777216
  stamp_le : ∀ i, (proc.qpMgr.qps i).lastCnpTsc ≤ t
  stamped : ∀ tx ∈ log, ∃ i, (proc.qpMgr.qps i).active = true ∧
    (proc.qpMgr.qps i).qpn = tx.qpn ∧ tx.time ≤ (proc.qpMgr.qps i).lastCnpTsc
  paced : Paced CnpTx.qpn CnpTx.time proc.congestionCtrl.cnpTimerCycles log

section Paces

variable {t : Nat} {proc : ProcessorContext} {log : List CnpTx}

theorem Paces.mono (h : Paces t proc log) {t' : Nat} (ht : t ≤ t') : Paces t' proc log :=
  { h with stamp_le := fun i => (h.stamp_le i).trans ht }

/-- The slots keep their QPs, and their stamps may move up to `t`. -/
theorem Paces.restamp (h : Paces t proc log) {proc' : ProcessorContext}
    (hqps : ∀ i, (proc'.qpMgr.qps i).active = (proc.qpMgr.qps i).active ∧
      (proc'.qpMgr.qps i).qpn = (proc.qpMgr.qps i).qpn ∧
      (proc.qpMgr.qps i).lastCnpTsc ≤ (proc'.qpMgr.qps i).lastCnpTsc ∧
      (proc'.qpMgr.qps i).lastCnpTsc ≤ t)
    (htimer : proc'.congestionCtrl.cnpTimerCycles = proc.congestionCtrl.cnpTimerCycles) :
    Paces t proc' log := by
  refine ⟨fun i j hi hj heq => ?_, fun i => ?_, fun i => (hqps i).2.2.2, fun tx htx => ?_, ?_⟩
  · rw [(hqps i).1] at hi
    rw [(hqps j).1] at hj
    rw [(hqps i).2.1, (hqps j).2.1] at heq
    exact h.one_slot i j hi hj heq
  · rw [(hqps i).2.1]
    exact h.qpn_lt i
  · obtain ⟨i, hactive, hqpn, htime⟩ := h.stamped tx htx
    exact ⟨i, (hqps i).1.trans hactive, (hqps i).2.1.trans hqpn, htime.trans (hqps i).2.2.1⟩
  · rw [htimer]
    exact h.paced

/-- Slots, stamps and the timer are all that matters of a processor. -/
theorem Paces.congr (h : Paces t proc log) {proc' : ProcessorContext}
    (hqps : ∀ i, (proc'.qpMgr.qps i).active = (proc.qpMgr.qps i).active ∧
      (proc'.qpMgr.qps i).qpn = (proc.qpMgr.qps i).qpn ∧
      (proc'.qpMgr.qps i).lastCnpTsc = (proc.qpMgr.qps i).lastCnpTsc)
    (htimer : proc'.congestionCtrl.cnpTimerCycles = proc.congestionCtrl.cnpTimerCycles) :
    Paces t proc' log := by
  refine h.restamp (fun i => ?_) htimer
  obtain ⟨hactive, hqpn, hstamp⟩ := hqps i
  exact ⟨hactive, hqpn, hstamp.ge, hstamp.le.trans (h.stamp_le i)⟩

/-- A CNP of slot `i` at time `t`, which is due, and the stamp for it. -/
theorem Paces.sent (h : Paces t proc log) (ht : t < 18446744073709551616) {i : Fin maxQpCtx}
    (hactive : (proc.qpMgr.qps i).active = true) {f : Mbuf}
    (hqpn : f.bthGetQpn = (proc.qpMgr.qps i).qpn % 16777216)
    (hdue : ccCnpDue proc.congestionCtrl (proc.qpMgr.qps i).lastCnpTsc t = true)
    {proc' : ProcessorContext}
    (hqps : proc'.qpMgr = proc.qpMgr.setQp i { proc.qpMgr.qps i with lastCnpTsc := t })
    (htimer : proc'.congestionCtrl.cnpTimerCycles = proc.congestionCtrl.cnpTimerCycles) :
    Paces t proc' (log ++ [⟨f, t⟩]) := by
  have hf : (⟨f, t⟩ : CnpTx).qpn = (proc.qpMgr.qps i).qpn :=
    hqpn.trans (Nat.mod_eq_of_lt (h.qpn_lt i))
  have hgap : (proc.qpMgr.qps i).lastCnpTsc + proc.congestionCtrl.cnpTimerCycles ≤ t := by
    have hle := h.stamp_le i
    rw [ccCnpDue, sub64_of_le ht hle, decide_eq_true_eq] at hdue
    omega
  have hself : proc'.qpMgr.qps i = { proc.qpMgr.qps i with lastCnpTsc := t } := by
    rw [hqps]
    exact Function.update_self _ _ _
  have hlater : Paces t proc' log := by
    refine h.restamp (fun j => ?_) htimer
    by_cases hj : j = i
    · subst hj
      rw [hself]
      exact ⟨rfl, rfl, h.stamp_le j, le_rfl⟩
    · have hother : proc'.qpMgr.qps j = proc.qpMgr.qps j := by
        rw [hqps]
        exact Function.update_of_ne hj _ _
      rw [hother]
      exact ⟨rfl, rfl, le_rfl, h.stamp_le j⟩
  refine { hlater with stamped := fun tx htx => ?_, paced := ?_ }
  · rcases List.mem_append.mp htx with htx | htx
    · exact hlater.stamped tx htx
    · obtain rfl := List.mem_singleton.mp htx
      exact ⟨i, by rw [hself]; exact hactive, by rw [hself]; exact hf.symm, by rw [hself]⟩
  · rw [htimer]
    -- an earlier CNP of the QP is covered by the stamp of its only slot
    refine h.paced.concat fun tx htx hkey => ?_
    obtain ⟨j, hact, hq, htime⟩ := h.stamped tx htx
    obtain rfl := h.one_slot j i hact hactive (hq.trans (hkey.trans hf))
    exact (Nat.add_le_add_right htime _).trans hgap

/-- One call of `cnp_emit`. -/
theorem Paces.emit (h : Paces t proc log) (ht : t < 18446744073709551616) {i : Fin maxQpCtx}
    (hactive : (proc.qpMgr.qps i).active = true) (host : Host) :
    Paces t (cnpEmit proc i t host).1 (log ++ cnpEmitLog proc i t host) := by
  obtain ⟨houtcome, hcontrol⟩ := cnpEmit_outcome proc i t host
  generalize cnpEmit proc i t host = r at houtcome hcontrol ⊢
  generalize cnpEmitLog proc i t host = sent at houtcome ⊢
  generalize hqps : r.1.qpMgr = qpMgr at houtcome
  cases houtcome with
  | silent =>
    rw [List.append_nil]
    exact h.congr (fun j => by rw [hqps]; exact ⟨rfl, rfl, rfl⟩) hcontrol.cnpTimerCycles
  | sent _ hqpn hdue => exact h.sent ht hactive hqpn hdue hqps hcontrol.cnpTimerCycles

/-- The loop of `check_congestion`: every active slot, at one time. -/
theorem Paces.sweep (ht : t < 18446744073709551616) (is : List (Fin maxQpCtx))
    {s : ProcessorContext × Host} {log : List CnpTx} (h : Paces t s.1 log) :
    Paces t (is.foldl (fun (s : ProcessorContext × Host) i =>
      if (s.1.qpMgr.qps i).active then cnpEmit s.1 i t s.2 else s) s).1 (log ++ sweepLog t is s) := by
  induction is generalizing s log with
  | nil => rwa [sweepLog, List.append_nil]
  | cons i is ih =>
    rw [List.foldl_cons, sweepLog]
    split
    · rename_i hactive
      rw [← List.append_assoc]
      exact ih (h.emit ht hactive s.2)
    · exact ih h

/-- The slot that `qp_get_or_create` returns. -/
theorem Paces.getOrCreate (h : Paces t proc log) {qpn : Nat} (hlt : qpn < 16777216)
    {i : Fin maxQpCtx} {qpMgr : QpManager} (hget : qpGetOrCreate proc.qpMgr qpn = (some i, qpMgr)) :
    Paces t { proc with qpMgr := qpMgr } log := by
  rcases qpGetOrCreate_some hget with ⟨rfl, -⟩ | ⟨hnew, hfree, hqps⟩
  · exact h
  have hself : qpMgr.qps i = { QpContext.zero with qpn := qpn, active := true } := by
    rw [hqps]
    exact Function.update_self _ _ _
  have hne : ∀ j, j ≠ i → qpMgr.qps j = proc.qpMgr.qps j := fun j hj => by
    rw [hqps]
    exact Function.update_of_ne hj _ _
  refine ⟨fun j k hj hk heq => ?_, fun j => ?_, fun j => ?_, fun tx htx => ?_, h.paced⟩
  · dsimp only at hj hk heq
    by_cases hji : j = i <;> by_cases hki : k = i
    · rw [hji, hki]
    · subst hji
      rw [hself, hne k hki] at heq
      rw [hne k hki] at hk
      exact absurd heq.symm (hnew k hk)
    · subst hki
      rw [hself, hne j hji] at heq
      rw [hne j hji] at hj
      exact absurd heq (hnew j hj)
    · rw [hne j hji] at hj heq
      rw [hne k hki] at hk heq
      exact h.one_slot j k hj hk heq
  · by_cases hj : j = i
    · subst hj
      dsimp only
      rw [hself]
      exact hlt
    · dsimp only
      rw [hne j hj]
      exact h.qpn_lt j
  · by_cases hj : j = i
    · subst hj
      dsimp only
      rw [hself]
      exact Nat.zero_le t
    · dsimp only
      rw [hne j hj]
      exact h.stamp_le j
  · obtain ⟨j, hactive, hrest⟩ := h.stamped tx htx
    have hj : j ≠ i := by
      rintro rfl
      rw [hfree] at hactive
      cases hactive
    refine ⟨j, ?_⟩
    dsimp only
    rw [hne j hj]
    exact ⟨hactive, hrest⟩

/-- The refresh of a QP context. -/
theorem Paces.refresh (h : Paces t proc log) (i : Fin maxQpCtx) (m : Mbuf) :
    Paces t (refreshed proc i m) log := by
  refine h.congr (fun j => ?_) rfl
  by_cases hj : j = i
  · subst hj
    simp [refreshed, QpManager.setQp]
  · simp [refreshed, QpManager.setQp, hj]

end Paces

/-! ## The flag -/

/-- One check of the usage, on a core whose flag says whether the usage is raised. -/
theorem checked_congestionDetected (proc : ProcessorContext) :
    (checked proc).congestionCtrl.congestionDetected =
      latch proc.congestionCtrl.highWaterMark proc.congestionCtrl.lowWaterMark
        proc.congestionCtrl.congestionDetected (usagePercent proc.arqMgr) := by
  rw [checked, ccCheckBuffer, if_neg (by decide)]
  rfl

/-- The flag says whether the usages that the checks saw are raised. -/
def Flags (proc : ProcessorContext) (checks : List Nat) : Prop :=
  proc.congestionCtrl.congestionDetected = true ↔
    Raised proc.congestionCtrl.highWaterMark proc.congestionCtrl.lowWaterMark checks

theorem Flags.congr {proc proc' : ProcessorContext} {checks : List Nat} (h : Flags proc checks)
    (hsame : SameControl proc proc') : Flags proc' checks := by
  rw [Flags, hsame.congestionDetected, hsame.highWaterMark, hsame.lowWaterMark]
  exact h

theorem checked_marks (proc : ProcessorContext) :
    (checked proc).congestionCtrl.highWaterMark = proc.congestionCtrl.highWaterMark ∧
      (checked proc).congestionCtrl.lowWaterMark = proc.congestionCtrl.lowWaterMark ∧
      (checked proc).congestionCtrl.cnpTimerCycles = proc.congestionCtrl.cnpTimerCycles := by
  rw [checked, ccCheckBuffer, if_neg (by decide)]
  exact ⟨rfl, rfl, rfl⟩

theorem Flags.checked {proc : ProcessorContext} {checks : List Nat} (h : Flags proc checks) :
    Flags (checked proc) (checks ++ [usagePercent proc.arqMgr]) := by
  obtain ⟨hhigh, hlow, -⟩ := checked_marks proc
  rw [Flags, hhigh, hlow, checked_congestionDetected]
  exact latch_iff_raised h _

theorem sweep_sameControl (now : Nat) (is : List (Fin maxQpCtx)) (s : ProcessorContext × Host) :
    SameControl s.1 (is.foldl (fun (s : ProcessorContext × Host) i =>
      if (s.1.qpMgr.qps i).active then cnpEmit s.1 i now s.2 else s) s).1 ∧
      Later s.2.io (is.foldl (fun (s : ProcessorContext × Host) i =>
        if (s.1.qpMgr.qps i).active then cnpEmit s.1 i now s.2 else s) s).2.io := by
  induction is generalizing s with
  | nil => exact ⟨.refl _, .refl _⟩
  | cons i is ih =>
    rw [List.foldl_cons]
    split
    · obtain ⟨hsame, hlater⟩ := ih (cnpEmit s.1 i now s.2)
      exact ⟨(cnpEmit_outcome s.1 i now s.2).2.trans hsame,
        (later_cnpEmit s.1 i now s.2).trans hlater⟩
    · exact ih s

/-! ## One packet -/

/-- What the clock shows next. -/
def clock (host : Host) : Nat := host.io.oracle.tsc host.io.tscCount

/-- The clock does not go back, and its readings are 64-bit values. -/
structure ClockRuns (host : Host) : Prop where
  mono : Monotone host.io.oracle.tsc
  lt : ∀ n, host.io.oracle.tsc n < 18446744073709551616

theorem ClockRuns.later {host host' : Host} (h : ClockRuns host) (hlater : Later host.io host'.io) :
    ClockRuns host' ∧ clock host ≤ clock host' := by
  refine ⟨⟨?_, ?_⟩, ?_⟩
  · rw [hlater.oracle]
    exact h.mono
  · rw [hlater.oracle]
    exact h.lt
  · rw [clock, clock, hlater.oracle]
    exact h.mono hlater.tscCount

/-- What the run of a core keeps: CNPs are paced up to now, and the flag follows the
checks. -/
structure CnpInv (s : ProcessorContext × Host) (cnps : List CnpTx) (checks : List Nat) : Prop where
  runs : ClockRuns s.2
  paces : Paces (clock s.2) s.1 cnps
  flags : Flags s.1 checks

section CnpInv

variable {s : ProcessorContext × Host} {cnps : List CnpTx} {checks : List Nat}

/-- A part of the call that touches neither the slots nor the control. -/
theorem CnpInv.congr (h : CnpInv s cnps checks) {s' : ProcessorContext × Host}
    (hqps : s'.1.qpMgr = s.1.qpMgr) (hsame : SameControl s.1 s'.1) (hlater : Later s.2.io s'.2.io) :
    CnpInv s' cnps checks := by
  obtain ⟨hruns, hclock⟩ := h.runs.later hlater
  refine ⟨hruns, (h.paces.congr (fun i => ?_) hsame.cnpTimerCycles).mono hclock,
    h.flags.congr hsame⟩
  rw [hqps]
  exact ⟨rfl, rfl, rfl⟩

theorem CnpInv.notify (h : CnpInv s cnps checks) {i : Fin maxQpCtx}
    (hactive : (s.1.qpMgr.qps i).active = true) (m : Mbuf) :
    CnpInv (lanNotify s.1 i m s.2) (cnps ++ notifyLog s.1 i m s.2) checks := by
  have hpaces := h.paces.refresh i m
  have hflags : Flags (refreshed s.1 i m) checks := h.flags.congr ⟨rfl, rfl, rfl, rfl⟩
  rw [lanNotify_eq, notifyLog]
  split
  · have hact : ((refreshed s.1 i m).qpMgr.qps i).active = true := by
      simpa [refreshed, QpManager.setQp] using hactive
    obtain ⟨hruns, hclock⟩ := h.runs.later
      ((later_rdtsc s.2).trans (later_cnpEmit (refreshed s.1 i m) i s.2.rdtsc.1 s.2.rdtsc.2))
    exact ⟨hruns, (hpaces.emit (h.runs.lt _) hact _).mono hclock,
      hflags.congr (cnpEmit_outcome _ _ _ _).2⟩
  · rw [List.append_nil]
    exact ⟨h.runs, hpaces, hflags⟩

theorem lanNotify_sameControl (proc : ProcessorContext) (i : Fin maxQpCtx) (m : Mbuf)
    (host : Host) : SameControl proc (lanNotify proc i m host).1 := by
  have hrefresh : SameControl proc (refreshed proc i m) := ⟨rfl, rfl, rfl, rfl⟩
  rw [lanNotify_eq]
  split
  · exact hrefresh.trans (cnpEmit_outcome _ _ _ _).2
  · exact hrefresh

theorem lanSend_keeps (proc : ProcessorContext) (m : Mbuf) (peerIp : Nat) (host : Host) :
    (lanSend proc m peerIp host).1.qpMgr = proc.qpMgr ∧
      (lanSend proc m peerIp host).1.congestionCtrl = proc.congestionCtrl := by
  have htransmit : ∀ (proc : ProcessorContext) (w : Mbuf) (inWindow : Int) (host : Host),
      (lanTransmit proc w inWindow host).1.qpMgr = proc.qpMgr ∧
        (lanTransmit proc w inWindow host).1.congestionCtrl = proc.congestionCtrl := by
    intro proc w inWindow host
    unfold lanTransmit
    split
    · dsimp only
      split <;> exact ⟨rfl, rfl⟩
    · dsimp only
      split <;> exact ⟨rfl, rfl⟩
  unfold lanSend
  dsimp only
  generalize wanFwdRoce (forgeAndSendAck host m).2 m .wan = fwd
  generalize hproc₀ :
    ((proc.count .writePktsProcessed).count .pktsLanToWan).count .ackSpoofedSent = proc₀
  obtain ⟨-, mgr, hproc, -⟩ := lanTrack_tracks proc₀ fwd.1 m.bthGetQpn m.bthGetPsn
    (getSegmentType m.bthOpcode) peerIp fwd.2
  rw [(htransmit _ _ _ _).1, (htransmit _ _ _ _).2, hproc, ← hproc₀]
  exact ⟨rfl, rfl⟩

theorem lanSend_sameControl (proc : ProcessorContext) (m : Mbuf) (peerIp : Nat) (host : Host) :
    SameControl proc (lanSend proc m peerIp host).1 := by
  obtain ⟨-, hcc⟩ := lanSend_keeps proc m peerIp host
  constructor <;> rw [hcc]

/-- Acknowledging, tracking and transmitting the packet. -/
theorem CnpInv.send (h : CnpInv s cnps checks) (m : Mbuf) (peerIp : Nat) :
    CnpInv (lanSend s.1 m peerIp s.2) cnps checks :=
  h.congr (lanSend_keeps s.1 m peerIp s.2).1 (lanSend_sameControl s.1 m peerIp s.2)
    (later_lanSend s.1 m peerIp s.2)

/-- The periodic check. -/
theorem CnpInv.check (h : CnpInv s cnps checks) :
    CnpInv (checkCongestion s.1 s.2) (cnps ++ checkLog s.1 s.2)
      (checks ++ [usagePercent s.1.arqMgr]) := by
  have hpaces : Paces (clock s.2) (checked s.1) cnps :=
    h.paces.congr (fun _ => ⟨rfl, rfl, rfl⟩) (checked_marks s.1).2.2
  rw [checkCongestion_eq, checkLog]
  split
  · rw [List.append_nil]
    exact ⟨h.runs, hpaces, h.flags.checked⟩
  · obtain ⟨hsame, hlater⟩ := sweep_sameControl s.2.rdtsc.1 (Table.slots maxQpCtx)
      (checked s.1, s.2.rdtsc.2)
    obtain ⟨hruns, hclock⟩ := h.runs.later ((later_rdtsc s.2).trans hlater)
    have hswept := Paces.sweep (s := (checked s.1, s.2.rdtsc.2)) (h.runs.lt s.2.io.tscCount)
      (Table.slots maxQpCtx) hpaces
    exact ⟨hruns, hswept.mono hclock, h.flags.checked.congr hsame⟩

theorem CnpInv.count (h : CnpInv s cnps checks) :
    CnpInv (lanCount s.1 s.2)
      (cnps ++ if ChecksAfter s.1 then checkLog (counted s.1) s.2 else [])
      (checks ++ (if ChecksAfter s.1 then some (usagePercent s.1.arqMgr) else none).toList) := by
  have hcounted : CnpInv (counted s.1, s.2) cnps checks :=
    h.congr rfl ⟨rfl, rfl, rfl, rfl⟩ (.refl _)
  rw [lanCount_eq]
  split
  · exact hcounted.check
  · rw [List.append_nil, Option.toList_none, List.append_nil]
    exact hcounted

/-- The step: a packet of the LAN. -/
theorem CnpInv.rx (h : CnpInv s cnps checks) (m : Mbuf) :
    CnpInv (procProcessLanRx s.1 m s.2) (cnps ++ (lanLog s.1 m s.2).cnps)
      (checks ++ (lanLog s.1 m s.2).check.toList) := by
  cases lan_case s.1 m s.2 with
  | other c hproc _ hlater hlog =>
    rw [hlog]
    simp only [LanLog.nothing, LanLog.cnps, Option.toList_none, List.append_nil]
    refine h.congr ?_ ?_ hlater
    · rw [hproc]
      rfl
    · rw [hproc]
      exact ⟨rfl, rfl, rfl, rfl⟩
  | @write i qpMgr sent hwrite hqp hs hr hmarked hcheck hperiodic =>
    obtain ⟨hactive, -⟩ := qpGetOrCreate_slot hqp
    have hslot : CnpInv ({ s.1 with qpMgr := qpMgr }, s.2) cnps checks :=
      ⟨h.runs, h.paces.getOrCreate m.bthGetQpn_lt hqp, h.flags.congr ⟨rfl, rfl, rfl, rfl⟩⟩
    have hsent := ((hslot.notify hactive m).send m (wanGetPeerIp s.2 (bswap32 m.ipDstAddr))).count
    rw [← hs] at hsent
    rw [LanLog.cnps, hmarked, hperiodic, hcheck, hr, ← List.append_assoc]
    exact hsent

/-- Every CNP of the next packet has a cause: the packet belongs to the QP and carries
a congestion mark, or a check runs and the usage is raised with what it sees. -/
theorem CnpInv.caused (h : CnpInv s cnps checks) (m : Mbuf) :
    ∀ tx ∈ (lanLog s.1 m s.2).cnps,
      (m.isRoceWrite ∧ m.bthGetQpn = tx.qpn ∧ m.ipTos &&& 0x3 = 0x3) ∨
        ∃ u, (lanLog s.1 m s.2).check = some u ∧
          Raised s.1.congestionCtrl.highWaterMark s.1.congestionCtrl.lowWaterMark
            (checks ++ [u]) := by
  intro tx htx
  cases lan_case s.1 m s.2 with
  | other c _ _ _ hlog =>
    rw [hlog] at htx
    cases htx
  | @write i qpMgr sent hwrite hqp hs hr hmarked hcheck hperiodic =>
    obtain ⟨-, hqpn⟩ := qpGetOrCreate_slot hqp
    rcases List.mem_append.mp htx with htx | htx
    · rw [hmarked, notifyLog] at htx
      split at htx
      · rename_i hmark
        have hslotQpn : ((refreshed { s.1 with qpMgr := qpMgr } i m).qpMgr.qps i).qpn =
            m.bthGetQpn := by
          simpa [refreshed, QpManager.setQp] using hqpn
        obtain ⟨houtcome, -⟩ := cnpEmit_outcome (refreshed { s.1 with qpMgr := qpMgr } i m) i
          s.2.rdtsc.1 s.2.rdtsc.2
        have htxQpn := houtcome.qpn_of_mem htx
        rw [hslotQpn, Nat.mod_eq_of_lt m.bthGetQpn_lt] at htxQpn
        exact .inl ⟨hwrite, htxQpn.symm, hmark⟩
      · cases htx
    · rw [hperiodic] at htx
      split at htx
      · rename_i hafter
        refine .inr ⟨usagePercent sent.1.arqMgr, by rw [hcheck, if_pos hafter], ?_⟩
        have hsent : SameControl { s.1 with qpMgr := qpMgr } sent.1 := by
          rw [hs]
          exact (lanNotify_sameControl _ i m s.2).trans (lanSend_sameControl _ m _ _)
        have hsame : SameControl s.1 (counted sent.1) := ⟨hsent.1, hsent.2, hsent.3, hsent.4⟩
        have hflag : (checked (counted sent.1)).congestionCtrl.congestionDetected = true := by
          by_contra hno
          rw [checkLog, if_pos (by simpa using hno)] at htx
          cases htx
        have hraised := (h.flags.congr hsame).checked.mp hflag
        obtain ⟨hhigh, hlow, -⟩ := checked_marks (counted sent.1)
        rwa [hhigh, hlow, hsame.highWaterMark, hsame.lowWaterMark] at hraised
      · cases htx

end CnpInv

/-! ## Runs -/

/-- A run of `proc_process_lan_rx` on one processor, with what was noted of each packet.
Between two packets the retransmit windows may change in any way and the clock may be
read. -/
inductive CnpRun (host : Host) (lcoreId : Nat) (isLanCore : Bool) :
    List LanLog → ProcessorContext × Host → Prop
  | start : CnpRun host lcoreId isLanCore [] (procInit host lcoreId isLanCore, host)
  | rx {logs : List LanLog} {s : ProcessorContext × Host}
      (h : CnpRun host lcoreId isLanCore logs s) (m : Mbuf) :
      CnpRun host lcoreId isLanCore (logs ++ [lanLog s.1 m s.2]) (procProcessLanRx s.1 m s.2)
  | arq {logs : List LanLog} {s : ProcessorContext × Host}
      (h : CnpRun host lcoreId isLanCore logs s) (mgr : ArqManager Mbuf) {io : Io Mbuf}
      (hlater : Later s.2.io io) :
      CnpRun host lcoreId isLanCore logs ({ s.1 with arqMgr := mgr }, { s.2 with io := io })

/-- The CNPs of a run, in the order of transmission. -/
def cnpsOf (logs : List LanLog) : List CnpTx := logs.flatMap LanLog.cnps

/-- The usages that the checks of a run saw, in order. -/
def checksOf (logs : List LanLog) : List Nat := logs.flatMap fun log => log.check.toList

section Runs

variable {host : Host} {lcoreId : Nat} {isLanCore : Bool} {logs : List LanLog}
  {s : ProcessorContext × Host}

theorem CnpRun.inv (hclock : ClockRuns host) (h : CnpRun host lcoreId isLanCore logs s) :
    CnpInv s (cnpsOf logs) (checksOf logs) := by
  induction h with
  | start =>
    refine ⟨hclock, ⟨fun i j hi => ?_, fun i => ?_, fun i => Nat.zero_le _, by simp [cnpsOf],
      paced_nil⟩, ?_⟩
    · cases hi
    · exact Nat.succ_pos _
    · exact iff_of_false Bool.false_ne_true not_raised_nil
  | rx _ m ih =>
    have hrx := ih.rx m
    rw [cnpsOf, checksOf, List.flatMap_append, List.flatMap_append, List.flatMap_singleton,
      List.flatMap_singleton]
    exact hrx
  | arq _ mgr hlater ih => exact ih.congr rfl ⟨rfl, rfl, rfl, rfl⟩ hlater

/-- The ARQ handlers are such changes: a run that interleaves packets with them is a run. -/
theorem exists_cnpRun (ops : List LanOp) :
    ∃ logs, CnpRun host lcoreId isLanCore logs
      (run lanStep (procInit host lcoreId isLanCore, host) ops) := by
  have hstep : ∀ (ops : List LanOp) {logs : List LanLog} {s : ProcessorContext × Host},
      CnpRun host lcoreId isLanCore logs s →
        ∃ logs, CnpRun host lcoreId isLanCore logs (run lanStep s ops) := by
    intro ops
    induction ops with
    | nil => exact fun h => ⟨_, h⟩
    | cons op ops ih =>
      intro logs s h
      cases op with
      | rx m => exact ih (h.rx m)
      | ack i psn => exact ih (h.arq _ (later_arqHandleAck _ _ _))
      | nack i psn => exact ih (h.arq _ (later_arqHandleNack _ _ _))
      | timeouts i => exact ih (h.arq _ (later_arqCheckTimeouts _ _))
  exact hstep ops .start

/-- When CNPs are sent.  The flag is set exactly when some check saw the high water mark
reached and no later one saw the low water mark.  The CNPs of one QP are at least
`cnp_timer_cycles` apart.  The CNPs the LAN port takes during the next packet are those
noted for it, and each has its cause in a congestion mark of the QP's packet or in a
check after which the flag is set. -/
theorem cnp_emission_law (hclock : ClockRuns host) (h : CnpRun host lcoreId isLanCore logs s) :
    (s.1.congestionCtrl.congestionDetected = true ↔
      Raised s.1.congestionCtrl.highWaterMark s.1.congestionCtrl.lowWaterMark (checksOf logs)) ∧
    Paced CnpTx.qpn CnpTx.time s.1.congestionCtrl.cnpTimerCycles (cnpsOf logs) ∧
    ∀ m, lanCnps (newEvents s (procProcessLanRx s.1 m s.2)) =
        (lanLog s.1 m s.2).cnps.map (·.frame) ∧
      ∀ tx ∈ (lanLog s.1 m s.2).cnps,
        (m.isRoceWrite ∧ m.bthGetQpn = tx.qpn ∧ m.ipTos &&& 0x3 = 0x3) ∨
          ∃ u, (lanLog s.1 m s.2).check = some u ∧
            Raised s.1.congestionCtrl.highWaterMark s.1.congestionCtrl.lowWaterMark
              (checksOf logs ++ [u]) := by
  have hinv := h.inv hclock
  refine ⟨hinv.flags, hinv.paces.paced, fun m => ⟨?_, hinv.caused m⟩⟩
  obtain ⟨ev, hadds, hcnps⟩ := lanLog_transmits s.1 m s.2
  rw [newEvents_of_adds hadds, hcnps]

end Runs

/-- A host of 1 MHz whose clock advances by a hundred cycles with every reading. -/
def clockedHost : Host :=
  { Host.unloaded with
    io := .start ⟨fun _ _ => true, fun _ => some ⟨0, 2048, 0, fun _ => 0⟩,
      fun n => min (100 * n + 100) 18446744073709551615, 1000000⟩ }

/-- A WRITE for QP 7 that carries a congestion mark. -/
def markedPacket : Mbuf :=
  let m := writeFrame 1 roceOpcodeWriteOnly 7 0
  m.withData ((m.data.st8 15 3).st32 26 0x0300000A)

/-- Two marked packets are answered with CNPs at least 50 cycles apart. -/
theorem cnp_emission_law_marked :
    ∃ logs s, CnpRun clockedHost 0 true logs s ∧ (cnpsOf logs).map CnpTx.qpn = [7, 7] ∧
      s.1.congestionCtrl.cnpTimerCycles = 50 ∧
      Paced CnpTx.qpn CnpTx.time s.1.congestionCtrl.cnpTimerCycles (cnpsOf logs) := by
  have hclock : ClockRuns clockedHost := by
    refine ⟨fun a b hab => ?_, fun n => ?_⟩
    · dsimp only [clockedHost, Io.start]
      omega
    · dsimp only [clockedHost, Io.start]
      omega
  have hrun : CnpRun clockedHost 0 true _ _ := (CnpRun.start.rx markedPacket).rx markedPacket
  exact ⟨_, _, hrun, by decide +kernel, by decide +kernel, (cnp_emission_law hclock hrun).2.1⟩

end RdmaGateway.Processor
