/-
  Processor/Saturation.lean --- the congestion flag of a LAN core is set once and for all.

  The flag follows the share of window slots in use.  A window of a LAN core is never
  drained, so no context's use ever falls, and a flag that a check has set is set again by
  every later one: the low water mark never applies.
-/
import Mathlib.Algebra.Order.BigOperators.Group.List
import RdmaGateway.Arq.Filling
import RdmaGateway.Processor.Congestion

set_option autoImplicit false

namespace RdmaGateway.Processor

open RdmaGateway.Foundation
open RdmaGateway.Dpdk
open RdmaGateway.Wire
open RdmaGateway.Roce
open RdmaGateway.Tunnel
open RdmaGateway.Arq

/-! ## The usage -/

/-- The contexts were sent packets and nothing else happened to them. -/
def Undrained (mgr : ArqManager Mbuf) : Prop :=
  ∀ i, ∃ sent : List Mbuf, FilledWith (fun _ _ => True) (mgr.contexts i) sent

theorem undrained_init : Undrained arqMgrInit := fun _ => ⟨[], filledWith_fresh 0⟩

/-- No context uses less than it did. -/
def UsageGrows (mgr mgr' : ArqManager Mbuf) : Prop :=
  ∀ i, contextUsage (mgr.contexts i) ≤ contextUsage (mgr'.contexts i)

theorem UsageGrows.refl (mgr : ArqManager Mbuf) : UsageGrows mgr mgr := fun _ => le_rfl

theorem UsageGrows.trans {a b c : ArqManager Mbuf} (hab : UsageGrows a b) (hbc : UsageGrows b c) :
    UsageGrows a c :=
  fun i => (hab i).trans (hbc i)

section Usage

variable {mgr mgr' : ArqManager Mbuf}

theorem Undrained.usage_le (h : Undrained mgr) (i : Fin maxQpCtx) :
    contextUsage (mgr.contexts i) ≤ windowSize := by
  obtain ⟨sent, hfilled⟩ := h i
  exact hfilled.usage_le

theorem Undrained.setContext (h : Undrained mgr) {i : Fin maxQpCtx} {ctx : ArqContext Mbuf}
    {sent : List Mbuf} (hctx : FilledWith (fun _ _ => True) ctx sent) :
    Undrained (mgr.setContext i ctx) := by
  intro j
  by_cases hji : j = i
  · subst hji
    exact ⟨sent, by rwa [setContext_contexts_self]⟩
  · rw [setContext_contexts_of_ne _ _ hji]
    exact h j

theorem usageGrows_setContext {i : Fin maxQpCtx} {ctx : ArqContext Mbuf}
    (h : contextUsage (mgr.contexts i) ≤ contextUsage ctx) :
    UsageGrows mgr (mgr.setContext i ctx) := by
  intro j
  by_cases hji : j = i
  · subst hji
    rwa [setContext_contexts_self]
  · rw [setContext_contexts_of_ne _ _ hji]

/-- A context that is opened was unused, and counted for nothing. -/
theorem Undrained.getOrCreate (h : Undrained mgr) {qpn : Nat} {slot : Option (Fin maxQpCtx)}
    {mgr₁ : ArqManager Mbuf} (hget : arqGetOrCreate mgr qpn = (slot, mgr₁)) :
    Undrained mgr₁ ∧ UsageGrows mgr mgr₁ := by
  have hobtains := arqGetOrCreate_obtains mgr qpn
  rw [hget] at hobtains
  cases hobtains with
  | found _ _ => exact ⟨h, .refl _⟩
  | created _ hunused =>
    refine ⟨h.setContext (filledWith_fresh qpn), usageGrows_setContext ?_⟩
    simp [contextUsage, hunused]
  | full _ _ => exact ⟨h, .refl _⟩

/-- The admission of a packet takes a slot or none. -/
theorem Tracks.undrained {w : Mbuf} {qpn psn peerIp : Nat} {ty : WriteSegmentType} {rc : Int}
    (h : Undrained mgr) (htracks : Tracks mgr w qpn psn ty peerIp rc mgr') :
    Undrained mgr' ∧ UsageGrows mgr mgr' := by
  cases htracks with
  | noContext hget => exact h.getOrCreate hget
  | @noSlot i mgr₁ hget _ =>
    obtain ⟨hundrained, hgrows⟩ := h.getOrCreate hget
    obtain ⟨sent, hfilled⟩ := hundrained i
    exact ⟨hundrained.setContext (hfilled.setPeerIp peerIp),
      hgrows.trans (usageGrows_setContext le_rfl)⟩
  | @stored i mgr₁ now hget hroom =>
    obtain ⟨hundrained, hgrows⟩ := h.getOrCreate hget
    obtain ⟨sent, hfilled⟩ := hundrained i
    have hlt : sent.length < windowSize := by
      refine Nat.lt_of_not_le fun hfull => ?_
      rw [hfilled.inFlight_next.mpr hfull] at hroom
      cases hroom
    have hsent : FilledWith (fun _ _ => True) ((mgr₁.contexts i).sent w psn ty now) (sent ++ [w]) :=
      hfilled.sent hlt trivial
    have hmore := hsent.setPeerIp peerIp
    refine ⟨hundrained.setContext hmore, hgrows.trans (usageGrows_setContext ?_)⟩
    rw [hfilled.usage, hmore.usage, List.length_append]
    show _ ≤ if (mgr₁.contexts i).qpn ≠ 0 then _ else _
    split <;> omega

theorem calculateArqWindowUsage_mono (h : Undrained mgr) (h' : Undrained mgr')
    (hgrows : UsageGrows mgr mgr') :
    calculateArqWindowUsage mgr ≤ calculateArqWindowUsage mgr' := by
  rw [calculateArqWindowUsage_eq_sum h.usage_le, calculateArqWindowUsage_eq_sum h'.usage_le]
  exact List.sum_le_sum fun i _ => hgrows i

theorem calculateArqWindowUsage_le_of_undrained (h : Undrained mgr) :
    calculateArqWindowUsage mgr ≤ maxQpCtx * windowSize := by
  rw [calculateArqWindowUsage_eq_sum h.usage_le]
  have hsum := List.sum_le_card_nsmul
    ((Table.slots maxQpCtx).map fun i => contextUsage (mgr.contexts i)) windowSize
    fun u hu => by
      obtain ⟨i, -, rfl⟩ := List.mem_map.mp hu
      exact h.usage_le i
  rwa [List.length_map, Table.length_slots, nsmul_eq_mul] at hsum

theorem usagePercent_mono (h : Undrained mgr) (h' : Undrained mgr')
    (hgrows : UsageGrows mgr mgr') : usagePercent mgr ≤ usagePercent mgr' := by
  have hmono := calculateArqWindowUsage_mono h h' hgrows
  have hle := calculateArqWindowUsage_le_of_undrained h'
  have hmul : ∀ u ≤ maxQpCtx * windowSize, mul32 u 100 = u * 100 := fun u hu =>
    Nat.mod_eq_of_lt (lt_of_le_of_lt (Nat.mul_le_mul_right 100 hu) (by decide))
  rw [usagePercent, usagePercent, hmul _ (hmono.trans hle), hmul _ hle]
  exact Nat.div_le_div_right (Nat.mul_le_mul_right 100 hmono)

end Usage

/-! ## The flag -/

/-- The count of a WRITE, with its check when one is due. -/
theorem lanCount_flag (proc : ProcessorContext) (host : Host) :
    (lanCount proc host).1.congestionCtrl.highWaterMark = proc.congestionCtrl.highWaterMark ∧
      (lanCount proc host).1.congestionCtrl.congestionDetected =
        if ChecksAfter proc then
          latch proc.congestionCtrl.highWaterMark proc.congestionCtrl.lowWaterMark
            proc.congestionCtrl.congestionDetected (usagePercent proc.arqMgr)
        else proc.congestionCtrl.congestionDetected := by
  rw [lanCount_eq]
  split
  · obtain ⟨hhigh, -, -⟩ := checked_marks (counted proc)
    have hflag := checked_congestionDetected (counted proc)
    rw [checkCongestion_eq]
    split
    · exact ⟨hhigh, hflag⟩
    · obtain ⟨hsame, -⟩ := sweep_sameControl host.rdtsc.1 (Table.slots maxQpCtx)
        (checked (counted proc), host.rdtsc.2)
      exact ⟨hsame.highWaterMark.trans hhigh, hsame.congestionDetected.trans hflag⟩
  · exact ⟨rfl, rfl⟩

/-- The windows were never drained, and a set flag is one that the usage at hand would
set. -/
structure Saturates (proc : ProcessorContext) : Prop where
  undrained : Undrained proc.arqMgr
  flag : proc.congestionCtrl.congestionDetected = true →
    proc.congestionCtrl.highWaterMark ≤ usagePercent proc.arqMgr

theorem saturates_init (host : Host) (lcoreId : Nat) (isLanCore : Bool) :
    Saturates (procInit host lcoreId isLanCore) :=
  ⟨undrained_init, fun h => absurd h (by simp [procInit, ccInit])⟩

/-- One packet: the windows keep what they have, and the flag is set by a check that finds
the usage at the high water mark, and never cleared. -/
theorem Saturates.step {proc : ProcessorContext} (h : Saturates proc) (m : Mbuf) (host : Host) :
    Saturates (procProcessLanRx proc m host).1 ∧
      UsageGrows proc.arqMgr (procProcessLanRx proc m host).1.arqMgr ∧
      (proc.congestionCtrl.congestionDetected = true →
        (procProcessLanRx proc m host).1.congestionCtrl.congestionDetected = true) := by
  have hwindows : Undrained (procProcessLanRx proc m host).1.arqMgr ∧
      UsageGrows proc.arqMgr (procProcessLanRx proc m host).1.arqMgr := by
    cases lan_outcome proc m host with
    | freed _ hkeep _ =>
      rw [hkeep.arqMgr]
      exact ⟨h.undrained, .refl _⟩
    | passed _ hkeep _ _ _ =>
      rw [hkeep.arqMgr]
      exact ⟨h.undrained, .refl _⟩
    | forwarded _ _ _ hfwd => exact hfwd.tracks.undrained h.undrained
  obtain ⟨hundrained, hgrows⟩ := hwindows
  have hmono := usagePercent_mono h.undrained hundrained hgrows
  cases lan_case proc m host with
  | other c hproc _ _ _ =>
    rw [hproc] at hundrained hgrows hmono ⊢
    exact ⟨⟨hundrained, fun hset => (h.flag hset).trans hmono⟩, hgrows, id⟩
  | @write i qpMgr s _ _ hs hr _ _ _ =>
    have hsame : SameControl proc s.1 := by
      have hslot : SameControl proc { proc with qpMgr := qpMgr } := ⟨rfl, rfl, rfl, rfl⟩
      rw [hs]
      exact (hslot.trans (lanNotify_sameControl _ i m host)).trans (lanSend_sameControl _ m _ _)
    obtain ⟨hhigh, hflag⟩ := lanCount_flag s.1 s.2
    have harq : (lanCount s.1 s.2).1.arqMgr = s.1.arqMgr := (lanCount_emits s.1 s.2).1.arqMgr
    rw [hr] at hundrained hgrows hmono ⊢
    rw [hsame.highWaterMark] at hhigh
    rw [hsame.highWaterMark, hsame.congestionDetected] at hflag
    rw [harq] at hmono
    have hset : proc.congestionCtrl.congestionDetected = true →
        proc.congestionCtrl.highWaterMark ≤ usagePercent s.1.arqMgr :=
      fun hset => (h.flag hset).trans hmono
    refine ⟨⟨hundrained, ?_⟩, hgrows, ?_⟩
    · rw [hhigh, hflag, harq]
      split
      · exact (latch_iff_of_le hset).mp
      · exact hset
    · rw [hflag]
      split
      · exact fun hflag => (latch_iff_of_le hset).mpr (hset hflag)
      · exact id

end RdmaGateway.Processor
