/-
  Processor/References.lean --- who holds a reference to a buffer.

  A reference is held by a window slot, by the NIC for an accepted transmission
  that has not completed, or by the call in progress.  `refDelta` is the account of
  the first and the last: what the gateway itself owes.  An accepted transmission
  hands one of its references to the NIC, so completions do not touch it, and a
  buffer the gateway allocates for a frame of its own leaves it as it found it.
  Every step moves this account from the slots before to the slots after without
  overdrawing it (`lan_step_moves`); the reference count is that account plus the
  transmissions outstanding.
-/
import Mathlib.Algebra.BigOperators.Fin
import Mathlib.Algebra.Order.BigOperators.Group.Finset
import RdmaGateway.Foundation.Ledger
import RdmaGateway.Processor.LanRun

set_option autoImplicit false

namespace RdmaGateway.Processor

open RdmaGateway.Foundation
open RdmaGateway.Dpdk
open RdmaGateway.Wire
open RdmaGateway.Roce
open RdmaGateway.Tunnel
open RdmaGateway.Arq

/-! ## The account of one buffer -/

/-- What an event adds to the references the gateway holds to buffer `x`. -/
def refDelta (x : Nat) : Event Mbuf → Int
  | .alloc m => mark x m
  | .free m => - mark x m
  | .refcntUpdate m d => mark x m * d
  | .txBurst _ m accepted => if accepted then - mark x m else 0

section Events

variable {x : Nat} {b : Int}

theorem moves_free (m : Mbuf) (hb : mark x m ≤ b) :
    Moves (refDelta x) b [.free m] (b - mark x m) := by
  have hmark := mark_nonneg x m
  exact .single (by omega) (by simp only [refDelta]; omega)

theorem moves_txEvents (port : Port) (m : Mbuf) (accepted : Bool) (hb : mark x m ≤ b) :
    Moves (refDelta x) b (txEvents port m accepted) (b - mark x m) := by
  have hmark := mark_nonneg x m
  cases accepted with
  | true => exact .single (by omega) (by simp only [refDelta, if_true]; omega)
  | false =>
    refine ⟨by omega, ?_⟩
    simp only [refDelta, Bool.false_eq_true, if_false, Int.add_zero]
    exact moves_free m hb

/-- A transmission that takes a reference for the NIC first. -/
theorem moves_keepEvents (m : Mbuf) (accepted : Bool) (hb : 0 ≤ b) :
    Moves (refDelta x) b (keepEvents m accepted) b := by
  have hmark := mark_nonneg x m
  cases accepted with
  | true =>
    refine ⟨hb, ?_, ?_, ?_⟩
    · simp only [refDelta]
      omega
    · simp only [refDelta, if_true]
      omega
    · simp only [refDelta, if_true]
      omega
  | false =>
    refine ⟨hb, ?_, ?_, ?_, ?_⟩
    · simp only [refDelta]
      omega
    · simp only [refDelta, Bool.false_eq_true, if_false]
      omega
    · simp only [refDelta, Bool.false_eq_true, if_false]
      omega
    · simp only [refDelta, Bool.false_eq_true, if_false]
      omega

/-- Frames of the gateway's own leave the account as it was. -/
theorem moves_ownTraffic {P : Port → Mbuf → Prop} {ev : List (Event Mbuf)} (h : OwnTraffic P ev)
    (hb : 0 ≤ b) : Moves (refDelta x) b ev b := by
  induction h with
  | nil => exact .nil hb
  | @returned buf buf' hid =>
    have hmark := mark_nonneg x buf
    have hfree := moves_free (b := b + mark x buf) (x := x) buf' (by rw [mark_congr hid]; omega)
    rw [mark_congr hid, Int.add_sub_cancel] at hfree
    exact ⟨hb, hfree⟩
  | @sent buf f port accepted hid _ =>
    have hmark := mark_nonneg x buf
    have hsent := moves_txEvents (b := b + mark x buf) (x := x) port f accepted
      (by rw [mark_congr hid]; omega)
    rw [mark_congr hid, Int.add_sub_cancel] at hsent
    exact ⟨hb, hsent⟩
  | append _ _ ih ih' => exact ih.append ih'

end Events

/-! ## The slots -/

/-- One when the slot holds buffer `x`. -/
def ArqSendEntry.mark (x : Nat) (e : ArqSendEntry Mbuf) : Int :=
  e.mbuf.elim 0 (Processor.mark x)

theorem entryMark_nonneg (x : Nat) (e : ArqSendEntry Mbuf) : 0 ≤ ArqSendEntry.mark x e := by
  unfold ArqSendEntry.mark
  cases e.mbuf with
  | none => exact le_rfl
  | some m => exact mark_nonneg x m

/-- How many slots of a context hold buffer `x`. -/
def ctxHolding (x : Nat) (arq : ArqContext Mbuf) : Int :=
  ∑ k, ArqSendEntry.mark x (arq.sendWindow.cell k)

/-- How many slots of all contexts hold buffer `x`. -/
def holding (x : Nat) (mgr : ArqManager Mbuf) : Int := ∑ i, ctxHolding x (mgr.contexts i)

theorem ctxHolding_nonneg (x : Nat) (arq : ArqContext Mbuf) : 0 ≤ ctxHolding x arq :=
  Finset.sum_nonneg fun k _ => entryMark_nonneg x (arq.sendWindow.cell k)

theorem holding_nonneg (x : Nat) (mgr : ArqManager Mbuf) : 0 ≤ holding x mgr :=
  Finset.sum_nonneg fun i _ => ctxHolding_nonneg x (mgr.contexts i)

theorem ctxHolding_le_holding (x : Nat) (mgr : ArqManager Mbuf) (i : Fin maxQpCtx) :
    ctxHolding x (mgr.contexts i) ≤ holding x mgr :=
  Finset.single_le_sum (f := fun i => ctxHolding x (mgr.contexts i))
    (fun i _ => ctxHolding_nonneg x (mgr.contexts i)) (Finset.mem_univ i)

theorem cell_eq_entry (arq : ArqContext Mbuf) (k : Fin windowSize) :
    arq.sendWindow.cell k = arq.entry k := by
  rw [ArqContext.entry, Ring.get, Ring.slot, Fin.ofNat_val_eq_self]

/-- Contexts with the same buffers in their slots. -/
theorem ctxHolding_congr {x : Nat} {arq arq' : ArqContext Mbuf}
    (h : ∀ k, (arq'.entry k).mbuf = (arq.entry k).mbuf) : ctxHolding x arq' = ctxHolding x arq := by
  refine Finset.sum_congr rfl fun k _ => ?_
  rw [cell_eq_entry, cell_eq_entry, ArqSendEntry.mark, ArqSendEntry.mark, h]

/-- Contexts that differ in the slot of one sequence number. -/
theorem ctxHolding_set {x : Nat} {arq arq' : ArqContext Mbuf} {i : Nat} {e : ArqSendEntry Mbuf}
    (h : arq'.sendWindow = arq.sendWindow.set i e) :
    ctxHolding x arq' + ArqSendEntry.mark x (arq.entry i) =
      ctxHolding x arq + ArqSendEntry.mark x e := by
  have hsum := sum_update (ArqSendEntry.mark x) arq.sendWindow.cell (Ring.slot windowSize i) e
  rw [ctxHolding, h]
  exact hsum

theorem holding_setContext (x : Nat) (mgr : ArqManager Mbuf) (i : Fin maxQpCtx)
    (ctx : ArqContext Mbuf) :
    holding x (mgr.setContext i ctx) + ctxHolding x (mgr.contexts i) =
      holding x mgr + ctxHolding x ctx :=
  sum_update (ctxHolding x) mgr.contexts i ctx

theorem ctxHolding_fresh (x qpn : Nat) : ctxHolding x (.fresh qpn) = 0 :=
  Finset.sum_eq_zero fun _ _ => rfl

/-! ## The handlers -/

/-- In every slot, in flight means holding a buffer. -/
def FlightHeld (arq : ArqContext Mbuf) : Prop :=
  ∀ k, (arq.entry k).inFlight = true ↔ (arq.entry k).mbuf.isSome = true

/-- From context `arq` and trace to the ones after, with `rest` the slots of the
other contexts: the account follows the slots. -/
structure Settles (x : Nat) (rest : Int) (arq : ArqContext Mbuf) (io : Io Mbuf)
    (r : ArqContext Mbuf × Io Mbuf) (ev : List (Event Mbuf)) : Prop where
  trace : r.2.trace = io.trace ++ ev
  moves : Moves (refDelta x) (rest + ctxHolding x arq) ev (rest + ctxHolding x r.1)

section Handlers

variable {x : Nat} {rest : Int} {arq : ArqContext Mbuf} {io : Io Mbuf}

theorem Settles.refl (hrest : 0 ≤ rest) : Settles x rest arq io (arq, io) [] := by
  have hnonneg := ctxHolding_nonneg x arq
  exact ⟨by simp, .nil (by omega)⟩

theorem Settles.trans {r r' : ArqContext Mbuf × Io Mbuf} {ev : List (Event Mbuf)}
    (h : Settles x rest arq io r ev) (h' : ∃ ev', Settles x rest r.1 r.2 r' ev') :
    ∃ ev', Settles x rest arq io r' ev' := by
  obtain ⟨ev', h'⟩ := h'
  exact ⟨ev ++ ev', by rw [h'.trace, h.trace, List.append_assoc], h.moves.append h'.moves⟩

/-- Giving back the buffer of one slot. -/
theorem settles_release (hrest : 0 ≤ rest) {arq' : ArqContext Mbuf} {i : Nat}
    (h : arq'.sendWindow = arq.sendWindow.set i (arq.entry i).released) :
    Settles x rest arq io (arq', freeOpt (arq.entry i).mbuf io)
      ((arq.entry i).mbuf.toList.map .free) := by
  have hset := ctxHolding_set (x := x) h
  have hnonneg := ctxHolding_nonneg x arq'
  have hzero : ArqSendEntry.mark x (arq.entry i).released = 0 := rfl
  refine ⟨freeOpt_trace _ _, ?_⟩
  cases hm : (arq.entry i).mbuf with
  | none =>
    have hnone : ArqSendEntry.mark x (arq.entry i) = 0 := by
      rw [ArqSendEntry.mark, hm]
      rfl
    rw [show ctxHolding x arq' = ctxHolding x arq by omega]
    exact .nil (by omega)
  | some m =>
    have hsome : ArqSendEntry.mark x (arq.entry i) = mark x m := by
      rw [ArqSendEntry.mark, hm]
      rfl
    rw [show rest + ctxHolding x arq' = rest + ctxHolding x arq - mark x m by omega]
    exact moves_free m (by omega)

/-- Whatever changes but the buffers. -/
theorem settles_same (hrest : 0 ≤ rest) {arq' : ArqContext Mbuf}
    (h : ∀ k, (arq'.entry k).mbuf = (arq.entry k).mbuf) : Settles x rest arq io (arq', io) [] := by
  have hnonneg := ctxHolding_nonneg x arq
  refine ⟨by simp, ?_⟩
  rw [ctxHolding_congr h]
  exact .nil (by omega)

/-- Transmitting a buffer again. -/
theorem settles_retransmit (hrest : 0 ≤ rest) {arq' : ArqContext Mbuf} (m : Mbuf)
    (h : ∀ k, (arq'.entry k).mbuf = (arq.entry k).mbuf) :
    Settles x rest arq io (arq', (txKeeping m io).2) (keepEvents m (txKeeping m io).1) := by
  have hnonneg := ctxHolding_nonneg x arq
  refine ⟨(txKeeping_trace m io).1, ?_⟩
  rw [ctxHolding_congr h]
  exact moves_keepEvents m _ (by omega)

theorem arqAckLoop_settles (hrest : 0 ≤ rest) (ackPsn : Nat) :
    ∀ (fuel : Nat) (arq : ArqContext Mbuf) (io : Io Mbuf),
      ∃ ev, Settles x rest arq io (arqAckLoop ackPsn fuel arq io) ev := by
  intro fuel
  induction fuel with
  | zero => exact fun arq io => ⟨[], .refl hrest⟩
  | succ fuel ih =>
    intro arq io
    rw [arqAckLoop]
    split
    · split
      · exact ⟨[], .refl hrest⟩
      · have hpop : Settles x rest arq io (arqPop arq io) _ :=
          settles_release (i := arq.sendBase) hrest rfl
        exact hpop.trans (ih _ _)
    · exact ⟨[], .refl hrest⟩

/-- A loop each of whose rounds settles the account settles it. -/
theorem foldl_settles (hrest : 0 ≤ rest) {ι : Type} {arq : ArqContext Mbuf}
    {g : Io Mbuf → ι → Io Mbuf} (hg : ∀ io i, ∃ ev, Settles x rest arq io (arq, g io i) ev)
    (is : List ι) : ∀ io : Io Mbuf, ∃ ev, Settles x rest arq io (arq, is.foldl g io) ev := by
  induction is with
  | nil => exact fun io => ⟨[], .refl hrest⟩
  | cons i is ih =>
    intro io
    obtain ⟨ev, hev⟩ := hg io i
    exact hev.trans (ih (g io i))

theorem arqHandleNack_settles (hrest : 0 ≤ rest) (arq : ArqContext Mbuf) (nackPsn : Nat)
    (io : Io Mbuf) : ∃ ev, Settles x rest arq io (arqHandleNack arq nackPsn io).2 ev := by
  have hsame := arqNackScan_sameWindow nackPsn arq.seqs ⟨arq, io, []⟩
  have htrace := arqNackScan_trace nackPsn arq.seqs ⟨arq, io, []⟩
  rw [arqHandleNack]
  generalize arq.seqs.foldl (arqNackSelect nackPsn) ⟨arq, io, []⟩ = s at hsame htrace
  have hscan : Settles x rest arq io (s.arq, s.io) [] := by
    have hnonneg := ctxHolding_nonneg x arq
    have hmbuf : ctxHolding x s.arq = ctxHolding x arq := by
      apply ctxHolding_congr
      intro k
      obtain ⟨t, r, hk⟩ := hsame.entry k
      rw [hk]
    refine ⟨by simpa using htrace, ?_⟩
    rw [hmbuf]
    exact .nil (by omega)
  refine hscan.trans (foldl_settles hrest (fun io idx => ?_) s.retransIdx s.io)
  cases (s.arq.sendWindow.get idx).mbuf with
  | none => exact ⟨[], .refl hrest⟩
  | some m => exact ⟨_, settles_retransmit hrest m fun _ => rfl⟩

theorem arqTimeoutVisit_settles (hrest : 0 ≤ rest) (now timeout i : Nat) (arq : ArqContext Mbuf)
    (io : Io Mbuf) : ∃ ev, Settles x rest arq io (arqTimeoutVisit now timeout (arq, io) i) ev := by
  unfold arqTimeoutVisit
  dsimp only
  split
  · rename_i hdue
    split
    · rename_i hretry
      have hkeep : ∀ k, (ArqContext.entry { arq with
          sendWindow := arq.sendWindow.set i (timeoutEntry now timeout (arq.sendWindow.get i))
          totalRetransmit := arq.totalRetransmit + 1 } k).mbuf = (arq.entry k).mbuf := by
        intro k
        simp only [ArqContext.entry, Ring.get_set]
        split
        · rename_i hk
          rw [Ring.get_congr (r := arq.sendWindow) hk, timeoutEntry, if_pos hdue, if_pos hretry]
        · rfl
      cases (arq.sendWindow.get i).mbuf with
      | none => exact ⟨[], settles_same hrest hkeep⟩
      | some m => exact ⟨_, settles_retransmit hrest m hkeep⟩
    · rename_i hretry
      refine ⟨_, settles_release (i := i) hrest ?_⟩
      rw [timeoutEntry, if_pos hdue, if_neg hretry]
      rfl
  · exact ⟨[], .refl hrest⟩

theorem timeoutFold_settles (hrest : 0 ≤ rest) (now timeout : Nat) (is : List Nat) :
    ∀ (arq : ArqContext Mbuf) (io : Io Mbuf),
      ∃ ev, Settles x rest arq io (is.foldl (arqTimeoutVisit now timeout) (arq, io)) ev := by
  induction is with
  | nil => exact fun arq io => ⟨[], .refl hrest⟩
  | cons i is ih =>
    intro arq io
    obtain ⟨ev, hev⟩ := arqTimeoutVisit_settles (x := x) hrest now timeout i arq io
    exact hev.trans (ih _ _)

theorem arqCheckTimeouts_settles (hrest : 0 ≤ rest) (arq : ArqContext Mbuf) (io : Io Mbuf) :
    ∃ ev, Settles x rest arq io (arqCheckTimeouts arq io) ev := by
  obtain ⟨ev, hev⟩ := timeoutFold_settles (x := x) hrest (tickNow io) (timeoutCycles io) arq.seqs
    arq (rteRdtsc io).2
  exact ⟨ev, hev.trace, hev.moves⟩

end Handlers

/-! ## Slots only empty between admissions -/

/-- A handler that keeps the buffer of a slot or gives it up. -/
structure Drains (arq arq' : ArqContext Mbuf) : Prop where
  entry : ∀ k, (arq'.entry k).inFlight = (arq.entry k).inFlight ∧
      (arq'.entry k).mbuf = (arq.entry k).mbuf ∨
    (arq'.entry k).inFlight = false ∧ (arq'.entry k).mbuf = none

theorem arqHandleAck_drains (arq : ArqContext Mbuf) (psn : Nat) (io : Io Mbuf) :
    Drains arq (arqHandleAck arq psn io).1 := by
  refine ⟨fun k => ?_⟩
  rcases arqHandleAck_entry arq psn io k with h | ⟨-, h⟩
  · exact Or.inl (by rw [h]; exact ⟨rfl, rfl⟩)
  · exact Or.inr (by rw [h]; exact ⟨rfl, rfl⟩)

theorem arqHandleNack_drains (arq : ArqContext Mbuf) (psn : Nat) (io : Io Mbuf) :
    Drains arq (arqHandleNack arq psn io).2.1 := by
  refine ⟨fun k => Or.inl ?_⟩
  obtain ⟨t, r, h⟩ := (arqHandleNack_sameWindow arq psn io).entry k
  rw [h]
  exact ⟨rfl, rfl⟩

theorem arqCheckTimeouts_drains (arq : ArqContext Mbuf) (io : Io Mbuf) :
    Drains arq (arqCheckTimeouts arq io).1 := by
  refine ⟨fun k => ?_⟩
  have hk := (arqCheckTimeouts_spec arq io).2.2.2 k
  rw [hk]
  split
  · rcases timeoutEntry_cases (tickNow io) (timeoutCycles io) (arq.entry k) with
      ⟨t, r, h⟩ | ⟨-, h⟩
    · exact Or.inl (by rw [h]; exact ⟨rfl, rfl⟩)
    · exact Or.inr (by rw [h]; exact ⟨rfl, rfl⟩)
  · exact Or.inl ⟨rfl, rfl⟩

theorem Drains.flightHeld {arq arq' : ArqContext Mbuf} (h : Drains arq arq')
    (hheld : FlightHeld arq) : FlightHeld arq' := by
  intro k
  rcases h.entry k with ⟨hflight, hmbuf⟩ | ⟨hflight, hmbuf⟩
  · rw [hflight, hmbuf]
    exact hheld k
  · rw [hflight, hmbuf]
    simp

theorem Drains.ctxHolding_le {arq arq' : ArqContext Mbuf} (h : Drains arq arq') (x : Nat) :
    ctxHolding x arq' ≤ ctxHolding x arq := by
  refine Finset.sum_le_sum fun k _ => ?_
  rw [cell_eq_entry, cell_eq_entry]
  rcases h.entry k with ⟨-, hmbuf⟩ | ⟨-, hmbuf⟩
  · rw [ArqSendEntry.mark, ArqSendEntry.mark, hmbuf]
  · have hnonneg := entryMark_nonneg x (arq.entry k)
    rw [ArqSendEntry.mark, hmbuf]
    exact hnonneg

/-! ## One step -/

/-- What the windows of a core satisfy between steps. -/
structure WindowsInv (mgr : ArqManager Mbuf) : Prop where
  unused : UnusedFresh mgr
  held : ∀ i, FlightHeld (mgr.contexts i)

theorem windowsInv_init : WindowsInv arqMgrInit :=
  ⟨unusedFresh_init, fun _ _ => by simp [arqMgrInit, ArqContext.fresh, ArqContext.entry,
    ArqSendEntry.zero]⟩

theorem WindowsInv.setContext {mgr : ArqManager Mbuf} (h : WindowsInv mgr) {i : Fin maxQpCtx}
    {ctx : ArqContext Mbuf} (hunused : UnusedFresh (mgr.setContext i ctx))
    (hheld : FlightHeld ctx) : WindowsInv (mgr.setContext i ctx) := by
  refine ⟨hunused, fun j => ?_⟩
  by_cases hji : j = i
  · subst hji
    rwa [setContext_contexts_self]
  · rw [setContext_contexts_of_ne _ _ hji]
    exact h.held j

/-- Opening a context loses no buffer and breaks no slot. -/
theorem WindowsInv.getOrCreate {mgr mgr₁ : ArqManager Mbuf} {qpn : Nat} {i : Fin maxQpCtx}
    (h : WindowsInv mgr) (hq : qpn ≠ 0) (hget : arqGetOrCreate mgr qpn = (some i, mgr₁)) :
    WindowsInv mgr₁ ∧ ∀ x, holding x mgr₁ = holding x mgr := by
  obtain ⟨-, hother, hself⟩ := arqGetOrCreate_some h.unused hget
  have hmgr : mgr₁ = mgr.setContext i (mgr₁.contexts i) := by
    cases mgr₁
    simp only [ArqManager.setContext, ArqManager.mk.injEq]
    funext j
    by_cases hji : j = i
    · subst hji
      simp
    · simpa [hji] using hother j hji
  have hunused := h.unused.getOrCreate hq hget
  refine ⟨⟨hunused, fun j => ?_⟩, fun x => ?_⟩
  · by_cases hji : j = i
    · subst hji
      rcases hself with heq | ⟨-, heq⟩
      · rw [heq]
        exact h.held j
      · rw [heq]
        exact windowsInv_init.held j
    · rw [hother j hji]
      exact h.held j
  · have hset := holding_setContext x mgr i (mgr₁.contexts i)
    rw [← hmgr] at hset
    rcases hself with heq | ⟨hold, heq⟩
    · rw [heq] at hset
      omega
    · rw [heq, hold, ctxHolding_fresh, ctxHolding_fresh] at hset
      omega

/-- The admission to the window: the slots hold one buffer more, or the same. -/
theorem Tracks.holding {mgr mgr' : ArqManager Mbuf} {w : Mbuf} {qpn psn peerIp : Nat}
    {ty : WriteSegmentType} {rc : Int} (h : Tracks mgr w qpn psn ty peerIp rc mgr')
    (hinv : WindowsInv mgr) (hq : qpn ≠ 0) :
    WindowsInv mgr' ∧ ((rc = 0 ∧ ∀ x, holding x mgr' = holding x mgr + mark x w) ∨
      (rc ≠ 0 ∧ ∀ x, holding x mgr' = holding x mgr)) := by
  have hunused := h.unusedFresh hinv.unused hq
  cases h with
  | noContext hget =>
    rw [arqGetOrCreate_none hget]
    exact ⟨hinv, Or.inr ⟨by decide, fun _ => rfl⟩⟩
  | @noSlot i mgr₁ hget hbusy =>
    obtain ⟨hinv₁, hsame⟩ := hinv.getOrCreate hq hget
    refine ⟨hinv₁.setContext hunused (hinv₁.held i), Or.inr ⟨by decide, fun x => ?_⟩⟩
    have hset := holding_setContext x mgr₁ i (arqSetPeerIp (mgr₁.contexts i) peerIp)
    have hpeer : ctxHolding x (arqSetPeerIp (mgr₁.contexts i) peerIp) =
        ctxHolding x (mgr₁.contexts i) := rfl
    have hx := hsame x
    omega
  | @stored i mgr₁ now hget hroom =>
    obtain ⟨hinv₁, hsame⟩ := hinv.getOrCreate hq hget
    have hempty : ((mgr₁.contexts i).entry (mgr₁.contexts i).sendNext).mbuf = none := by
      have hiff := hinv₁.held i (mgr₁.contexts i).sendNext
      rw [hroom] at hiff
      simpa using hiff
    refine ⟨hinv₁.setContext hunused fun k => ?_, Or.inl ⟨rfl, fun x => ?_⟩⟩
    · have hentry := sent_entry (mgr₁.contexts i) w psn ty now k
      change ((ArqContext.sent _ _ _ _ _).entry k).inFlight = true ↔
        ((ArqContext.sent _ _ _ _ _).entry k).mbuf.isSome = true
      rw [hentry]
      split
      · simp
      · exact hinv₁.held i k
    · have hset := holding_setContext x mgr₁ i
        (arqSetPeerIp ((mgr₁.contexts i).sent w psn ty now) peerIp)
      have hslot : ctxHolding x (arqSetPeerIp ((mgr₁.contexts i).sent w psn ty now) peerIp) + _ =
          ctxHolding x (mgr₁.contexts i) + _ := ctxHolding_set rfl
      have hold : ArqSendEntry.mark x ((mgr₁.contexts i).entry (mgr₁.contexts i).sendNext) = 0 := by
        rw [ArqSendEntry.mark, hempty]
        rfl
      have hnew : ArqSendEntry.mark x ⟨psn, some w, now, 0, ty, true⟩ = mark x w := rfl
      have hx := hsame x
      omega

/-- The buffers that arrive with a step. -/
def LanOp.receives : LanOp → List Mbuf
  | .rx m => [m]
  | _ => []

/-- How many buffers named `x` arrive with a step. -/
def LanOp.mark (x : Nat) (op : LanOp) : Int := balance (Processor.mark x) op.receives

theorem lan_rx_moves {s : ProcessorContext × Host} (hinv : WindowsInv s.1.arqMgr) (m : Mbuf)
    (hq : m.isRoceWrite → m.bthGetQpn ≠ 0) (x : Nat) :
    WindowsInv (lanStep s (.rx m)).1.arqMgr ∧
      holding x (lanStep s (.rx m)).1.arqMgr ≤ holding x s.1.arqMgr + mark x m ∧
      Moves (refDelta x) (holding x s.1.arqMgr + mark x m) (newEvents s (lanStep s (.rx m)))
        (holding x (lanStep s (.rx m)).1.arqMgr) := by
  have hhold := holding_nonneg x s.1.arqMgr
  have hmark := mark_nonneg x m
  cases lan_outcome s.1 m s.2 with
  | freed _ hkeep hadds =>
    rw [newEvents_of_adds (show Adds s.2 (lanStep s (.rx m)).2 _ from hadds)]
    have hmoves := moves_free (x := x) (b := holding x s.1.arqMgr + mark x m) m (by omega)
    rw [Int.add_sub_cancel] at hmoves
    rw [lanStep, hkeep.arqMgr]
    exact ⟨hinv, by omega, hmoves⟩
  | @passed evArp m' accepted _ hkeep hown hm hadds =>
    rw [newEvents_of_adds (show Adds s.2 (lanStep s (.rx m)).2 _ from hadds)]
    have hmark' : mark x m' = mark x m := mark_congr hm.1
    have hmoves := (moves_ownTraffic (x := x) (b := holding x s.1.arqMgr + mark x m) hown
      (by omega)).append (moves_txEvents .wan m' accepted (by omega))
    rw [hmark', Int.add_sub_cancel] at hmoves
    rw [lanStep, hkeep.arqMgr]
    exact ⟨hinv, by omega, hmoves⟩
  | @forwarded i qpMgr before after w inWindow accepted hwrite _ _ hfwd =>
    rw [newEvents_of_adds (show Adds s.2 (lanStep s (.rx m)).2 _ from hfwd.adds)]
    have hmark' : mark x w = mark x m := mark_congr hfwd.readdressed.1
    obtain ⟨hinv', hcases⟩ := hfwd.tracks.holding hinv (hq hwrite)
    have hbefore := moves_ownTraffic (x := x) (b := holding x s.1.arqMgr + mark x m) hfwd.own
      (by omega)
    rcases hcases with ⟨hrc, hsame⟩ | ⟨hrc, hsame⟩
    · have hx := hsame x
      rw [hmark'] at hx
      have hsent := moves_keepEvents (x := x) (b := holding x s.1.arqMgr + mark x m) w accepted
        (by omega)
      have hafter := moves_ownTraffic (x := x) (b := holding x s.1.arqMgr + mark x m) hfwd.cnps
        (by omega)
      rw [forwardEvents, if_pos hrc]
      refine ⟨hinv', hx.le, ?_⟩
      rw [lanStep, hx]
      exact (hbefore.append hsent).append hafter
    · have hx : holding x (procProcessLanRx s.1 m s.2).1.arqMgr = holding x s.1.arqMgr := hsame x
      have hsent := moves_txEvents (x := x) (b := holding x s.1.arqMgr + mark x m) .wan w accepted
        (by omega)
      rw [hmark', Int.add_sub_cancel] at hsent
      have hafter := moves_ownTraffic (x := x) hfwd.cnps hhold
      rw [forwardEvents, if_neg hrc]
      refine ⟨hinv', hx.trans_le (by omega), ?_⟩
      rw [lanStep, hx]
      exact (hbefore.append hsent).append hafter

/-- A handler on one context. -/
theorem handler_moves {s : ProcessorContext × Host} (hinv : WindowsInv s.1.arqMgr)
    (i : Fin maxQpCtx) {r : ArqContext Mbuf × Io Mbuf}
    (hunused : UnusedFresh (withContext s i r).1.arqMgr)
    (hdrains : Drains (s.1.arqMgr.contexts i) r.1) {x : Nat}
    (hsettles : ∃ ev, Settles x (holding x s.1.arqMgr - ctxHolding x (s.1.arqMgr.contexts i))
      (s.1.arqMgr.contexts i) s.2.io r ev) :
    WindowsInv (withContext s i r).1.arqMgr ∧
      holding x (withContext s i r).1.arqMgr ≤ holding x s.1.arqMgr ∧
      Moves (refDelta x) (holding x s.1.arqMgr) (newEvents s (withContext s i r))
        (holding x (withContext s i r).1.arqMgr) := by
  obtain ⟨ev, hev⟩ := hsettles
  have hset : holding x (withContext s i r).1.arqMgr + ctxHolding x (s.1.arqMgr.contexts i) =
      holding x s.1.arqMgr + ctxHolding x r.1 := holding_setContext x s.1.arqMgr i r.1
  have hle := hdrains.ctxHolding_le x
  have hmoves := hev.moves
  rw [Int.sub_add_cancel, show holding x s.1.arqMgr - ctxHolding x (s.1.arqMgr.contexts i) +
    ctxHolding x r.1 = holding x (withContext s i r).1.arqMgr by omega] at hmoves
  refine ⟨hinv.setContext hunused (hdrains.flightHeld (hinv.held i)), by omega, ?_⟩
  rw [newEvents_of_trace hev.trace]
  exact hmoves

/-- One step moves the account from the slots before, and the buffer that arrives,
to the slots after. -/
theorem lan_step_moves {s : ProcessorContext × Host} (hinv : WindowsInv s.1.arqMgr) {op : LanOp}
    (hop : op.NonzeroQpn) (x : Nat) :
    WindowsInv (lanStep s op).1.arqMgr ∧
      holding x (lanStep s op).1.arqMgr ≤ holding x s.1.arqMgr + op.mark x ∧
      Moves (refDelta x) (holding x s.1.arqMgr + op.mark x) (newEvents s (lanStep s op))
        (holding x (lanStep s op).1.arqMgr) := by
  have hunused : UnusedFresh (lanStep s op).1.arqMgr := hinv.unused.step hop
  have hrest : ∀ i, 0 ≤ holding x s.1.arqMgr - ctxHolding x (s.1.arqMgr.contexts i) := by
    intro i
    have hle := ctxHolding_le_holding x s.1.arqMgr i
    omega
  cases op with
  | rx m =>
    have hmark : LanOp.mark x (.rx m) = mark x m := by simp [LanOp.mark, LanOp.receives]
    rw [hmark]
    exact lan_rx_moves hinv m hop x
  | ack i psn =>
    have hmark : LanOp.mark x (.ack i psn) = 0 := rfl
    rw [hmark, Int.add_zero]
    exact handler_moves hinv i hunused (arqHandleAck_drains _ _ _)
      (arqAckLoop_settles (hrest i) psn _ _ _)
  | nack i psn =>
    have hmark : LanOp.mark x (.nack i psn) = 0 := rfl
    rw [hmark, Int.add_zero]
    exact handler_moves hinv i hunused (arqHandleNack_drains _ _ _)
      (arqHandleNack_settles (hrest i) _ psn _)
  | timeouts i =>
    have hmark : LanOp.mark x (.timeouts i) = 0 := rfl
    rw [hmark, Int.add_zero]
    exact handler_moves hinv i hunused (arqCheckTimeouts_drains _ _)
      (arqCheckTimeouts_settles (hrest i) _ _)

/-! ## Reference counts over whole runs -/

/-- What bears on the reference counts: a buffer arrives, the gateway acts, the NIC
completes a transmission of buffer `x`. -/
inductive LogEntry where
  | received (m : Mbuf)
  | did (e : Event Mbuf)
  | completed (x : Nat)

/-- What an entry adds to the reference count of buffer `x`. -/
def countDelta (x : Nat) : LogEntry → Int
  | .received m => mark x m
  | .did (.alloc m) => mark x m
  | .did (.free m) => - mark x m
  | .did (.refcntUpdate m d) => mark x m * d
  | .did (.txBurst _ _ _) => 0
  | .completed y => if y = x then -1 else 0

/-- What an entry adds to the transmissions of buffer `x` that were accepted and
have not completed. -/
def nicDelta (x : Nat) : LogEntry → Int
  | .did (.txBurst _ m true) => mark x m
  | .completed y => if y = x then -1 else 0
  | _ => 0

/-- The reference count of buffer `x`. -/
def refcount (x : Nat) (log : List LogEntry) : Int := balance (countDelta x) log

/-- The accepted, not yet completed transmissions of buffer `x`. -/
def outstanding (x : Nat) (log : List LogEntry) : Int := balance (nicDelta x) log

/-- A LAN core with the log of its references. -/
structure LoggedCore where
  core : ProcessorContext × Host
  log : List LogEntry

/-- A step of the core, or a completion by the NIC. -/
inductive LoggedOp where
  | lan (op : LanOp)
  | completes (x : Nat)

/-- One step, with what it adds to the log. -/
def loggedStep (r : LoggedCore) : LoggedOp → LoggedCore
  | .lan op =>
    ⟨lanStep r.core op, r.log ++ (op.receives.map .received ++
      (newEvents r.core (lanStep r.core op)).map .did)⟩
  | .completes x => ⟨r.core, r.log ++ [.completed x]⟩

/-- What is assumed of a step: WRITEs with nonzero QPNs, a received buffer that was not
received before, and completions of accepted transmissions only. -/
def StepOk (r : LoggedCore) : LoggedOp → Prop
  | .lan op => op.NonzeroQpn ∧ ∀ m ∈ op.receives, ∀ m', .received m' ∈ r.log → m'.id ≠ m.id
  | .completes x => 0 < outstanding x r.log

/-- A core after `proc_init`. -/
def LoggedCore.init (host : Host) (lcoreId : Nat) : LoggedCore :=
  ⟨(procInit host lcoreId true, host), []⟩

/-- The references the gateway itself holds to buffer `x`. -/
def ownDelta (x : Nat) : LogEntry → Int
  | .received m => mark x m
  | .did e => refDelta x e
  | .completed _ => 0

/-- How often buffer `x` was received. -/
def receivedDelta (x : Nat) : LogEntry → Int
  | .received m => mark x m
  | _ => 0

theorem countDelta_eq (x : Nat) (e : LogEntry) : countDelta x e = ownDelta x e + nicDelta x e := by
  cases e with
  | received m => simp [countDelta, ownDelta, nicDelta]
  | completed y => simp [countDelta, ownDelta, nicDelta]
  | did e =>
    cases e with
    | txBurst port m accepted =>
      cases accepted <;> simp [countDelta, ownDelta, nicDelta, refDelta]
    | alloc m => simp [countDelta, ownDelta, nicDelta, refDelta]
    | free m => simp [countDelta, ownDelta, nicDelta, refDelta]
    | refcntUpdate m d => simp [countDelta, ownDelta, nicDelta, refDelta]

theorem refcount_eq (x : Nat) (log : List LogEntry) :
    refcount x log = balance (ownDelta x) log + outstanding x log := by
  induction log with
  | nil => rfl
  | cons e log ih =>
    simp only [refcount, outstanding, balance_cons] at ih ⊢
    rw [ih, countDelta_eq]
    omega

/-- The invariant of a run. -/
structure RefInv (r : LoggedCore) : Prop where
  windows : WindowsInv r.core.1.arqMgr
  own : ∀ x, Moves (ownDelta x) 0 r.log (holding x r.core.1.arqMgr)
  nic : ∀ x, ∃ n, Moves (nicDelta x) 0 r.log n
  arrivals : ∀ x, holding x r.core.1.arqMgr ≤ balance (receivedDelta x) r.log ∧
    balance (receivedDelta x) r.log ≤ 1

theorem refInv_init (host : Host) (lcoreId : Nat) : RefInv (.init host lcoreId) := by
  have hzero : ∀ x, holding x arqMgrInit = 0 :=
    fun x => Finset.sum_eq_zero fun _ _ => ctxHolding_fresh x 0
  refine ⟨windowsInv_init, fun x => ?_, fun x => ⟨0, .nil le_rfl⟩, fun x => ?_⟩
  · change Moves (ownDelta x) 0 [] (holding x arqMgrInit)
    rw [hzero]
    exact .nil le_rfl
  · exact ⟨(hzero x).le, Int.zero_le_ofNat 1⟩

theorem opMark_nonneg (x : Nat) (op : LanOp) : 0 ≤ op.mark x := by
  cases op with
  | rx m => simpa [LanOp.mark, LanOp.receives] using mark_nonneg x m
  | ack i psn => exact le_rfl
  | nack i psn => exact le_rfl
  | timeouts i => exact le_rfl

/-- The arrival pays its reference in. -/
theorem moves_received (x : Nat) (op : LanOp) {b : Int} (hb : 0 ≤ b) :
    Moves (ownDelta x) b (op.receives.map .received) (b + op.mark x) := by
  have hmark := opMark_nonneg x op
  cases op with
  | rx m =>
    have hrx : LanOp.mark x (.rx m) = mark x m := by simp [LanOp.mark, LanOp.receives]
    rw [hrx] at hmark ⊢
    exact ⟨hb, by simp only [ownDelta]; omega, rfl⟩
  | ack i psn => exact ⟨hb, by simp [LanOp.mark, LanOp.receives]⟩
  | nack i psn => exact ⟨hb, by simp [LanOp.mark, LanOp.receives]⟩
  | timeouts i => exact ⟨hb, by simp [LanOp.mark, LanOp.receives]⟩

/-- What a step of the core adds to the count of arrivals. -/
theorem receivedDelta_step (x : Nat) (op : LanOp) (ev : List (Event Mbuf)) :
    balance (receivedDelta x) (op.receives.map .received ++ ev.map .did) = op.mark x := by
  have hdid : balance (receivedDelta x) (ev.map .did) = 0 := by
    apply balance_eq_zero
    intro e he
    obtain ⟨e', -, rfl⟩ := List.mem_map.mp he
    rfl
  have hrec : balance (receivedDelta x) (op.receives.map .received) = op.mark x := by
    rw [LanOp.mark, balance, balance, List.map_map]
    rfl
  rw [balance_append, hdid, hrec, Int.add_zero]

/-- A buffer that arrives now and never before. -/
theorem arrivals_le_one {x : Nat} {op : LanOp} {log : List LogEntry}
    (hnew : ∀ m ∈ op.receives, ∀ m', .received m' ∈ log → m'.id ≠ m.id)
    (hlog : balance (receivedDelta x) log ≤ 1) :
    balance (receivedDelta x) log + op.mark x ≤ 1 := by
  cases op with
  | rx m =>
    have hrx : LanOp.mark x (.rx m) = mark x m := by simp [LanOp.mark, LanOp.receives]
    rw [hrx, mark]
    split
    · rename_i hid
      have hzero : balance (receivedDelta x) log = 0 := by
        apply balance_eq_zero
        intro e he
        cases e with
        | received m' =>
          have hne := hnew m (by simp [LanOp.receives]) m' he
          rw [hid] at hne
          simp [receivedDelta, mark, hne]
        | did e => rfl
        | completed y => rfl
      omega
    · omega
  | ack i psn => simpa [LanOp.mark, LanOp.receives] using hlog
  | nack i psn => simpa [LanOp.mark, LanOp.receives] using hlog
  | timeouts i => simpa [LanOp.mark, LanOp.receives] using hlog

theorem nicDelta_nonneg (x : Nat) (op : LanOp) (ev : List (Event Mbuf)) :
    ∀ e ∈ op.receives.map .received ++ ev.map .did, 0 ≤ nicDelta x e := by
  intro e he
  rcases List.mem_append.mp he with he | he
  · obtain ⟨m, -, rfl⟩ := List.mem_map.mp he
    exact le_rfl
  · obtain ⟨e', -, rfl⟩ := List.mem_map.mp he
    unfold nicDelta
    split
    · exact mark_nonneg _ _
    · rename_i heq
      cases heq
    · exact le_rfl

theorem RefInv.step {r : LoggedCore} (h : RefInv r) {op : LoggedOp} (hok : StepOk r op) :
    RefInv (loggedStep r op) := by
  cases op with
  | lan op =>
    have hstep := fun x => lan_step_moves h.windows hok.1 x
    refine ⟨(hstep 0).1, fun x => ?_, fun x => ?_, fun x => ?_⟩
    · exact (h.own x).append ((moves_received x op (h.own x).final).append
        ((hstep x).2.2.map fun _ => rfl))
    · obtain ⟨n, hn⟩ := h.nic x
      obtain ⟨n', hn'⟩ := moves_of_nonneg hn.final
        (nicDelta_nonneg x op (newEvents r.core (lanStep r.core op)))
      exact ⟨n', hn.append hn'⟩
    · have hle := (hstep x).2.1
      obtain ⟨hhold, hone⟩ := h.arrivals x
      have hsum := receivedDelta_step x op (newEvents r.core (lanStep r.core op))
      change holding x (lanStep r.core op).1.arqMgr ≤ balance _ (r.log ++ _) ∧
        balance _ (r.log ++ _) ≤ 1
      rw [balance_append, hsum]
      exact ⟨by omega, arrivals_le_one hok.2 hone⟩
  | completes y =>
    refine ⟨h.windows, fun x => ?_, fun x => ?_, fun x => ?_⟩
    · have hfinal := (h.own x).final
      refine (h.own x).append ⟨hfinal, ?_⟩
      simp only [ownDelta, Int.add_zero]
      exact .nil hfinal
    · obtain ⟨n, hn⟩ := h.nic x
      have hfinal := hn.final
      refine ⟨n + nicDelta x (.completed y), hn.append (.single hfinal ?_)⟩
      by_cases hyx : y = x
      · subst hyx
        have hpos : 0 < outstanding y r.log := hok
        have heq := hn.eq
        rw [outstanding] at hpos
        simp only [nicDelta, if_true]
        omega
      · simp only [nicDelta, if_neg hyx]
        omega
    · have hsame : balance (receivedDelta x) (r.log ++ [.completed y]) =
          balance (receivedDelta x) r.log := by
        simp [receivedDelta]
      change holding x r.core.1.arqMgr ≤ balance _ (r.log ++ _) ∧ balance _ (r.log ++ _) ≤ 1
      rw [hsame]
      exact h.arrivals x

/-- Between the steps of any run the reference count of every buffer is the number
of slots that hold it plus its outstanding transmissions, a slot is in flight
exactly when it holds a buffer, no buffer is in two slots, and no count was ever
negative. -/
theorem references_accounted (host : Host) (lcoreId : Nat) (ops : List LoggedOp)
    (hops : StepsMeet loggedStep StepOk (.init host lcoreId) ops) :
    let r := run loggedStep (.init host lcoreId) ops
    (∀ x, refcount x r.log = holding x r.core.1.arqMgr + outstanding x r.log) ∧
      (∀ i k, ((r.core.1.arqMgr.contexts i).entry k).inFlight = true ↔
        ((r.core.1.arqMgr.contexts i).entry k).mbuf.isSome = true) ∧
      (∀ x, holding x r.core.1.arqMgr ≤ 1) ∧
      ∀ x p, p <+: r.log → 0 ≤ refcount x p := by
  intro r
  have hinv : RefInv r := run_induction (fun _ _ h hok => h.step hok) (refInv_init _ _) hops
  refine ⟨fun x => ?_, hinv.windows.held, fun x => ?_, fun x p hp => ?_⟩
  · have heq := (hinv.own x).eq
    rw [refcount_eq, heq, Int.zero_add]
  · exact (hinv.arrivals x).1.trans (hinv.arrivals x).2
  · obtain ⟨n, hn⟩ := hinv.nic x
    have hown := (hinv.own x).prefix_nonneg hp
    have hnic := hn.prefix_nonneg hp
    rw [refcount_eq, outstanding]
    omega

/-- A WRITE is forwarded, its transmission completes and an acknowledgement covers
it. -/
theorem references_accounted_ackedWrite :
    let ops : List LoggedOp := [.lan (.rx (writeFrame 1 roceOpcodeWriteOnly 7 0)), .completes 1,
      .lan (.ack 0 0)]
    let r := run loggedStep (.init .unloaded 0) ops
    refcount 1 r.log = holding 1 r.core.1.arqMgr + outstanding 1 r.log ∧
      holding 1 r.core.1.arqMgr ≤ 1 := by
  intro ops r
  have hqpn : (writeFrame 1 roceOpcodeWriteOnly 7 0).bthGetQpn ≠ 0 := by decide +kernel
  have hsent : 0 < outstanding 1 (loggedStep (.init .unloaded 0)
      (.lan (.rx (writeFrame 1 roceOpcodeWriteOnly 7 0)))).log := by decide +kernel
  have hops : StepsMeet loggedStep StepOk (.init .unloaded 0) ops := by
    refine ⟨⟨fun _ => hqpn, fun _ _ m' hm' => ?_⟩, hsent, ⟨trivial, fun m hm => ?_⟩, trivial⟩
    · cases hm'
    · cases hm
  have hall := references_accounted .unloaded 0 ops hops
  exact ⟨hall.1 1, hall.2.2.1 1⟩

end RdmaGateway.Processor
