/-
  Processor/LanRun.lean --- runs of a LAN core.

  A run interleaves the packets `proc_process_lan_rx` receives with the ARQ
  handlers, called on any of the core's contexts.  Contexts are never given back,
  so as long as all QPNs are nonzero an unused context is as `arq_mgr_init` left
  it (`UnusedFresh`), and opening one loses nothing.
-/
import RdmaGateway.Foundation.Run
import RdmaGateway.Arq.Contexts
import RdmaGateway.Processor.LanStep
import RdmaGateway.Processor.Windows

set_option autoImplicit false

namespace RdmaGateway.Processor

open RdmaGateway.Foundation
open RdmaGateway.Dpdk
open RdmaGateway.Wire
open RdmaGateway.Roce
open RdmaGateway.Tunnel
open RdmaGateway.Arq

/-- What can happen on a LAN core. -/
inductive LanOp where
  | rx (m : Mbuf)
  | ack (i : Fin maxQpCtx) (psn : Nat)
  | nack (i : Fin maxQpCtx) (psn : Nat)
  | timeouts (i : Fin maxQpCtx)

/-- Put a context and the environment back after a handler ran on context `i`. -/
def withContext (s : ProcessorContext × Host) (i : Fin maxQpCtx)
    (r : ArqContext Mbuf × Io Mbuf) : ProcessorContext × Host :=
  ({ s.1 with arqMgr := s.1.arqMgr.setContext i r.1 }, { s.2 with io := r.2 })

/-- One step of a LAN core. -/
def lanStep (s : ProcessorContext × Host) : LanOp → ProcessorContext × Host
  | .rx m => procProcessLanRx s.1 m s.2
  | .ack i psn => withContext s i (arqHandleAck (s.1.arqMgr.contexts i) psn s.2.io)
  | .nack i psn => withContext s i (arqHandleNack (s.1.arqMgr.contexts i) psn s.2.io).2
  | .timeouts i => withContext s i (arqCheckTimeouts (s.1.arqMgr.contexts i) s.2.io)

/-- A WRITE of the run carries a nonzero QPN. -/
def LanOp.NonzeroQpn : LanOp → Prop
  | .rx m => m.isRoceWrite → m.bthGetQpn ≠ 0
  | _ => True

theorem newEvents_of_trace {s : ProcessorContext × Host} {i : Fin maxQpCtx}
    {r : ArqContext Mbuf × Io Mbuf} {ev : List (Event Mbuf)}
    (h : r.2.trace = s.2.io.trace ++ ev) : newEvents s (withContext s i r) = ev := by
  rw [newEvents, withContext, h, List.drop_left]

/-! ## Contexts -/

/-- A context without a QPN is as `arq_mgr_init` left it. -/
def UnusedFresh (mgr : ArqManager Mbuf) : Prop :=
  ∀ i, (mgr.contexts i).qpn = 0 → mgr.contexts i = .fresh 0

theorem unusedFresh_init : UnusedFresh arqMgrInit := fun _ _ => rfl

theorem UnusedFresh.setContext {mgr : ArqManager Mbuf} (h : UnusedFresh mgr) {i : Fin maxQpCtx}
    {ctx : ArqContext Mbuf} (hctx : ctx.qpn = 0 → ctx = .fresh 0) :
    UnusedFresh (mgr.setContext i ctx) := by
  intro j hj
  by_cases hji : j = i
  · subst hji
    rw [setContext_contexts_self] at hj ⊢
    exact hctx hj
  · rw [setContext_contexts_of_ne _ _ hji] at hj ⊢
    exact h j hj

/-- The context `arq_get_or_create` returns: one of that QPN, or an unused one that
it sets up; the others stay. -/
theorem arqGetOrCreate_some {mgr mgr₁ : ArqManager Mbuf} {qpn : Nat} {i : Fin maxQpCtx}
    (hfresh : UnusedFresh mgr) (h : arqGetOrCreate mgr qpn = (some i, mgr₁)) :
    (mgr₁.contexts i).qpn = qpn ∧ (∀ j, j ≠ i → mgr₁.contexts j = mgr.contexts j) ∧
      (mgr₁.contexts i = mgr.contexts i ∨
        mgr.contexts i = .fresh 0 ∧ mgr₁.contexts i = .fresh qpn) := by
  have hobtains := arqGetOrCreate_obtains mgr qpn
  rw [h] at hobtains
  cases hobtains with
  | found hfind hqpn => exact ⟨hqpn, fun _ _ => rfl, Or.inl rfl⟩
  | created hnone hunused =>
    have hself := setContext_contexts_self mgr i (.fresh qpn)
    exact ⟨congrArg ArqContext.qpn hself, fun k hk => setContext_contexts_of_ne _ _ hk,
      Or.inr ⟨hfresh i hunused, hself⟩⟩

theorem arqGetOrCreate_none {mgr mgr₁ : ArqManager Mbuf} {qpn : Nat}
    (h : arqGetOrCreate mgr qpn = (none, mgr₁)) : mgr₁ = mgr := by
  have hobtains := arqGetOrCreate_obtains mgr qpn
  rw [h] at hobtains
  cases hobtains with
  | full hnone hused => rfl

theorem UnusedFresh.getOrCreate {mgr mgr₁ : ArqManager Mbuf} {qpn : Nat} {i : Fin maxQpCtx}
    (hfresh : UnusedFresh mgr) (hq : qpn ≠ 0) (h : arqGetOrCreate mgr qpn = (some i, mgr₁)) :
    UnusedFresh mgr₁ := by
  obtain ⟨hqpn, hother, -⟩ := arqGetOrCreate_some hfresh h
  intro j hj
  by_cases hji : j = i
  · subst hji
    exact absurd (hqpn.symm.trans hj) hq
  · rw [hother j hji] at hj ⊢
    exact hfresh j hj

theorem Tracks.unusedFresh {mgr mgr' : ArqManager Mbuf} {w : Mbuf} {qpn psn peerIp : Nat}
    {ty : WriteSegmentType} {rc : Int} (hfresh : UnusedFresh mgr) (hq : qpn ≠ 0)
    (h : Tracks mgr w qpn psn ty peerIp rc mgr') : UnusedFresh mgr' := by
  cases h with
  | noContext hget =>
    rw [arqGetOrCreate_none hget]
    exact hfresh
  | noSlot hget _ =>
    apply (hfresh.getOrCreate hq hget).setContext
    intro hzero
    exact absurd ((arqGetOrCreate_some hfresh hget).1.symm.trans hzero) hq
  | stored now hget _ =>
    apply (hfresh.getOrCreate hq hget).setContext
    intro hzero
    exact absurd ((arqGetOrCreate_some hfresh hget).1.symm.trans hzero) hq

theorem arqCheckTimeouts_empty {arq : ArqContext Mbuf} (h : arq.sendNext ≤ arq.sendBase)
    (io : Io Mbuf) : (arqCheckTimeouts arq io).1 = arq := by
  have hseqs : arq.seqs = [] := by
    rw [ArqContext.seqs, Nat.sub_eq_zero_of_le h]
    rfl
  simp [arqCheckTimeouts, hseqs]

/-- Every step keeps unused contexts fresh. -/
theorem UnusedFresh.step {s : ProcessorContext × Host} (h : UnusedFresh s.1.arqMgr) {op : LanOp}
    (hop : op.NonzeroQpn) : UnusedFresh (lanStep s op).1.arqMgr := by
  cases op with
  | rx m =>
    cases lan_outcome s.1 m s.2 with
    | freed _ hkeep _ =>
      rw [lanStep, hkeep.arqMgr]
      exact h
    | passed _ hkeep _ _ _ =>
      rw [lanStep, hkeep.arqMgr]
      exact h
    | forwarded hwrite _ _ hfwd => exact hfwd.tracks.unusedFresh h (hop hwrite)
  | ack i psn =>
    apply h.setContext
    intro hzero
    rw [arqHandleAck_qpn] at hzero
    have hctx := h i hzero
    rw [arqHandleAck_empty (by rw [hctx]; rfl) psn, hctx]
  | nack i psn =>
    apply h.setContext
    intro hzero
    rw [(arqHandleNack_sameWindow _ _ _).qpn] at hzero
    have hctx := h i hzero
    rw [arqHandleNack_empty (by rw [hctx]; rfl) psn, hctx]
  | timeouts i =>
    apply h.setContext
    intro hzero
    rw [(arqCheckTimeouts_spec _ _).1] at hzero
    have hctx := h i hzero
    rw [arqCheckTimeouts_empty (by rw [hctx]; rfl), hctx]

end RdmaGateway.Processor
