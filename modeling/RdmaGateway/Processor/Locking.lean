/-
  Processor/Locking.lean --- lock discipline: the locks of `src/qp_ctx.c`, and any
  sequence of calls into the four locked tables.

  Every core has a reassembly buffer, a retransmit manager and a QP manager, each
  with its own locks, and all cores share the ARP cache.  One thread calls their
  functions in any order and with any arguments.  Between two calls it holds no
  lock, since every call that comes back has given back what it took.  The one
  call that may not come back is `jb_add_seg` for a QPN without a context: it holds
  the global lock of the buffer and then calls `jb_get_or_create_write`, which
  takes that lock again.
-/
import RdmaGateway.Arq.Locking
import RdmaGateway.Processor.State
import RdmaGateway.Reassembly.Locking

set_option autoImplicit false

namespace RdmaGateway.Processor.Locked

open RdmaGateway.Foundation
open RdmaGateway.Foundation.Thread
open RdmaGateway.Dpdk
open RdmaGateway.Wire
open RdmaGateway.Roce
open RdmaGateway.Tunnel
open RdmaGateway.Arq
open RdmaGateway.Reassembly

/-! ## The QP table -/

/-- The locks of one `qp_manager_t`. -/
inductive QpLock where
  /-- `mgr->global_lock` -/
  | global
  /-- `mgr->qps[i].lock` -/
  | qp (i : Fin maxQpCtx)
  deriving DecidableEq

/-- A program over one QP manager. -/
abbrev QpThread (α : Type) : Type := Thread QpLock QpManager α

/-- `qp_mgr_init`: every lock of the manager lies in the memory it clears. -/
def qpMgrInit : QpThread Unit := fun _ => some ((), .free QpLock Processor.qpMgrInit)

/-- `qp_get_or_create`. -/
def qpGetOrCreate (qpn : Nat) : QpThread (Option (Fin maxQpCtx)) := do
  acquire .global
  let mgr ← read
  match mgr.qps.findSlot fun qp => qp.active && qp.qpn == qpn with
  | some i =>
    release .global
    return some i
  | none =>
    match mgr.qps.findSlot fun qp => !qp.active with
    | some i =>
      write { mgr.setQp i { QpContext.zero with qpn := qpn, active := true } with
        activeQpCount := add32 mgr.activeQpCount 1 }
      release (.qp i)
      release .global
      return some i
    | none =>
      release .global
      return none

theorem qpGetOrCreate_run (mgr : QpManager) (qpn : Nat) :
    (qpGetOrCreate qpn).run (.free QpLock mgr) =
      some ((Processor.qpGetOrCreate mgr qpn).1,
        .free QpLock (Processor.qpGetOrCreate mgr qpn).2) := by
  rw [qpGetOrCreate, run_acquire_bind rfl, Processor.qpGetOrCreate]
  simp only [run_read_bind, Guarded.lock_data, Guarded.free_data]
  cases mgr.qps.findSlot fun qp => qp.active && qp.qpn == qpn with
  | some i => simp
  | none =>
    cases mgr.qps.findSlot fun qp => !qp.active with
    | none => simp
    | some i =>
      have hqp : QpLock.qp i ≠ QpLock.global := by simp
      simp [Guarded.lock_unlock_of_ne _ hqp]

/-! ## Calls into the tables -/

/-- The locked tables of one core. -/
structure CoreTables where
  jb : Guarded Reassembly.Locked.JbLock (JitterBuffer Mbuf)
  arq : Guarded Arq.Locked.ArqLock (ArqManager Mbuf)
  qp : Guarded QpLock QpManager

/-- The tables of all cores `κ`, and what the cores share. -/
structure Tables (κ : Type) where
  cores : κ → CoreTables
  host : Guarded Arq.Locked.ArpLock Host

/-- A call of a function of `jitter_buffer.c`, `arq.c`, `qp_ctx.c` or the ARP
cache.  A table is named by its core, a context by its slot. -/
inductive Call (κ : Type) where
  | jbInit (c : κ)
  | jbGetOrCreateWrite (c : κ) (qpn firstPsn : Nat)
  | jbAddSeg (c : κ) (qpn psn : Nat) (segmentType : WriteSegmentType) (m : Mbuf)
  | jbIsWriteComplete (c : κ) (qpn : Nat)
  | jbGetOrderedSegs (c : κ) (qpn : Nat)
  | jbRemoveWrite (c : κ) (qpn : Nat)
  | jbCheckMissing (c : κ) (qpn : Nat)
  | arqMgrInit (c : κ)
  | arqGetOrCreate (c : κ) (qpn : Nat)
  | arqLookup (c : κ) (qpn : Nat)
  | arqSendPkt (c : κ) (i : Fin maxQpCtx) (m : Mbuf) (psn : Nat) (segmentType : WriteSegmentType)
  | arqHandleAck (c : κ) (i : Fin maxQpCtx) (ackPsn : Nat)
  | arqBuildCtrlMsg (qpn type psn dstIp : Nat) (psnList : Option (Nat → Nat)) (count : Nat)
  | arqParseCtrlMsg (m : Mbuf)
  | arqHandleNack (c : κ) (i : Fin maxQpCtx) (nackPsn : Nat)
  | arqCheckTimeouts (c : κ) (i : Fin maxQpCtx)
  | arqSetPeerIp (c : κ) (i : Fin maxQpCtx) (peerIp : Nat)
  | qpMgrInit (c : κ)
  | qpGetOrCreate (c : κ) (qpn : Nat)
  | arpCacheInit
  | arpCacheAdd (ipAddr : Nat) (macAddr : EtherAddr)
  | arpCacheLookup (ipAddr : Nat)

section Exec

variable {κ α : Type} [DecidableEq κ]

/-- Run a program on the reassembly buffer of a core. -/
def onJb (s : Tables κ) (c : κ) (p : Reassembly.Locked.JbThread Mbuf α) : Option (Tables κ) :=
  (p.run ⟨(s.cores c).jb.held, ((s.cores c).jb.data, s.host.data.io)⟩).map fun r =>
    { cores := Function.update s.cores c
        { s.cores c with
          jb := ⟨r.2.held, r.2.data.1⟩ }
      host := s.host.put { s.host.data with io := r.2.data.2 } }

/-- Run a program on the retransmit manager of a core. -/
def onArq (s : Tables κ) (c : κ) (p : Arq.Locked.ArqThread Mbuf α) : Option (Tables κ) :=
  (p.run ⟨(s.cores c).arq.held, ((s.cores c).arq.data, s.host.data.io)⟩).map fun r =>
    { cores := Function.update s.cores c
        { s.cores c with
          arq := ⟨r.2.held, r.2.data.1⟩ }
      host := s.host.put { s.host.data with io := r.2.data.2 } }

/-- Run a program on the QP manager of a core. -/
def onQp (s : Tables κ) (c : κ) (p : QpThread α) : Option (Tables κ) :=
  (p.run (s.cores c).qp).map fun r =>
    { s with
      cores := Function.update s.cores c { s.cores c with qp := r.2 } }

omit [DecidableEq κ] in
/-- Run a program on the ARP cache. -/
def onArp (s : Tables κ) (p : Arq.Locked.ArpThread α) : Option (Tables κ) :=
  (p.run s.host).map fun r => { s with host := r.2 }

/-- The tables after a call whose loops have `fuel` rounds, or `none` when the call does
not come back. -/
def exec (fuel : Nat) (s : Tables κ) : Call κ → Option (Tables κ)
  | .jbInit c => onJb s c Reassembly.Locked.jbInit
  | .jbGetOrCreateWrite c qpn psn => onJb s c (Reassembly.Locked.jbGetOrCreateWrite qpn psn)
  | .jbAddSeg c qpn psn ty m => onJb s c (Reassembly.Locked.jbAddSeg qpn psn ty m)
  | .jbIsWriteComplete c qpn => onJb s c (Reassembly.Locked.jbIsWriteComplete qpn)
  | .jbGetOrderedSegs c qpn => onJb s c (Reassembly.Locked.jbGetOrderedSegs qpn)
  | .jbRemoveWrite c qpn => onJb s c (Reassembly.Locked.jbRemoveWrite qpn)
  | .jbCheckMissing c qpn => onJb s c (Reassembly.Locked.jbCheckMissing qpn)
  | .arqMgrInit c => onArq s c Arq.Locked.arqMgrInit
  | .arqGetOrCreate c qpn => onArq s c (Arq.Locked.arqGetOrCreate qpn)
  | .arqLookup c qpn => onArq s c (Arq.Locked.arqLookup qpn)
  | .arqSendPkt c i m psn ty => onArq s c (Arq.Locked.arqSendPkt i m psn ty)
  | .arqHandleAck c i psn => onArq s c (Arq.Locked.arqHandleAck fuel i psn)
  | .arqBuildCtrlMsg qpn type psn dstIp psnList count =>
    onArp s (Arq.Locked.arqBuildCtrlMsg qpn type psn dstIp psnList count)
  | .arqParseCtrlMsg m => onArp s (pure (arqParseCtrlMsg m))
  | .arqHandleNack c i psn => onArq s c (Arq.Locked.arqHandleNack fuel i psn)
  | .arqCheckTimeouts c i => onArq s c (Arq.Locked.arqCheckTimeouts fuel i)
  | .arqSetPeerIp c i peerIp => onArq s c (Arq.Locked.arqSetPeerIp i peerIp)
  | .qpMgrInit c => onQp s c qpMgrInit
  | .qpGetOrCreate c qpn => onQp s c (qpGetOrCreate qpn)
  | .arpCacheInit => onArp s Arq.Locked.arpCacheInit
  | .arpCacheAdd ipAddr macAddr => onArp s (Arq.Locked.arpCacheAdd ipAddr macAddr)
  | .arpCacheLookup ipAddr => onArp s (Arq.Locked.arpCacheLookup ipAddr)

/-! ## Reachable tables -/

/-- No table of the core has a lock that is held. -/
structure CoreTables.AllFree (t : CoreTables) : Prop where
  jb : t.jb.AllFree
  arq : t.arq.AllFree
  qp : t.qp.AllFree

/-- No table has a lock that is held. -/
structure Tables.AllFree (s : Tables κ) : Prop where
  cores : ∀ c, (s.cores c).AllFree
  host : s.host.AllFree

/-- The tables as `proc_init` of every core leaves them. -/
def Tables.start (κ : Type) (host : Host) : Tables κ where
  cores := fun _ => ⟨.free _ jbInit, .free _ arqMgrInit, .free _ Processor.qpMgrInit⟩
  host := .free _ host

/-- What some sequence of calls leaves, all locks free after each. -/
inductive Reachable : Tables κ → Prop
  | start (host : Host) : Reachable (Tables.start κ host)
  | call {s s' : Tables κ} (c : Call κ) (fuel : Nat) :
      Reachable s → exec fuel s c = some s' → s'.AllFree → Reachable s'

/-- The call comes back, so it takes no lock it holds, and leaves every lock free. -/
def Disciplined (s : Tables κ) (call : Call κ) : Prop :=
  ∃ fuel s', exec fuel s call = some s' ∧ s'.AllFree

omit [DecidableEq κ] in
/-- A segment is added under a QPN that some slot of the buffer carries; every other
call is admitted as it is. -/
def Call.HasContext (s : Tables κ) : Call κ → Prop
  | .jbAddSeg c qpn _ _ _ => ∃ i, ((s.cores c).jb.data.writes i).qpn = qpn
  | _ => True

/-! ## One call -/

/-- Free locks, and counters that fit their words. -/
structure Inv (s : Tables κ) : Prop where
  free : s.AllFree
  fit : ∀ c, Arq.Locked.CountersFit (s.cores c).arq.data

omit [DecidableEq κ] in
theorem inv_start (host : Host) : Inv (Tables.start κ host) where
  free := ⟨fun _ => ⟨Guarded.free_allFree _, Guarded.free_allFree _, Guarded.free_allFree _⟩,
    Guarded.free_allFree _⟩
  fit := fun _ => Arq.Locked.countersFit_init

/-- One core is given tables of its own. -/
theorem Inv.setCore {s : Tables κ} (h : Inv s) (c : κ) {t : CoreTables} (hfree : t.AllFree)
    (hfit : Arq.Locked.CountersFit t.arq.data) {host : Guarded Arq.Locked.ArpLock Host}
    (hhost : host.AllFree) : Inv ⟨Function.update s.cores c t, host⟩ where
  free := ⟨(Function.forall_update_iff s.cores fun _ t => CoreTables.AllFree t).mpr
    ⟨hfree, fun d _ => h.free.cores d⟩, hhost⟩
  fit := (Function.forall_update_iff s.cores fun _ t => Arq.Locked.CountersFit t.arq.data).mpr
    ⟨hfit, fun d _ => h.fit d⟩

/-- What a program on a buffer with free locks does to the tables. -/
theorem onJb_of_run {s : Tables κ} {c : κ} (h : (s.cores c).jb.AllFree)
    {p : Reassembly.Locked.JbThread Mbuf α} {a : α} {jb : JitterBuffer Mbuf} {io : Io Mbuf}
    (hp : p.run (Reassembly.Locked.idle (s.cores c).jb.data s.host.data.io) =
      some (a, Reassembly.Locked.idle jb io)) :
    onJb s c p = some
      { cores := Function.update s.cores c
          { s.cores c with
            jb := .free _ jb }
        host := s.host.put { s.host.data with io := io } } := by
  have hheld : (s.cores c).jb.held = fun _ => false := funext h
  rw [onJb, hheld]
  exact congrArg _ hp

/-- A call on a buffer that leaves the buffer's locks free. -/
theorem Inv.onJb {s : Tables κ} (h : Inv s) (c : κ) {p : Reassembly.Locked.JbThread Mbuf α} {a : α}
    {jb : JitterBuffer Mbuf} {io : Io Mbuf}
    (hp : p.run (Reassembly.Locked.idle (s.cores c).jb.data s.host.data.io) =
      some (a, Reassembly.Locked.idle jb io)) :
    ∃ s', onJb s c p = some s' ∧ Inv s' := by
  have hfree : CoreTables.AllFree { s.cores c with jb := .free _ jb } :=
    ⟨Guarded.free_allFree jb, (h.free.cores c).arq, (h.free.cores c).qp⟩
  have hhost : (s.host.put { s.host.data with io := io }).AllFree := h.free.host
  exact ⟨_, onJb_of_run (h.free.cores c).jb hp, h.setCore c hfree (h.fit c) hhost⟩

/-- A call on a manager that leaves the manager's locks free and its counters in
their words. -/
theorem Inv.onArq {s : Tables κ} (h : Inv s) (c : κ) {p : Arq.Locked.ArqThread Mbuf α} {a : α}
    {mgr : ArqManager Mbuf} {io : Io Mbuf}
    (hp : p.run (Arq.Locked.idle (s.cores c).arq.data s.host.data.io) =
      some (a, Arq.Locked.idle mgr io))
    (hfit : Arq.Locked.CountersFit mgr) : ∃ s', onArq s c p = some s' ∧ Inv s' := by
  have hheld : (s.cores c).arq.held = fun _ => false := funext (h.free.cores c).arq
  have hfree : CoreTables.AllFree { s.cores c with arq := .free _ mgr } :=
    ⟨(h.free.cores c).jb, Guarded.free_allFree mgr, (h.free.cores c).qp⟩
  have hhost : (s.host.put { s.host.data with io := io }).AllFree := h.free.host
  exact ⟨_, by rw [Locked.onArq, hheld]; exact congrArg _ hp, h.setCore c hfree hfit hhost⟩

theorem Inv.onQp {s : Tables κ} (h : Inv s) (c : κ) {p : QpThread α} {a : α} {mgr : QpManager}
    (hp : p.run (.free QpLock (s.cores c).qp.data) = some (a, .free QpLock mgr)) :
    ∃ s', onQp s c p = some s' ∧ Inv s' := by
  have hfree : CoreTables.AllFree { s.cores c with qp := .free _ mgr } :=
    ⟨(h.free.cores c).jb, (h.free.cores c).arq, Guarded.free_allFree mgr⟩
  exact ⟨_, by rw [Locked.onQp, (h.free.cores c).qp.eq_free, hp]; rfl,
    h.setCore c hfree (h.fit c) h.free.host⟩

omit [DecidableEq κ] in
theorem Inv.onArp {s : Tables κ} (h : Inv s) {p : Arq.Locked.ArpThread α} {a : α} {host : Host}
    (hp : p.run (.free Arq.Locked.ArpLock s.host.data) = some (a, .free Arq.Locked.ArpLock host)) :
    ∃ s', onArp s p = some s' ∧ Inv s' := by
  refine ⟨_, by rw [Locked.onArp, h.free.host.eq_free, hp]; rfl, ?_⟩
  exact ⟨⟨h.free.cores, Guarded.free_allFree host⟩, h.fit⟩

/-- A call that comes back does so in the same way with more rounds. -/
theorem exec_of_le {s s' : Tables κ} {call : Call κ} {fuel fuel' : Nat} (hle : fuel ≤ fuel')
    (h : exec fuel s call = some s') : exec fuel' s call = some s' := by
  cases call with
  | arqHandleAck c i psn =>
    obtain ⟨r, hr, rfl⟩ := Option.map_eq_some_iff.mp h
    exact Option.map_eq_some_iff.mpr
      ⟨r, (Arq.Locked.arqHandleAck_grows i psn).of_le hle hr, rfl⟩
  | arqHandleNack c i psn =>
    obtain ⟨r, hr, rfl⟩ := Option.map_eq_some_iff.mp h
    exact Option.map_eq_some_iff.mpr
      ⟨r, (Arq.Locked.arqHandleNack_grows i psn).of_le hle hr, rfl⟩
  | arqCheckTimeouts c i =>
    obtain ⟨r, hr, rfl⟩ := Option.map_eq_some_iff.mp h
    exact Option.map_eq_some_iff.mpr
      ⟨r, (Arq.Locked.arqCheckTimeouts_grows i).of_le hle hr, rfl⟩
  | _ => exact h

theorem exec_unique {s s₁ s₂ : Tables κ} {call : Call κ} {fuel₁ fuel₂ : Nat}
    (h₁ : exec fuel₁ s call = some s₁) (h₂ : exec fuel₂ s call = some s₂) : s₁ = s₂ := by
  have hmax₁ := exec_of_le (Nat.le_max_left fuel₁ fuel₂) h₁
  have hmax₂ := exec_of_le (Nat.le_max_right fuel₁ fuel₂) h₂
  exact Option.some.inj (hmax₁.symm.trans hmax₂)

/-- A call that does not ask for a missing context comes back. -/
theorem exec_returns {s : Tables κ} (h : Inv s) {call : Call κ} (hctx : call.HasContext s) :
    ∃ fuel s', exec fuel s call = some s' ∧ Inv s' := by
  cases call with
  | jbInit c => exact ⟨0, h.onJb c rfl⟩
  | jbGetOrCreateWrite c qpn psn =>
    exact ⟨0, h.onJb c (Reassembly.Locked.jbGetOrCreateWrite_run _ _ qpn psn)⟩
  | jbAddSeg c qpn psn ty m =>
    obtain ⟨i, hi⟩ := hctx
    obtain ⟨j, hj⟩ : ∃ j, jbFind (s.cores c).jb.data qpn = some j := by
      rw [← Option.ne_none_iff_exists']
      exact fun hnone => jbFind_none.mp hnone i hi
    exact ⟨0, h.onJb c (Reassembly.Locked.jbAddSeg_run _ _ hj psn ty m)⟩
  | jbIsWriteComplete c qpn => exact ⟨0, h.onJb c (Reassembly.Locked.jbIsWriteComplete_run _ _ qpn)⟩
  | jbGetOrderedSegs c qpn => exact ⟨0, h.onJb c (Reassembly.Locked.jbGetOrderedSegs_run _ _ qpn)⟩
  | jbRemoveWrite c qpn => exact ⟨0, h.onJb c (Reassembly.Locked.jbRemoveWrite_run _ _ qpn)⟩
  | jbCheckMissing c qpn => exact ⟨0, h.onJb c (Reassembly.Locked.jbCheckMissing_run _ _ qpn)⟩
  | arqMgrInit c => exact ⟨0, h.onArq c rfl Arq.Locked.countersFit_init⟩
  | arqGetOrCreate c qpn =>
    exact ⟨0, h.onArq c (Arq.Locked.arqGetOrCreate_run _ _ qpn) ((h.fit c).getOrCreate qpn)⟩
  | arqLookup c qpn => exact ⟨0, h.onArq c (Arq.Locked.arqLookup_run _ _ qpn) (h.fit c)⟩
  | arqSendPkt c i m psn ty =>
    exact ⟨0, h.onArq c (Arq.Locked.arqSendPkt_run _ _ i m psn ty)
      ((h.fit c).sendPkt i m psn ty _)⟩
  | arqHandleAck c i psn =>
    refine ⟨_, h.onArq c (Arq.Locked.arqHandleAck_run _ _ (h.fit c) i psn)
      ((h.fit c).setContext ?_)⟩
    rw [arqHandleAck_sendNext]
    exact h.fit c i
  | arqBuildCtrlMsg qpn type psn dstIp psnList count =>
    exact ⟨0, h.onArp (Arq.Locked.arqBuildCtrlMsg_run _ qpn type psn dstIp psnList count)⟩
  | arqParseCtrlMsg m => exact ⟨0, h.onArp rfl⟩
  | arqHandleNack c i psn =>
    refine ⟨_, h.onArq c (Arq.Locked.arqHandleNack_run _ _ (h.fit c) i psn)
      ((h.fit c).setContext ?_)⟩
    rw [(arqHandleNack_sameWindow _ psn _).sendNext]
    exact h.fit c i
  | arqCheckTimeouts c i =>
    refine ⟨_, h.onArq c (Arq.Locked.arqCheckTimeouts_run _ _ (h.fit c) i)
      ((h.fit c).setContext ?_)⟩
    rw [(arqCheckTimeouts_spec _ _).2.2.1]
    exact h.fit c i
  | arqSetPeerIp c i peerIp =>
    exact ⟨0, h.onArq c (Arq.Locked.arqSetPeerIp_run _ _ i peerIp)
      ((h.fit c).setContext (h.fit c i))⟩
  | qpMgrInit c => exact ⟨0, h.onQp c rfl⟩
  | qpGetOrCreate c qpn => exact ⟨0, h.onQp c (qpGetOrCreate_run _ qpn)⟩
  | arpCacheInit => exact ⟨0, h.onArp (Arq.Locked.arpCacheInit_run _)⟩
  | arpCacheAdd ipAddr macAddr => exact ⟨0, h.onArp (Arq.Locked.arpCacheAdd_run _ ipAddr macAddr)⟩
  | arpCacheLookup ipAddr => exact ⟨0, h.onArp (Arq.Locked.arpCacheLookup_run _ ipAddr)⟩

/-- A call that asks for a missing context waits for the lock it holds. -/
theorem exec_blocks {s : Tables κ} (h : Inv s) {call : Call κ} (hctx : ¬ call.HasContext s)
    (fuel : Nat) : exec fuel s call = none := by
  cases call with
  | jbAddSeg c qpn psn ty m =>
    have hnone : jbFind (s.cores c).jb.data qpn = none :=
      jbFind_none.mpr fun i hi => hctx ⟨i, hi⟩
    have hheld : (s.cores c).jb.held = fun _ => false := funext (h.free.cores c).jb
    rw [exec, onJb, hheld]
    exact congrArg _ (Reassembly.Locked.jbAddSeg_blocks _ s.host.data.io hnone psn ty m)
  | _ => exact absurd trivial hctx

/-- Every reachable state has its locks free. -/
theorem Reachable.inv {s : Tables κ} (h : Reachable s) : Inv s := by
  induction h with
  | start host => exact inv_start host
  | @call s s' call fuel _ hexec _ ih =>
    by_cases hctx : call.HasContext s
    · obtain ⟨_, s'', hreturns, hinv⟩ := exec_returns ih hctx
      rwa [exec_unique hexec hreturns]
    · rw [exec_blocks ih hctx] at hexec
      exact absurd hexec (by simp)

/-- From every reachable state a call comes back with all locks free unless it adds a
segment under a QPN that no slot of its buffer carries. -/
theorem lock_discipline_iff {s : Tables κ} (h : Reachable s) (call : Call κ) :
    Disciplined s call ↔ call.HasContext s := by
  constructor
  · rintro ⟨fuel, s', hexec, -⟩
    by_contra hctx
    rw [exec_blocks h.inv hctx] at hexec
    exact absurd hexec (by simp)
  · intro hctx
    obtain ⟨fuel, s', hexec, hinv⟩ := exec_returns h.inv hctx
    exact ⟨fuel, s', hexec, hinv.free⟩

end Exec

/-- Once `jb_get_or_create_write` has opened a context for QPN 7, a segment for it is
added and all locks are free again. -/
theorem lock_discipline_iff_opened :
    ∃ fuel s, exec fuel (Tables.start Unit .unloaded) (.jbGetOrCreateWrite () 7 5) = some s ∧
      Disciplined s (.jbAddSeg () 7 5 .only ⟨0, 2048, 0, fun _ => 0⟩) := by
  obtain ⟨fuel, s, hexec, hfree⟩ :=
    (lock_discipline_iff (.start .unloaded) (.jbGetOrCreateWrite () 7 5)).mpr trivial
  refine ⟨fuel, s, hexec, (lock_discipline_iff (.call _ fuel (.start _) hexec hfree) _).mpr ?_⟩
  have hrun := onJb_of_run (s := Tables.start Unit .unloaded) (c := ()) (Guarded.free_allFree _)
    (Reassembly.Locked.jbGetOrCreateWrite_run jbInit Host.unloaded.io 7 5)
  obtain rfl := Option.some.inj (hexec.symm.trans hrun)
  exact ⟨0, rfl⟩

/-- A first segment for QPN 7 on a buffer that has just been set up: `jb_add_seg` waits
for the lock it holds. -/
theorem add_seg_waits_for_itself :
    ¬ ∀ s : Tables Unit, Reachable s → ∀ call, Disciplined s call := by
  intro h
  obtain ⟨fuel, s', hexec, -⟩ :=
    h _ (.start .unloaded) (.jbAddSeg () 7 5 .only ⟨0, 2048, 0, fun _ => 0⟩)
  have hmiss : ¬ Call.HasContext (Tables.start Unit .unloaded)
      (.jbAddSeg () 7 5 .only ⟨0, 2048, 0, fun _ => 0⟩) := by
    rintro ⟨i, hi⟩
    exact absurd hi (by simp [Tables.start, jbInit, JbWriteContext.zero])
  rw [exec_blocks (inv_start _) hmiss] at hexec
  exact absurd hexec (by simp)

end RdmaGateway.Processor.Locked
