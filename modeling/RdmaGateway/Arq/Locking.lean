/-
  Arq/Locking.lean --- the locks of `src/arq.c` and of the ARP cache.

  `arq_manager_t` holds one lock and every context one more; the ARP cache of
  `src/wan_tunnel.c` has one lock of its own, which `arq_build_ctrl_msg` takes
  through `arp_cache_lookup`.  The loops from `send_base` to `send_next` are given a
  number of rounds, `fuel`, and come back with nothing when they need more, so that
  they end is something to prove.
-/
import RdmaGateway.Arq.Control
import RdmaGateway.Arq.Slots
import RdmaGateway.Foundation.Lock

set_option autoImplicit false

namespace RdmaGateway.Arq.Locked

open RdmaGateway.Foundation
open RdmaGateway.Foundation.Thread
open RdmaGateway.Dpdk
open RdmaGateway.Wire
open RdmaGateway.Roce
open RdmaGateway.Tunnel

/-! ## The ARP cache -/

/-- The lock of the ARP cache. -/
inductive ArpLock where
  /-- `arp_cache_lock` -/
  | cache
  deriving DecidableEq

/-- A program over the ARP cache. -/
abbrev ArpThread (α : Type) : Type := Thread ArpLock Host α

/-- `arp_cache_init`. -/
def arpCacheInit : ArpThread Unit := do
  let host ← read
  write { host with arpCache := Tunnel.arpCacheInit }
  release .cache

/-- `arp_cache_add`. -/
def arpCacheAdd (ipAddr : Nat) (macAddr : EtherAddr) : ArpThread Unit := do
  acquire .cache
  let host ← read
  write (Tunnel.arpCacheAdd host ipAddr macAddr)
  release .cache

/-- `arp_cache_lookup`. -/
def arpCacheLookup (ipAddr : Nat) : ArpThread (Option EtherAddr) := do
  acquire .cache
  let host ← read
  let e := host.arpCache.get ipAddr
  if e.valid && e.ipAddr == ipAddr then
    release .cache
    return some e.macAddr
  else
    release .cache
    return none

/-- `arq_build_ctrl_msg`. -/
def arqBuildCtrlMsg (qpn type psn dstIp : Nat) (psnList : Option (Nat → Nat)) (count : Nat) :
    ArpThread (Option Mbuf) := do
  let host ← read
  match host.allocAppend 318 with
  | (none, host) =>
    write host
    return none
  | (some m, host) =>
    write host
    let dstMac := (← arpCacheLookup dstIp).getD (.fill 0xFF)
    let b := ctrlFrame m.data dstMac host.wanTunnelSrcIp dstIp qpn type psn psnList count
    return some { m with data := b, dataLen := 318 }

section Arp

variable (host : Host)

theorem arpCacheInit_run :
    arpCacheInit.run (.free ArpLock host) =
      some ((), .free ArpLock { host with arpCache := Tunnel.arpCacheInit }) := by
  simp [arpCacheInit]

theorem arpCacheAdd_run (ipAddr : Nat) (macAddr : EtherAddr) :
    (arpCacheAdd ipAddr macAddr).run (.free ArpLock host) =
      some ((), .free ArpLock (Tunnel.arpCacheAdd host ipAddr macAddr)) := by
  rw [arpCacheAdd, run_acquire_bind rfl]
  simp

theorem arpCacheLookup_run (ipAddr : Nat) :
    (arpCacheLookup ipAddr).run (.free ArpLock host) =
      some (Tunnel.arpCacheLookup host ipAddr, .free ArpLock host) := by
  rw [arpCacheLookup, run_acquire_bind rfl, run_read_bind, Guarded.lock_data, Guarded.free_data,
    Tunnel.arpCacheLookup]
  dsimp only
  split
  · simp
  · simp

theorem arqBuildCtrlMsg_run (qpn type psn dstIp : Nat) (psnList : Option (Nat → Nat))
    (count : Nat) :
    (arqBuildCtrlMsg qpn type psn dstIp psnList count).run (.free ArpLock host) =
      some ((Arq.arqBuildCtrlMsg host qpn type psn dstIp psnList count).1,
        .free ArpLock (Arq.arqBuildCtrlMsg host qpn type psn dstIp psnList count).2) := by
  rw [arqBuildCtrlMsg, run_read_bind, Arq.arqBuildCtrlMsg]
  simp only [Guarded.free_data]
  obtain ⟨_ | m, host⟩ := host.allocAppend 318
  · simp
  · simp [arpCacheLookup_run]

end Arp

/-! ## Retransmit contexts -/

/-- The locks of one `arq_manager_t`. -/
inductive ArqLock where
  /-- `mgr->global_lock` -/
  | global
  /-- `mgr->contexts[i].lock` -/
  | ctx (i : Fin maxQpCtx)
  deriving DecidableEq

variable {μ : Type}

/-- A program over one manager. -/
abbrev ArqThread (μ α : Type) : Type := Thread ArqLock (ArqManager μ × Io μ) α

/-- `arq_mgr_init`: every lock of the manager lies in the memory it clears. -/
def arqMgrInit : ArqThread μ Unit := fun g => some ((), .free ArqLock (Arq.arqMgrInit, g.data.2))

/-- `arq_get_or_create`. -/
def arqGetOrCreate (qpn : Nat) : ArqThread μ (Option (Fin maxQpCtx)) := do
  acquire .global
  let (mgr, io) ← read
  match arqFind mgr qpn with
  | some i =>
    release .global
    return some i
  | none =>
    match mgr.contexts.findSlot fun ctx => ctx.qpn == 0 with
    | some i =>
      write (mgr.setContext i (.fresh qpn), io)
      release (.ctx i)
      release .global
      return some i
    | none =>
      release .global
      return none

/-- `arq_lookup`. -/
def arqLookup (qpn : Nat) : ArqThread μ (Option (Fin maxQpCtx)) := do
  acquire .global
  let (mgr, _) ← read
  let ctx := arqFind mgr qpn
  release .global
  return ctx

/-- `arq_send_pkt`. -/
def arqSendPkt (i : Fin maxQpCtx) (m : μ) (psn : Nat) (segmentType : WriteSegmentType) :
    ArqThread μ Int := do
  acquire (.ctx i)
  let (mgr, io) ← read
  let arq := mgr.contexts i
  if (arq.entry arq.sendNext).inFlight then
    release (.ctx i)
    return -1
  else
    let (now, io) := rteRdtsc io
    write (mgr.setContext i (arq.sent m psn segmentType now), io)
    release (.ctx i)
    return 0

/-- One round of the loop of `arq_handle_ack`. -/
def ackRound (i : Fin maxQpCtx) (ackPsn : Nat) (_ : Unit) : ArqThread μ (Unit ⊕ Unit) := do
  let (mgr, io) ← read
  let arq := mgr.contexts i
  if arq.sendBase < arq.sendNext then
    if psnForwardDist (arq.sendWindow.get arq.sendBase).psn ackPsn ≥ psnHalf then
      return .inr ()
    else
      write (mgr.setContext i (arqPop arq io).1, (arqPop arq io).2)
      return .inl ()
  else
    return .inr ()

/-- `arq_handle_ack`. -/
def arqHandleAck (fuel : Nat) (i : Fin maxQpCtx) (ackPsn : Nat) : ArqThread μ Unit := do
  acquire (.ctx i)
  loop (ackRound i ackPsn) fuel ()
  release (.ctx i)

/-- One round of the selection loop of `arq_handle_nack`, at the sequence number
`j` with the slots selected so far. -/
def nackRound (i : Fin maxQpCtx) (nackPsn : Nat) :
    Nat × List Nat → ArqThread μ (Nat × List Nat ⊕ List Nat)
  | (j, retransIdx) => do
    let (mgr, io) ← read
    let arq := mgr.contexts i
    if j < arq.sendNext ∧ retransIdx.length < maxRetxBurst then
      let s := arqNackSelect nackPsn ⟨arq, io, retransIdx⟩ j
      write (mgr.setContext i s.arq, s.io)
      return .inl (add32 j 1, s.retransIdx)
    else
      return .inr retransIdx

/-- `arq_handle_nack`: it transmits after it has given the lock back. -/
def arqHandleNack (fuel : Nat) (i : Fin maxQpCtx) (nackPsn : Nat) : ArqThread μ Nat := do
  acquire (.ctx i)
  let (mgr, _) ← read
  let retransIdx ← loop (nackRound i nackPsn) fuel ((mgr.contexts i).sendBase, [])
  release (.ctx i)
  let (mgr, io) ← read
  write (mgr, retransIdx.foldl (fun io idx =>
    match ((mgr.contexts i).sendWindow.get idx).mbuf with
    | some m => (txKeeping m io).2
    | none => io) io)
  return retransIdx.length

/-- One round of the loop of `arq_check_timeouts`, at the sequence number `j`. -/
def timeoutRound (i : Fin maxQpCtx) (now timeout j : Nat) : ArqThread μ (Nat ⊕ Unit) := do
  let (mgr, io) ← read
  let arq := mgr.contexts i
  if j < arq.sendNext then
    let s := arqTimeoutVisit now timeout (arq, io) j
    write (mgr.setContext i s.1, s.2)
    return .inl (add32 j 1)
  else
    return .inr ()

/-- `arq_check_timeouts`: it transmits with the lock taken. -/
def arqCheckTimeouts (fuel : Nat) (i : Fin maxQpCtx) : ArqThread μ Unit := do
  acquire (.ctx i)
  let (mgr, io) ← read
  let (now, io) := rteRdtsc io
  write (mgr, io)
  loop (timeoutRound i now (timeoutCycles io)) fuel (mgr.contexts i).sendBase
  release (.ctx i)

/-- `arq_set_peer_ip`. -/
def arqSetPeerIp (i : Fin maxQpCtx) (peerIp : Nat) : ArqThread μ Unit := do
  acquire (.ctx i)
  let (mgr, io) ← read
  write (mgr.setContext i (Arq.arqSetPeerIp (mgr.contexts i) peerIp), io)
  release (.ctx i)

/-! ## From free locks to free locks -/

/-- Every counter of the manager fits its `uint32_t`. -/
def CountersFit (mgr : ArqManager μ) : Prop :=
  ∀ i, (mgr.contexts i).sendNext < 4294967296

section Counters

variable {mgr : ArqManager μ}

theorem countersFit_init : CountersFit (Arq.arqMgrInit : ArqManager μ) := by
  intro i
  exact Nat.zero_lt_succ _

theorem CountersFit.setContext (h : CountersFit mgr) {i : Fin maxQpCtx} {arq : ArqContext μ}
    (harq : arq.sendNext < 4294967296) : CountersFit (mgr.setContext i arq) := by
  intro j
  by_cases hji : j = i
  · subst hji
    rwa [setContext_contexts_self]
  · rw [setContext_contexts_of_ne _ _ hji]
    exact h j

theorem CountersFit.getOrCreate (h : CountersFit mgr) (qpn : Nat) :
    CountersFit (Arq.arqGetOrCreate mgr qpn).2 := by
  unfold Arq.arqGetOrCreate
  split
  · exact h
  · split
    · exact h.setContext (Nat.zero_lt_succ _)
    · exact h

theorem CountersFit.sendPkt (h : CountersFit mgr) (i : Fin maxQpCtx) (m : μ) (psn : Nat)
    (ty : WriteSegmentType) (io : Io μ) :
    CountersFit (mgr.setContext i (Arq.arqSendPkt (mgr.contexts i) m psn ty io).2.1) := by
  refine h.setContext ?_
  cases hfull : ((mgr.contexts i).entry (mgr.contexts i).sendNext).inFlight with
  | true =>
    rw [arqSendPkt_rejected hfull]
    exact h i
  | false =>
    rw [arqSendPkt_accepted hfull]
    exact Nat.mod_lt _ (by decide)

end Counters

section Free

variable (mgr : ArqManager μ) (io : Io μ)

/-- A manager with its locks free. -/
abbrev idle : Guarded ArqLock (ArqManager μ × Io μ) := .free ArqLock (mgr, io)

variable {mgr io}

/-- A context's lock that is free stays free when it is cleared under the global
one. -/
@[simp] theorem global_unlock_ctx (i : Fin maxQpCtx) :
    ((idle mgr io).lock .global).unlock (.ctx i) = (idle mgr io).lock .global := by
  rw [Guarded.lock_unlock_of_ne _ (by simp), Guarded.free_unlock]

variable (mgr io)

theorem arqGetOrCreate_run (qpn : Nat) :
    (arqGetOrCreate qpn).run (idle mgr io) =
      some ((Arq.arqGetOrCreate mgr qpn).1, idle (Arq.arqGetOrCreate mgr qpn).2 io) := by
  rw [arqGetOrCreate, run_acquire_bind rfl, Arq.arqGetOrCreate]
  simp only [run_read_bind, Guarded.lock_data, Guarded.free_data]
  cases arqFind mgr qpn with
  | some i => simp
  | none =>
    cases mgr.contexts.findSlot fun ctx => ctx.qpn == 0 with
    | none => simp
    | some i => simp

theorem arqLookup_run (qpn : Nat) :
    (arqLookup qpn).run (idle mgr io) = some (Arq.arqLookup mgr qpn, idle mgr io) := by
  rw [arqLookup, run_acquire_bind rfl, Arq.arqLookup]
  simp

theorem arqSendPkt_run (i : Fin maxQpCtx) (m : μ) (psn : Nat) (ty : WriteSegmentType) :
    (arqSendPkt i m psn ty).run (idle mgr io) =
      some ((Arq.arqSendPkt (mgr.contexts i) m psn ty io).1,
        idle (mgr.setContext i (Arq.arqSendPkt (mgr.contexts i) m psn ty io).2.1)
          (Arq.arqSendPkt (mgr.contexts i) m psn ty io).2.2) := by
  rw [arqSendPkt, run_acquire_bind rfl, run_read_bind, Guarded.lock_data, Guarded.free_data]
  dsimp only
  split
  · rename_i hfull
    rw [arqSendPkt_rejected hfull]
    simp [setContext_self]
  · rename_i hfree
    rw [arqSendPkt_accepted (by simpa using hfree)]
    simp

theorem arqSetPeerIp_run (i : Fin maxQpCtx) (peerIp : Nat) :
    (arqSetPeerIp i peerIp).run (idle mgr io) =
      some ((), idle (mgr.setContext i (Arq.arqSetPeerIp (mgr.contexts i) peerIp)) io) := by
  rw [arqSetPeerIp, run_acquire_bind rfl]
  simp

/-! ### The loops over the window -/

/-- A manager while the lock of its context `i` is taken. -/
abbrev busy (i : Fin maxQpCtx) (arq : ArqContext μ) (io : Io μ) :
    Guarded ArqLock (ArqManager μ × Io μ) :=
  (idle (mgr.setContext i arq) io).lock (.ctx i)

theorem busy_self (i : Fin maxQpCtx) :
    busy mgr i (mgr.contexts i) io = (idle mgr io).lock (.ctx i) := by
  rw [busy, setContext_self]

/-- The loop of `arq_handle_ack` ends, and does what the bounded loop does with
enough fuel: every round moves `send_base` towards `send_next`, which no 32-bit
counter passes. -/
theorem ackLoop_run (i : Fin maxQpCtx) (ackPsn : Nat) :
    ∀ (fuel : Nat) (arq : ArqContext μ) (io : Io μ), arq.sendNext < 4294967296 →
      arq.sendNext - arq.sendBase ≤ fuel →
      (loop (ackRound i ackPsn) (fuel + 1) ()).run (busy mgr i arq io) =
        some ((), busy mgr i (arqAckLoop ackPsn fuel arq io).1
          (arqAckLoop ackPsn fuel arq io).2) := by
  intro fuel
  induction fuel with
  | zero =>
    intro arq io _ hfuel
    refine run_loop_of_inr ?_ _
    have hdone : ¬ arq.sendBase < arq.sendNext := by omega
    simp [ackRound, arqAckLoop, hdone]
  | succ fuel ih =>
    intro arq io hfits hfuel
    by_cases hopen : arq.sendBase < arq.sendNext
    · by_cases hcov : psnForwardDist (arq.sendWindow.get arq.sendBase).psn ackPsn ≥ psnHalf
      · refine run_loop_of_inr ?_ _
        simp [ackRound, arqAckLoop, hopen, hcov]
      · have hround : (ackRound i ackPsn ()).run (busy mgr i arq io) =
            some (.inl (), busy mgr i (arqPop arq io).1 (arqPop arq io).2) := by
          simp [ackRound, hopen, hcov]
        have hbase : (arqPop arq io).1.sendBase = arq.sendBase + 1 := add32_of_lt (by omega)
        rw [run_loop_of_inl hround, ih _ _ (by simpa using hfits) (by rw [hbase]; simp; omega)]
        simp [arqAckLoop, hopen, hcov]
    · refine run_loop_of_inr ?_ _
      simp [ackRound, arqAckLoop, hopen]

theorem arqHandleAck_run (h : CountersFit mgr) (i : Fin maxQpCtx) (ackPsn : Nat) :
    (arqHandleAck ((mgr.contexts i).sendNext - (mgr.contexts i).sendBase + 1) i ackPsn).run
        (idle mgr io) =
      some ((), idle (mgr.setContext i (Arq.arqHandleAck (mgr.contexts i) ackPsn io).1)
        (Arq.arqHandleAck (mgr.contexts i) ackPsn io).2) := by
  rw [arqHandleAck, run_acquire_bind rfl, ← busy_self,
    run_bind_of_some (ackLoop_run mgr i ackPsn _ _ io (h i) le_rfl)]
  simp [busy, Arq.arqHandleAck]

omit mgr in
/-- Once the burst is full the rest of the window is not looked at. -/
theorem arqNackSelect_full (nackPsn : Nat) {s : NackScan μ}
    (h : ¬ s.retransIdx.length < maxRetxBurst) (is : List Nat) :
    is.foldl (arqNackSelect nackPsn) s = s := by
  induction is with
  | nil => rfl
  | cons i is ih =>
    have hstep : arqNackSelect nackPsn s i = s := arqNackSelect_of_not_selects fun hs => h hs.1
    rw [List.foldl_cons, hstep, ih]

/-- The selection loop of `arq_handle_nack` ends and selects what the walk over the
`k` sequence numbers from `j` on selects. -/
theorem nackLoop_run (i : Fin maxQpCtx) (nackPsn : Nat) :
    ∀ (k j : Nat) (s : NackScan μ), s.arq.sendNext < 4294967296 → s.arq.sendNext - j = k →
      (loop (nackRound i nackPsn) (k + 1) (j, s.retransIdx)).run (busy mgr i s.arq s.io) =
        some (((List.range' j k).foldl (arqNackSelect nackPsn) s).retransIdx,
          busy mgr i ((List.range' j k).foldl (arqNackSelect nackPsn) s).arq
            ((List.range' j k).foldl (arqNackSelect nackPsn) s).io) := by
  intro k
  induction k with
  | zero =>
    intro j s _ hk
    have hdone : ¬ j < s.arq.sendNext := by omega
    refine run_loop_of_inr ?_ _
    simp [nackRound, hdone]
  | succ k ih =>
    intro j s hfits hk
    have hopen : j < s.arq.sendNext := by omega
    by_cases hroom : s.retransIdx.length < maxRetxBurst
    · let s' := arqNackSelect nackPsn s j
      have hround : (nackRound i nackPsn (j, s.retransIdx)).run (busy mgr i s.arq s.io) =
          some (.inl (j + 1, s'.retransIdx), busy mgr i s'.arq s'.io) := by
        simp [nackRound, hopen, hroom, add32_of_lt (a := j) (b := 1) (by omega), s']
      have hnext : s'.arq.sendNext = s.arq.sendNext :=
        (arqNackSelect_sameWindow nackPsn s j).sendNext
      rw [run_loop_of_inl hround, ih (j + 1) s' (by omega) (by omega), List.range'_succ,
        List.foldl_cons]
    · rw [arqNackSelect_full nackPsn hroom]
      refine run_loop_of_inr ?_ _
      simp [nackRound, hroom]

theorem arqHandleNack_run (h : CountersFit mgr) (i : Fin maxQpCtx) (nackPsn : Nat) :
    (arqHandleNack ((mgr.contexts i).sendNext - (mgr.contexts i).sendBase + 1) i nackPsn).run
        (idle mgr io) =
      some ((Arq.arqHandleNack (mgr.contexts i) nackPsn io).1,
        idle (mgr.setContext i (Arq.arqHandleNack (mgr.contexts i) nackPsn io).2.1)
          (Arq.arqHandleNack (mgr.contexts i) nackPsn io).2.2) := by
  have hloop := nackLoop_run mgr i nackPsn _ (mgr.contexts i).sendBase ⟨mgr.contexts i, io, []⟩
    (h i) rfl
  rw [arqHandleNack, run_acquire_bind rfl, run_read_bind, Guarded.lock_data, Guarded.free_data,
    ← busy_self]
  dsimp only
  rw [run_bind_of_some hloop, run_release_bind, Guarded.lock_unlock_self, Guarded.free_unlock,
    run_read_bind]
  simp only [Guarded.free_data, setContext_contexts_self]
  rfl

/-- The loop of `arq_check_timeouts` ends and visits the `k` sequence numbers from
`j` on. -/
theorem timeoutLoop_run (i : Fin maxQpCtx) (now timeout : Nat) :
    ∀ (k j : Nat) (s : ArqContext μ × Io μ), s.1.sendNext < 4294967296 → s.1.sendNext - j = k →
      (loop (timeoutRound i now timeout) (k + 1) j).run (busy mgr i s.1 s.2) =
        some ((), busy mgr i ((List.range' j k).foldl (arqTimeoutVisit now timeout) s).1
          ((List.range' j k).foldl (arqTimeoutVisit now timeout) s).2) := by
  intro k
  induction k with
  | zero =>
    intro j s _ hk
    have hdone : ¬ j < s.1.sendNext := by omega
    refine run_loop_of_inr ?_ _
    simp [timeoutRound, hdone]
  | succ k ih =>
    intro j s hfits hk
    have hopen : j < s.1.sendNext := by omega
    let s' := arqTimeoutVisit now timeout s j
    have hround : (timeoutRound i now timeout j).run (busy mgr i s.1 s.2) =
        some (.inl (j + 1), busy mgr i s'.1 s'.2) := by
      simp [timeoutRound, hopen, add32_of_lt (a := j) (b := 1) (by omega), s']
    have hnext : s'.1.sendNext = s.1.sendNext := (arqTimeoutVisit_fields now timeout j s.1 s.2).2.2
    rw [run_loop_of_inl hround, ih (j + 1) s' (by omega) (by omega), List.range'_succ,
      List.foldl_cons]

theorem arqCheckTimeouts_run (h : CountersFit mgr) (i : Fin maxQpCtx) :
    (arqCheckTimeouts ((mgr.contexts i).sendNext - (mgr.contexts i).sendBase + 1) i).run
        (idle mgr io) =
      some ((), idle (mgr.setContext i (Arq.arqCheckTimeouts (mgr.contexts i) io).1)
        (Arq.arqCheckTimeouts (mgr.contexts i) io).2) := by
  have hloop := timeoutLoop_run mgr i (rteRdtsc io).1 (timeoutCycles (rteRdtsc io).2) _
    (mgr.contexts i).sendBase (mgr.contexts i, (rteRdtsc io).2) (h i) rfl
  rw [arqCheckTimeouts, run_acquire_bind rfl, run_read_bind, Guarded.lock_data, Guarded.free_data]
  dsimp only
  rw [run_bind_of_some (run_write _), Guarded.lock_put, Guarded.free_put, ← busy_self,
    run_bind_of_some hloop]
  simp [busy, Arq.arqCheckTimeouts, ArqContext.seqs]

end Free

/-! ### More rounds -/

theorem arqHandleAck_grows (i : Fin maxQpCtx) (ackPsn : Nat) :
    Grows fun fuel => (arqHandleAck fuel i ackPsn : ArqThread μ Unit) :=
  (grows_const _).bind fun _ => (grows_loop _ _).bind fun _ => grows_const _

theorem arqHandleNack_grows (i : Fin maxQpCtx) (nackPsn : Nat) :
    Grows fun fuel => (arqHandleNack fuel i nackPsn : ArqThread μ Nat) :=
  (grows_const _).bind fun _ => (grows_const _).bind fun _ =>
    (grows_loop _ _).bind fun _ => grows_const _

theorem arqCheckTimeouts_grows (i : Fin maxQpCtx) :
    Grows fun fuel => (arqCheckTimeouts fuel i : ArqThread μ Unit) :=
  (grows_const _).bind fun _ => (grows_const _).bind fun _ => (grows_const _).bind fun _ =>
    (grows_loop _ _).bind fun _ => grows_const _

end RdmaGateway.Arq.Locked
