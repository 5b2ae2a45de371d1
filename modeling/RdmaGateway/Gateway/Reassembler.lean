/-
  Gateway/Reassembler.lean --- the WAN cores as reassemblers, over whole runs.

  However the calls of the cores interleave and whatever ports, pools and clocks answer, a
  WAN core is the reassembler of the WRITEs that it received itself: they alone decide what
  is in its buffer and what it hands to the LAN.  Nothing in the buffer ever expires.  An
  unfinished message stays until the rest of it arrives, and a core with 64 of them serves
  no other queue pair any more.
-/
import RdmaGateway.Foundation.Component
import RdmaGateway.Gateway.InOrder
import RdmaGateway.Processor.Reassembler

set_option autoImplicit false

namespace RdmaGateway.Gateway

open RdmaGateway.Foundation
open RdmaGateway.Dpdk
open RdmaGateway.Wire
open RdmaGateway.Roce
open RdmaGateway.Tunnel
open RdmaGateway.Arq
open RdmaGateway.Reassembly
open RdmaGateway.Processor

variable {L W : Nat}

/-- The jitter buffer of WAN core `j`. -/
def Cores.bufferOf (g : Cores L W) (j : Fin W) : JitterBuffer Mbuf :=
  (g.procs (wanIndex j)).jitterBuffer

/-- The WRITE that the call brings to WAN core `j`, if it does. -/
def CoreCall.writeFor (j : Fin W) : CoreCall L W → Option Mbuf
  | .wanRx j' m => if j' = j ∧ m.isRoceWrite then some m else none
  | _ => none

theorem receivedWrites_eq (j : Fin W) (calls : List (CoreCall L W)) :
    receivedWrites j calls = calls.filterMap fun c => c.writeFor j := by
  rw [receivedWrites, wanReceived, List.filter_filterMap]
  refine List.filterMap_congr fun c _ => ?_
  cases c with
  | lanRx i m => rfl
  | wanRx j' m => by_cases hj : j' = j <;> simp [CoreCall.writeFor, hj, Option.filter]
  | timer j' => rfl

theorem writeFor_eq_some {j : Fin W} {c : CoreCall L W} {m : Mbuf} (h : c.writeFor j = some m) :
    c = .wanRx j m ∧ m.isRoceWrite := by
  cases c with
  | lanRx i m' => cases h
  | wanRx j' m' =>
    rw [CoreCall.writeFor] at h
    split at h
    · rename_i hyes
      cases h
      exact ⟨by rw [hyes.1], hyes.2⟩
    · cases h
  | timer j' => cases h

/-- What does not change in a run: the windows of the WAN cores are empty, and the address of
the gateway is the one set at the start. -/
def AsConfigured (srcIp : Nat) (g : Cores L W) : Prop :=
  WanWindowsEmpty g ∧ g.host.wanTunnelSrcIp = srcIp

theorem asConfigured_run (host : Host) (calls : List (CoreCall L W)) :
    AsConfigured host.wanTunnelSrcIp (run Cores.step (Cores.init L W host) calls) :=
  ⟨wan_windows_empty host calls, (init_config host calls).2⟩

/-- A WAN core is a reassembler of its own. -/
theorem wan_core_isComponent (srcIp : Nat) (j : Fin W) :
    IsComponent (AsConfigured (L := L) srcIp) Cores.step (fun g c => g.handsOf j c)
      (fun g => g.bufferOf j) (fun c => c.writeFor j) (fun jb m => (reassemble jb m).1)
      fun jb m => (reassemble jb m).2.map (setSrcAddr srcIp) where
  keeps := by
    rintro g c ⟨hwindows, hsrc⟩
    exact ⟨hwindows.step c, (step_config hwindows c).2.trans hsrc⟩
  takes := by
    rintro g c m ⟨hwindows, hsrc⟩ hread
    obtain ⟨rfl, hwrite⟩ := writeFor_eq_some hread
    obtain ⟨hjb, ev, hadds, hhanded⟩ :=
      wanStep_reassembles (s := (g.procs (wanIndex j), g.host)) hwrite
    rw [Cores.handsOf, if_pos rfl, Cores.events_of_adds (c := .wanRx j m) hadds, hhanded, hsrc]
    refine ⟨?_, rfl⟩
    rw [Cores.bufferOf, Cores.step, update_jitterBuffer_self]
    exact hjb
  skips := by
    rintro g c ⟨hwindows, -⟩ hread
    rcases c.wanRx_or_notFor j with ⟨m, rfl⟩ | hnot
    · have hwrite : ¬ m.isRoceWrite := fun hyes => by simp [CoreCall.writeFor, hyes] at hread
      obtain ⟨hjb, ev, hadds, hhanded⟩ :=
        wanStep_no_write (s := (g.procs (wanIndex j), g.host)) (hwindows j) hwrite
      rw [Cores.handsOf, if_pos rfl, Cores.events_of_adds (c := .wanRx j m) hadds, hhanded]
      refine ⟨?_, rfl⟩
      rw [Cores.bufferOf, Cores.step, update_jitterBuffer_self]
      exact hjb
    · obtain ⟨-, hhands, hjb⟩ := notFor_idle hwindows [] hnot
      exact ⟨hjb, hhands⟩

/-- A WAN core from any state on, for the WRITEs that it receives from then on. -/
theorem bufferOf_run {srcIp : Nat} {g : Cores L W} (h : AsConfigured srcIp g)
    (calls : List (CoreCall L W)) (j : Fin W) :
    (run Cores.step g calls).bufferOf j = reassembled (g.bufferOf j) (receivedWrites j calls) := by
  rw [receivedWrites_eq]
  exact (wan_core_isComponent srcIp j).run h calls

theorem handedBy_run {srcIp : Nat} {g : Cores L W} (h : AsConfigured srcIp g)
    (calls : List (CoreCall L W)) (j : Fin W) :
    handedBy j g calls =
      (givenOut (g.bufferOf j) (receivedWrites j calls)).map (setSrcAddr srcIp) := by
  rw [receivedWrites_eq, givenOut, ← outputs_map]
  exact (wan_core_isComponent srcIp j).outputs h calls

theorem init_bufferOf_run (host : Host) (calls : List (CoreCall L W)) (j : Fin W) :
    (run Cores.step (Cores.init L W host) calls).bufferOf j =
      reassembled jbInit (receivedWrites j calls) :=
  bufferOf_run (asConfigured_run host []) calls j

/-- In every run of the gateway, whatever the other cores do, whatever else this core
receives, whatever its timer does and whatever ports, pool and clock answer: the buffer of
WAN core `j` is the one that `reassemble` makes of the WRITEs that the core received, in
order, and what the core handed to the LAN is what `reassemble` gave out for them. -/
theorem wan_core_reassembles (host : Host) (calls : List (CoreCall L W)) (j : Fin W) :
    (run Cores.step (Cores.init L W host) calls).bufferOf j =
        reassembled jbInit (receivedWrites j calls) ∧
      handedBy j (Cores.init L W host) calls =
        (givenOut jbInit (receivedWrites j calls)).map (setSrcAddr host.wanTunnelSrcIp) :=
  ⟨init_bufferOf_run host calls j, handedBy_run (asConfigured_run host []) calls j⟩

/-! ## Unfinished messages -/

/-- From every state the gateway reaches: a message that has begun to arrive at WAN core `j`
keeps its context, with every packet in its place, until the core hands packets of its queue
pair to the LAN.  No timer, no other queue pair and no other core ever takes it away. -/
theorem contexts_never_expire (host : Host) (before after : List (CoreCall L W)) (j : Fin W)
    {q : Nat} (hq : q ≠ 0) {ctx : JbWriteContext Mbuf}
    (hctx : ((run Cores.step (Cores.init L W host) before).bufferOf j).ctxOf q = some ctx)
    (hnone : ∀ f ∈ handedBy j (run Cores.step (Cores.init L W host) before) after,
      f.bthGetQpn ≠ q) :
    ∃ ctx', ((run Cores.step (run Cores.step (Cores.init L W host) before) after).bufferOf j).ctxOf
        q = some ctx' ∧ Retains ctx ctx' := by
  have hconf := asConfigured_run host before
  have hown : HoldsOwn ((run Cores.step (Cores.init L W host) before).bufferOf j) := by
    rw [init_bufferOf_run]
    exact holdsOwn_jbInit.reassembled _
  rw [bufferOf_run hconf]
  refine reassembled_retains hown hq hctx fun x hx => ?_
  have hx' := hnone (setSrcAddr host.wanTunnelSrcIp x) (by
    rw [handedBy_run hconf]
    exact List.mem_map_of_mem hx)
  rwa [setSrcAddr_bthGetQpn] at hx'

/-- A message of queue pair 7 is open while one of queue pair 8 is delivered. -/
theorem contexts_never_expire_seven :
    ∃ ctx', ((run Cores.step (run Cores.step (Cores.init 1 1 .unloaded) [.wanRx 0 firstOfSeven])
        [.wanRx 0 onlyOfEight, .timer 0]).bufferOf 0).ctxOf 7 = some ctx' ∧
      (ctx'.taken 0).isSome := by
  have hopen : ((reassembled jbInit [firstOfSeven]).ctxOf 7).any
      (fun ctx => (ctx.taken 0).isSome) = true := by decide +kernel
  have hgiven : ∀ x ∈ givenOut (reassembled jbInit [firstOfSeven]) [onlyOfEight],
      x.bthGetQpn ≠ 7 := by decide +kernel
  have hwrites : firstOfSeven.isRoceWrite ∧ onlyOfEight.isRoceWrite := by decide +kernel
  have hbuffer : (run Cores.step (Cores.init 1 1 .unloaded) [.wanRx 0 firstOfSeven]).bufferOf 0 =
      reassembled jbInit [firstOfSeven] := by
    rw [init_bufferOf_run]
    simp [receivedWrites, wanReceived, hwrites.1]
  have hlater : receivedWrites 0 ([.wanRx 0 onlyOfEight, .timer 0] : List (CoreCall 1 1)) =
      [onlyOfEight] := by
    simp [receivedWrites, wanReceived, hwrites.2]
  obtain ⟨ctx, hctx, htaken⟩ := (Option.any_eq_true _ _).mp hopen
  obtain ⟨ctx', hctx', hkept⟩ := contexts_never_expire .unloaded [.wanRx 0 firstOfSeven]
    [.wanRx 0 onlyOfEight, .timer 0] 0 (by decide) (hbuffer ▸ hctx) fun f hf => by
      rw [handedBy_run (asConfigured_run .unloaded _), hbuffer, hlater] at hf
      obtain ⟨x, hx, rfl⟩ := List.mem_map.mp hf
      rw [setSrcAddr_bthGetQpn]
      exact hgiven x hx
  obtain ⟨seg, hseg⟩ := Option.isSome_iff_exists.mp htaken
  exact ⟨ctx', hctx', by rw [hkept.taken 0 (by decide) seg hseg]; rfl⟩

/-! ## A full buffer -/

theorem reassembled_full {jb : JitterBuffer Mbuf} {ms : List Mbuf} (hfull : ¬ jb.HasFreeSlot)
    (hnew : ∀ m ∈ ms, jb.ctxOf m.bthGetQpn = none) :
    reassembled jb ms = jb ∧ givenOut jb ms = [] :=
  run_of_still fun m hm => by
    rw [reassemble_full hfull (hnew m hm)]
    exact ⟨rfl, rfl⟩

/-- From every state the gateway reaches: while the buffer of WAN core `j` has no free slot,
no WRITE of another queue pair gets through, and as long as only such WRITEs arrive, with
anything else at any time, the buffer stays as it is. -/
theorem full_buffer_blocks (host : Host) (before after : List (CoreCall L W)) (j : Fin W)
    (hfull : ¬ ((run Cores.step (Cores.init L W host) before).bufferOf j).HasFreeSlot)
    (hnew : ∀ m ∈ receivedWrites j after,
      ((run Cores.step (Cores.init L W host) before).bufferOf j).ctxOf m.bthGetQpn = none) :
    (run Cores.step (run Cores.step (Cores.init L W host) before) after).bufferOf j =
        (run Cores.step (Cores.init L W host) before).bufferOf j ∧
      handedBy j (run Cores.step (Cores.init L W host) before) after = [] := by
  have hconf := asConfigured_run host before
  obtain ⟨hjb, hout⟩ := reassembled_full hfull hnew
  rw [bufferOf_run hconf, handedBy_run hconf, hjb, hout]
  exact ⟨rfl, rfl⟩

/-- The first packets of 64 messages, of queue pairs 1 to 64. -/
def firstPackets : List Mbuf :=
  (List.range 64).map fun k => writeFrame k roceOpcodeWriteFirst (k + 1) 0

/-- They reach the only WAN core of a gateway, and nothing follows them. -/
def abandoned : List (CoreCall 1 1) := firstPackets.map fun m => .wanRx 0 m

/-- A message of queue pair 65. -/
def newcomer : Mbuf := writeFrame 64 roceOpcodeWriteOnly 65 0

theorem received_abandoned : receivedWrites 0 abandoned = firstPackets := by
  have hwrites : ∀ m ∈ firstPackets, m.isRoceWrite := by decide +kernel
  rw [receivedWrites_eq, abandoned, List.filterMap_map]
  refine (List.filterMap_congr fun m hm => ?_).trans List.filterMap_some
  exact if_pos ⟨rfl, hwrites m hm⟩

/-- From then on the core delivers no message of queue pair 65. -/
theorem full_buffer_blocks_newcomer :
    handedBy 0 (run Cores.step (Cores.init 1 1 .unloaded) abandoned) [.wanRx 0 newcomer] = [] := by
  have hbuffer : (run Cores.step (Cores.init 1 1 .unloaded) abandoned).bufferOf 0 =
      reassembled jbInit firstPackets := by
    rw [init_bufferOf_run, received_abandoned]
  have hslots : ∀ i, ((reassembled jbInit firstPackets).writes i).qpn ≠ 0 ∧
      ((reassembled jbInit firstPackets).writes i).qpn ≠ newcomer.bthGetQpn := by decide +kernel
  refine (full_buffer_blocks .unloaded abandoned [.wanRx 0 newcomer] 0 ?_ ?_).2
  · rw [hbuffer]
    rintro ⟨i, -, hzero⟩
    exact (hslots i).1 hzero
  · intro m hm
    have hself : m = newcomer := by
      rw [receivedWrites_eq] at hm
      obtain ⟨c, hc, hread⟩ := List.mem_filterMap.mp hm
      rw [List.mem_singleton.mp hc] at hread
      exact (CoreCall.wanRx.inj (writeFor_eq_some hread).1).2.symm
    rw [hbuffer, hself]
    exact ctxOf_eq_none.mpr fun i => (hslots i).2

end RdmaGateway.Gateway
