/-
  Gateway/InOrder.lean --- whole messages pass from WAN to LAN, over whole runs.

  If the WRITEs that reach a WAN core are in order for each queue pair, then whatever else
  the gateway receives and whenever its timers fire, the core hands every whole message to
  the LAN exactly once, each queue pair's messages in order, and its buffer is empty but for
  the messages that are still open.
-/
import RdmaGateway.Gateway.Icrc
import RdmaGateway.Gateway.Windows
import RdmaGateway.Processor.InOrder

set_option autoImplicit false

namespace RdmaGateway.Gateway

open RdmaGateway.Foundation
open RdmaGateway.Dpdk
open RdmaGateway.Wire
open RdmaGateway.Roce
open RdmaGateway.Tunnel
open RdmaGateway.Arq
open RdmaGateway.Reassembly
open RdmaGateway.Processor

variable {L W : Nat}

/-- The WRITEs that a run hands to WAN core `j`. -/
def receivedWrites (j : Fin W) (calls : List (CoreCall L W)) : List Mbuf :=
  (wanReceived j calls).filter fun m => m.isRoceWrite

/-- What one call hands to the LAN port, if it is one of WAN core `j`. -/
def Cores.handsOf (g : Cores L W) (j : Fin W) : CoreCall L W → List Mbuf
  | .lanRx _ _ => []
  | .wanRx j' m => if j' = j then lanHanded (g.events (.wanRx j' m)) else []
  | .timer j' => if j' = j then lanHanded (g.events (.timer j')) else []

/-- What WAN core `j` hands to the LAN port in the course of a run. -/
def handedBy (j : Fin W) (g : Cores L W) (calls : List (CoreCall L W)) : List Mbuf :=
  outputs Cores.step (fun g c => g.handsOf j c) g calls

theorem receivedWrites_concat_self (j : Fin W) (calls : List (CoreCall L W)) (m : Mbuf) :
    receivedWrites j (calls ++ [.wanRx j m]) =
      receivedWrites j calls ++ if m.isRoceWrite then [m] else [] := by
  rw [receivedWrites, wanReceived_append, List.filter_append]
  by_cases hwrite : m.isRoceWrite
  · simp [wanReceived, hwrite, receivedWrites]
  · simp [wanReceived, hwrite, receivedWrites]

/-- The call is no packet for WAN core `j`. -/
def CoreCall.NotFor (j : Fin W) : CoreCall L W → Prop
  | .wanRx j' _ => j' ≠ j
  | _ => True

theorem CoreCall.wanRx_or_notFor (j : Fin W) (c : CoreCall L W) :
    (∃ m, c = .wanRx j m) ∨ c.NotFor j := by
  cases c with
  | lanRx i m => exact .inr trivial
  | wanRx j' m =>
    by_cases hj : j' = j
    · exact .inl ⟨m, by rw [hj]⟩
    · exact .inr hj
  | timer j' => exact .inr trivial

/-- Such a call leaves the core's packets, what it handed over and its buffer as they are. -/
theorem notFor_idle {g : Cores L W} (hwindows : WanWindowsEmpty g) {j : Fin W}
    (calls : List (CoreCall L W)) {c : CoreCall L W} (h : c.NotFor j) :
    receivedWrites j (calls ++ [c]) = receivedWrites j calls ∧ g.handsOf j c = [] ∧
      ((g.step c).procs (wanIndex j)).jitterBuffer = (g.procs (wanIndex j)).jitterBuffer := by
  rw [receivedWrites, wanReceived_append]
  cases c with
  | lanRx i m =>
    refine ⟨by simp [wanReceived, receivedWrites], rfl, ?_⟩
    rw [Cores.step, update_jitterBuffer_of_ne g (lanIndex_ne_wanIndex i j).symm]
  | wanRx j' m =>
    have hj : j' ≠ j := h
    refine ⟨by simp [wanReceived, receivedWrites, hj], if_neg hj, ?_⟩
    rw [Cores.step, update_jitterBuffer_of_ne g (wanIndex_ne hj)]
  | timer j' =>
    -- the windows of a WAN core are empty, so its timer has nothing to send
    refine ⟨by simp [wanReceived, receivedWrites], ?_, ?_⟩
    · rw [Cores.handsOf, timer_events hwindows]
      exact ite_self []
    by_cases hj : j' = j
    · subst hj
      rw [Cores.step, update_jitterBuffer_self, (procTimerCallback_idle (hwindows j') g.host).2]
    · rw [Cores.step, update_jitterBuffer_of_ne g (wanIndex_ne hj)]

theorem ofQpn_map_setSrcAddr (q srcIp : Nat) (ms : List Mbuf) :
    ofQpn q (ms.map (setSrcAddr srcIp)) = (ofQpn q ms).map (setSrcAddr srcIp) := by
  rw [ofQpn, ofKey, List.filter_map]
  refine congrArg _ (List.filter_congr fun m _ => ?_)
  rw [Function.comp_apply, setSrcAddr_bthGetQpn]

/-- A message has one queue pair. -/
theorem ofQpn_completes (q : Nat) (ms : List Mbuf) (m : Mbuf) :
    ofQpn q (completes ms m) = if m.bthGetQpn = q then completes ms m else [] := by
  rw [ofQpn, ofKey]
  split
  · rename_i hq
    exact List.filter_eq_self.mpr fun x hx => by simp [mem_completes hx, hq]
  · rename_i hq
    exact List.filter_eq_nil_iff.mpr fun x hx => by simp [mem_completes hx, hq]

/-- The buffer holds the open messages, and the whole ones have been handed over. -/
structure Reassembles (srcIp : Nat) (ms handed : List Mbuf) (jb : JitterBuffer Mbuf) : Prop where
  holds : HoldsOpen ms jb
  handed_eq : ∀ q, ofQpn q handed = (wholeMessages q ms).map (setSrcAddr srcIp)

theorem reassembles_run (host : Host) (calls : List (CoreCall L W)) (j : Fin W)
    (horder : InOrder (receivedWrites j calls)) :
    Reassembles host.wanTunnelSrcIp (receivedWrites j calls)
      (handedBy j (Cores.init L W host) calls)
      ((run Cores.step (Cores.init L W host) calls).procs (wanIndex j)).jitterBuffer := by
  induction calls using List.reverseRecOn with
  | nil => exact ⟨holdsOpen_jbInit, fun _ => rfl⟩
  | append_singleton calls c ih =>
    have hwindows := wan_windows_empty host calls
    have hsrc := (init_config host calls).2
    rw [run_append, run_cons, run_nil, handedBy, outputs_concat, ← handedBy]
    generalize hg : run Cores.step (Cores.init L W host) calls = g at ih hwindows hsrc ⊢
    rcases c.wanRx_or_notFor j with ⟨m, rfl⟩ | hnot
    · rw [receivedWrites_concat_self] at horder ⊢
      obtain ⟨hholds, hhanded⟩ := ih horder.left
      have hhands : ∀ {ev}, Adds g.host (wanStep (g.procs (wanIndex j), g.host) m).2 ev →
          g.handsOf j (.wanRx j m) = lanHanded ev := fun hadds => by
        rw [Cores.handsOf, if_pos rfl, Cores.events_of_adds (c := .wanRx j m) hadds]
      rw [Cores.step, update_jitterBuffer_self]
      by_cases hwrite : m.isRoceWrite
      · rw [if_pos hwrite] at horder ⊢
        obtain ⟨hholds', ev, hadds, hev⟩ :=
          hholds.step (s := (g.procs (wanIndex j), g.host)) (hwindows j) hwrite horder.isNext
        rw [hhands hadds, hev, hsrc]
        refine ⟨hholds', fun q => ?_⟩
        rw [wholeMessages_concat, List.map_append, ← hhanded q, ofQpn, ofKey, List.filter_append]
        congr 1
        have hmap := ofQpn_map_setSrcAddr q host.wanTunnelSrcIp
          (completes (receivedWrites j calls) m)
        rw [ofQpn_completes] at hmap
        exact hmap
      · rw [if_neg hwrite, List.append_nil]
        obtain ⟨hjb, ev, hadds, hev⟩ :=
          wanStep_no_write (s := (g.procs (wanIndex j), g.host)) (hwindows j) hwrite
        rw [hhands hadds, hev, List.append_nil]
        refine ⟨?_, hhanded⟩
        rw [wanStep] at hjb
        rw [hjb]
        exact hholds
    · obtain ⟨hms, hhands, hjb⟩ := notFor_idle hwindows calls hnot
      rw [hms] at horder ⊢
      rw [hhands, hjb, List.append_nil]
      exact ih horder

/-- Over every run of the gateway, whatever else it receives: if the WRITEs that reach WAN
core `j` are in order for each queue pair, however the queue pairs are interleaved, and at
most 64 messages are open at once, then the core hands to the LAN, for each queue pair,
exactly the packets of the messages that have come whole, in order and once each, and what
is left in its buffer are the messages still open. -/
theorem in_order_messages_delivered (host : Host) (calls : List (CoreCall L W)) (j : Fin W)
    (horder : InOrder (receivedWrites j calls)) (q : Nat) (hq : q ≠ 0) :
    ofQpn q (handedBy j (Cores.init L W host) calls) =
        (wholeMessages q (receivedWrites j calls)).map (setSrcAddr host.wanTunnelSrcIp) ∧
      (((run Cores.step (Cores.init L W host) calls).procs (wanIndex j)).jitterBuffer.ctxOf q).elim
        [] JbWriteContext.held = openMessage q (receivedWrites j calls) := by
  obtain ⟨hholds, hhanded⟩ := reassembles_run host calls j horder
  exact ⟨hhanded q, hholds.held_eq hq⟩

/-- The two packets of a message for QPN 7, with a packet of QPN 8 between them. -/
def firstOfSeven : Mbuf := writeFrame 0 roceOpcodeWriteFirst 7 5
def onlyOfEight : Mbuf := writeFrame 1 roceOpcodeWriteOnly 8 0
def lastOfSeven : Mbuf := writeFrame 2 roceOpcodeWriteLast 7 6

/-- They reach a gateway with one core on each side. -/
def interleaved : List (CoreCall 1 1) :=
  [.wanRx 0 firstOfSeven, .wanRx 0 onlyOfEight, .timer 0, .wanRx 0 lastOfSeven]

theorem received_interleaved :
    receivedWrites 0 interleaved = [] ++ [firstOfSeven] ++ [onlyOfEight] ++ [lastOfSeven] := by
  have hfirst : firstOfSeven.isRoceWrite := by decide +kernel
  have honly : onlyOfEight.isRoceWrite := by decide +kernel
  have hlast : lastOfSeven.isRoceWrite := by decide +kernel
  simp [receivedWrites, wanReceived, interleaved, hfirst, honly, hlast]

/-- The message of QPN 7 is handed over whole, and nothing stays in the buffer. -/
theorem in_order_messages_delivered_interleaved :
    ofQpn 7 (handedBy 0 (Cores.init 1 1 .unloaded) interleaved) =
      [firstOfSeven, lastOfSeven].map (setSrcAddr Host.unloaded.wanTunnelSrcIp) := by
  have hqpn : firstOfSeven.bthGetQpn = 7 ∧ onlyOfEight.bthGetQpn = 8 ∧
      lastOfSeven.bthGetQpn = 7 := by decide +kernel
  obtain ⟨hseven, height, hseven'⟩ := hqpn
  have hends : endsMessage firstOfSeven = false ∧ endsMessage onlyOfEight = true ∧
      endsMessage lastOfSeven = true := by decide +kernel
  have hopen : openMessage 7 ([] ++ [firstOfSeven] ++ [onlyOfEight]) = [firstOfSeven] := by
    rw [openMessage_concat_of_ne (by rw [height]; decide), ← hseven, openMessage_concat_self,
      hends.1]
    rfl
  have horder : InOrder ([] ++ [firstOfSeven] ++ [onlyOfEight] ++ [lastOfSeven]) := by
    refine ((inOrder_nil.concat ⟨?_, ?_, ?_⟩).concat ⟨?_, ?_, ?_⟩).concat ⟨?_, ?_, ?_⟩
    · rw [hseven]; decide
    · intro first rest h
      cases h
    · intro _; decide
    · rw [height]; decide
    · intro first rest h
      rw [openMessage_concat_of_ne (by rw [hseven, height]; decide)] at h
      cases h
    · intro _; decide +kernel
    · rw [hseven']; decide
    · intro first rest h
      rw [hseven', hopen] at h
      obtain ⟨rfl, rfl⟩ := List.cons.inj h
      decide +kernel
    · intro h
      rw [hseven', hopen] at h
      cases h
  have hthm := in_order_messages_delivered .unloaded interleaved 0
    (by rw [received_interleaved]; exact horder) 7 (by decide)
  rw [received_interleaved, wholeMessages_concat, wholeMessages_concat, wholeMessages_concat,
    if_pos hseven, if_neg (by rw [height]; decide), if_pos hseven', completes, completes,
    hends.1, hends.2.2, hseven', hopen] at hthm
  exact hthm.1

end RdmaGateway.Gateway
