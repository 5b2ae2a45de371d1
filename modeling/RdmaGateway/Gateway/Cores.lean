/-
  Gateway/Cores.lean --- the cores of the gateway (`main` and the two main loops
  of `src/main.c`).

  `main` gives every core its own processor context: LAN core `i` runs
  `proc_process_lan_rx` on context `i`, WAN core `j` runs `proc_process_wan_rx`
  and `proc_timer_callback` on context `L + j`.  What the cores share is the
  environment and the tables of `Host`.  A step is one call of one core; the
  order of the calls is free.

  Packets enter a window on a LAN core, and feedback is looked up on a WAN core.
  The two never meet: the windows of a WAN core stay as `proc_init` left them
  (`wan_windows_empty`), and no call of a WAN core changes any window
  (`wan_calls_keep_windows`).
-/
import RdmaGateway.Processor.Windows

set_option autoImplicit false

namespace RdmaGateway.Gateway

open RdmaGateway.Foundation
open RdmaGateway.Dpdk
open RdmaGateway.Wire
open RdmaGateway.Tunnel
open RdmaGateway.Arq
open RdmaGateway.Processor

/-- `g_processors` of a gateway with `L` LAN cores and `W` WAN cores, and what the
cores share. -/
structure Cores (L W : Nat) where
  procs : Fin (L + W) → ProcessorContext
  host : Host

variable {L W : Nat}

/-- The context of LAN core `i`. -/
def lanIndex (i : Fin L) : Fin (L + W) := Fin.castAdd W i

/-- The context of WAN core `j`. -/
def wanIndex (j : Fin W) : Fin (L + W) := Fin.natAdd L j

/-- The contexts as `main` sets them up. -/
def Cores.init (L W : Nat) (host : Host) : Cores L W :=
  ⟨fun k => procInit host k (decide (k.val < L)), host⟩

/-- One call of one core. -/
inductive CoreCall (L W : Nat) where
  | lanRx (i : Fin L) (m : Mbuf)
  | wanRx (j : Fin W) (m : Mbuf)
  | timer (j : Fin W)

/-- Replace the context of one core. -/
def Cores.update (g : Cores L W) (k : Fin (L + W)) (r : ProcessorContext × Host) : Cores L W :=
  ⟨Function.update g.procs k r.1, r.2⟩

/-- The effect of one call. -/
def Cores.step (g : Cores L W) : CoreCall L W → Cores L W
  | .lanRx i m => g.update (lanIndex i) (procProcessLanRx (g.procs (lanIndex i)) m g.host)
  | .wanRx j m => g.update (wanIndex j) (procProcessWanRx (g.procs (wanIndex j)) m g.host)
  | .timer j => g.update (wanIndex j) (procTimerCallback (g.procs (wanIndex j)) g.host)

theorem lanIndex_ne_wanIndex (i : Fin L) (j : Fin W) :
    (lanIndex i : Fin (L + W)) ≠ wanIndex j := by
  intro h
  have hval := congrArg Fin.val h
  simp only [lanIndex, wanIndex, Fin.val_castAdd, Fin.val_natAdd] at hval
  omega

/-! ## The windows of the WAN cores -/

/-- No WAN core has ever put a packet into a window. -/
def WanWindowsEmpty (g : Cores L W) : Prop := ∀ j, (g.procs (wanIndex j)).arqMgr = arqMgrInit

/-- A call that leaves the windows of WAN core `j` empty, if they were. -/
theorem WanWindowsEmpty.update {g : Cores L W} (h : WanWindowsEmpty g) (j : Fin W)
    {r : ProcessorContext × Host} (hr : r.1.arqMgr = arqMgrInit) :
    WanWindowsEmpty (g.update (wanIndex j) r) := by
  intro j'
  by_cases hj : (wanIndex j' : Fin (L + W)) = wanIndex j
  · rw [Cores.update, hj]
    simpa using hr
  · simpa [Cores.update, hj] using h j'

theorem WanWindowsEmpty.step {g : Cores L W} (h : WanWindowsEmpty g) (c : CoreCall L W) :
    WanWindowsEmpty (g.step c) := by
  cases c with
  | lanRx i m =>
    intro j
    simpa [Cores.step, Cores.update, (lanIndex_ne_wanIndex i j).symm] using h j
  | wanRx j m => exact h.update j (procProcessWanRx_arqMgr_init (h j) m g.host)
  | timer j => exact h.update j (procTimerCallback_arqMgr_init (h j) g.host)

/-- The windows of the WAN cores are empty in every state the gateway reaches. -/
theorem wan_windows_empty (host : Host) (calls : List (CoreCall L W)) :
    WanWindowsEmpty (run Cores.step (Cores.init L W host) calls) :=
  run_induction (fun _ c h _ => h.step c) (fun _ => rfl)
    (stepsMeet_of_forall (C := fun _ _ => True) (fun _ _ _ => trivial) _)

/-- In such a state a packet from the WAN changes no window of any core. -/
theorem wan_calls_keep_windows {g : Cores L W} (h : WanWindowsEmpty g) (j : Fin W) (m : Mbuf)
    (k : Fin (L + W)) :
    ((g.step (.wanRx j m)).procs k).arqMgr = (g.procs k).arqMgr := by
  by_cases hk : k = wanIndex j
  · subst hk
    rw [h j]
    exact h.step (.wanRx j m) j
  · simp [Cores.step, Cores.update, hk]

/-! ## Feedback -/

/-- A window of context `k` for the QPN holds the packet `m`, in flight, under the
PSN. -/
def Cores.InFlight (g : Cores L W) (k : Fin (L + W)) (qpn psn : Nat) (m : Mbuf) : Prop :=
  ∃ c i, ((g.procs k).arqMgr.contexts c).qpn = qpn ∧
    (((g.procs k).arqMgr.contexts c).entry i).inFlight = true ∧
    (((g.procs k).arqMgr.contexts c).entry i).psn = psn ∧
    (((g.procs k).arqMgr.contexts c).entry i).mbuf = some m

/-- The frame is an `ARQ_MSG_ACK` for a QPN other than 0. -/
def IsAck (m : Mbuf) (msg : ArqControlMsg) : Prop :=
  ctrlMsgOf m = some msg ∧ msg.type = arqMsgAck ∧ msg.qpn ≠ 0

/-- When WAN core `j` has processed the frame `m`, and it was an acknowledgement,
no covered packet that a LAN core had in flight before is still in flight on any
core. -/
def FeedbackReaches (g : Cores L W) (j : Fin W) (m : Mbuf) : Prop :=
  ∀ msg, IsAck m msg → ∀ (i : Fin L) (psn : Nat) (packet : Mbuf),
    g.InFlight (lanIndex i) msg.qpn psn packet → Covers msg.psn psn →
    ∀ k, ¬ (g.step (.wanRx j m)).InFlight k msg.qpn psn packet

/-- The acknowledgement covers no packet that a LAN core has in flight. -/
def NothingToRelease (g : Cores L W) (m : Mbuf) : Prop :=
  ∀ msg, IsAck m msg → ∀ (i : Fin L) (psn : Nat) (packet : Mbuf),
    g.InFlight (lanIndex i) msg.qpn psn packet → ¬ Covers msg.psn psn

/-- In every state the gateway reaches, an acknowledgement from the WAN clears
what it covers exactly when it covers nothing. -/
theorem feedback_reaches_iff (host : Host) (calls : List (CoreCall L W)) (j : Fin W) (m : Mbuf) :
    FeedbackReaches (run Cores.step (Cores.init L W host) calls) j m ↔
      NothingToRelease (run Cores.step (Cores.init L W host) calls) m := by
  have hempty := wan_windows_empty host calls
  constructor
  · intro hreach msg hack i psn packet hflight hcov
    refine hreach msg hack i psn packet hflight hcov (lanIndex i) ?_
    rwa [Cores.InFlight, wan_calls_keep_windows hempty j m]
  · intro hnone msg hack i psn packet hflight hcov
    exact absurd hcov (hnone msg hack i psn packet hflight)

/-! ## One core on each side -/

/-- A WRITE packet of QPN 7 with PSN 0. -/
def writePacket : Mbuf := writeFrame 0 roceOpcodeWriteOnly 7 0

/-- The acknowledgement of PSN 0 of QPN 7. -/
def ackPacket : Mbuf :=
  ⟨1, 2048, 318, ctrlFrame (fun _ => 0) (.fill 0xFF) 0 0 7 arqMsgAck 0 none 0⟩

/-- The LAN core has processed one packet. -/
def oneTracked : Cores 1 1 :=
  run Cores.step (Cores.init 1 1 .unloaded) [.lanRx 0 writePacket]

/-- The peer acknowledges the only packet the gateway tracks, and the packet stays
in flight. -/
theorem feedback_misses_tracked : ¬ FeedbackReaches oneTracked 0 ackPacket := by
  intro hreach
  have hmsg : ctrlMsgOf ackPacket = some ⟨arqMagic, arqMsgAck, 7, 0, 0, []⟩ :=
    ctrlMsgOf_ctrlFrame ⟨1, 2048, 318, fun _ => 0⟩ _ _ _ _ _ _ _
  have hheld : (((oneTracked.procs (lanIndex 0)).arqMgr.contexts 0).entry 0).mbuf.isSome = true := by
    decide +kernel
  obtain ⟨packet, hpacket⟩ := Option.isSome_iff_exists.mp hheld
  have hflight : oneTracked.InFlight (lanIndex 0) 7 0 packet :=
    ⟨0, 0, by decide +kernel, by decide +kernel, by decide +kernel, hpacket⟩
  have hclears := hreach ⟨arqMagic, arqMsgAck, 7, 0, 0, []⟩ ⟨hmsg, rfl, Nat.succ_ne_zero 6⟩ 0 0
    packet
  dsimp only at hclears
  refine hclears hflight (by decide +kernel) (lanIndex 0) ?_
  have hempty : WanWindowsEmpty oneTracked := wan_windows_empty .unloaded _
  rwa [Cores.InFlight, wan_calls_keep_windows hempty 0 ackPacket]

end RdmaGateway.Gateway
