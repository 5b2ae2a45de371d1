/-
  Processor/Windows.lean --- what a step of a core does to its retransmit windows.

  Of the three entry points only `proc_process_lan_rx` puts packets into a window,
  and only `lanTrack` does it there.  The data path of `proc_process_wan_rx` never
  touches a window; its control path and the timer act on windows that are there
  already.  So a core that never runs the LAN path keeps the windows `proc_init`
  gave it, all empty.
-/
import RdmaGateway.Arq.Slots
import RdmaGateway.Processor.Delivery

set_option autoImplicit false

namespace RdmaGateway.Processor

open RdmaGateway.Foundation
open RdmaGateway.Dpdk
open RdmaGateway.Wire
open RdmaGateway.Roce
open RdmaGateway.Tunnel
open RdmaGateway.Arq
open RdmaGateway.Reassembly

/-! ## The WAN path -/

theorem wanDeliver_arqMgr (proc : ProcessorContext) (m : Mbuf) (host : Host) :
    (wanDeliver proc m host).1.arqMgr = proc.arqMgr := by
  unfold wanDeliver
  dsimp only
  split
  · split
    · exact (wanSendCtrl_adds _ _ _ _ _ _ _).2.1
    · rfl
  · rfl

/-- The data path leaves the windows alone. -/
theorem wanWrite_arqMgr (proc : ProcessorContext) (m : Mbuf) (host : Host) :
    (wanWrite proc m host).1.arqMgr = proc.arqMgr := by
  unfold wanWrite
  dsimp only
  split
  · rfl
  · rw [wanDeliver_arqMgr]
    split
    · exact (wanNack_spec _ _ _).2.1
    · rfl

/-- A window with nothing outstanding ignores negative acknowledgements. -/
theorem arqHandleNack_empty {arq : ArqContext Mbuf} (h : arq.sendNext ≤ arq.sendBase) (psn : Nat)
    (io : Io Mbuf) : (arqHandleNack arq psn io).2.1 = arq := by
  rw [arqHandleNack, ArqContext.seqs, Nat.sub_eq_zero_of_le h]
  rfl

/-- On a core whose windows are those of `arq_mgr_init` feedback finds nothing to
act on. -/
theorem wanFeedback_arqMgr_init {proc : ProcessorContext} (h : proc.arqMgr = arqMgrInit)
    (msg : ArqControlMsg) (host : Host) :
    (wanFeedback proc msg host).1.arqMgr = arqMgrInit := by
  rw [wanFeedback]
  split
  · exact h
  · rename_i i _
    have hempty : (proc.arqMgr.contexts i).sendNext ≤ (proc.arqMgr.contexts i).sendBase := by
      simp [h, arqMgrInit, ArqContext.fresh]
    split
    · rw [arqHandleAck_empty hempty, count_arqMgr, setContext_self, h]
    · split
      · rw [count_arqMgr, arqHandleNack_empty hempty, setContext_self, h]
      · exact h

/-- Such a core keeps its windows when it processes a packet from the WAN, whatever
the packet is. -/
theorem procProcessWanRx_arqMgr_init {proc : ProcessorContext} (h : proc.arqMgr = arqMgrInit)
    (m : Mbuf) (host : Host) : (procProcessWanRx proc m host).1.arqMgr = arqMgrInit := by
  have hctrl : (wanControl proc m host).1.arqMgr = arqMgrInit := by
    rw [wanControl]
    split
    · exact h
    · exact wanFeedback_arqMgr_init h _ host
  rw [procProcessWanRx]
  split
  · exact h
  · split
    · exact h
    · split
      · exact hctrl
      · split
        · exact h
        · split
          · exact h
          · rw [wanWrite_arqMgr, h]

theorem timerVisit_of_unused {s : ArqManager Mbuf × Io Mbuf} {i : Fin maxQpCtx}
    (h : (s.1.contexts i).qpn = 0) : timerVisit s i = s := by
  rw [timerVisit, if_neg (not_not.mpr h)]

/-- The timer finds no window to visit on such a core. -/
theorem foldl_timerVisit_init (is : List (Fin maxQpCtx)) (io : Io Mbuf) :
    is.foldl timerVisit (arqMgrInit, io) = (arqMgrInit, io) := by
  induction is with
  | nil => rfl
  | cons i is ih => rw [List.foldl_cons, timerVisit_of_unused rfl, ih]

theorem procTimerCallback_arqMgr_init {proc : ProcessorContext} (h : proc.arqMgr = arqMgrInit)
    (host : Host) : (procTimerCallback proc host).1.arqMgr = arqMgrInit := by
  rw [procTimerCallback, h, foldl_timerVisit_init]
  dsimp only
  split <;> rfl

theorem procTimerCallback_keeps {proc : ProcessorContext} (h : proc.arqMgr = arqMgrInit)
    (host : Host) : (procTimerCallback proc host).2.peerManager = host.peerManager ∧
      (procTimerCallback proc host).2.wanTunnelSrcIp = host.wanTunnelSrcIp := by
  rw [procTimerCallback, h, foldl_timerVisit_init]
  exact ⟨rfl, rfl⟩

theorem procTimerCallback_idle {proc : ProcessorContext} (h : proc.arqMgr = arqMgrInit)
    (host : Host) : (procTimerCallback proc host).2.io.trace = host.io.trace ∧
      (procTimerCallback proc host).1.jitterBuffer = proc.jitterBuffer := by
  rw [procTimerCallback, h, foldl_timerVisit_init]
  refine ⟨rfl, ?_⟩
  dsimp only
  split <;> rfl

end RdmaGateway.Processor
