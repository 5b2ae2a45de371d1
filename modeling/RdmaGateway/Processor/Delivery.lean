/-
  Processor/Delivery.lean --- the WAN core refines the reassembler of a flow.

  For a packet of a RoCE WRITE, `proc_process_wan_rx` does to the context of the
  packet's QPN what `arrive` does, hands to the LAN port exactly what `arrive`
  delivers, and sends an ARQ acknowledgement only together with a delivery, for
  the PSN of the packet just processed.  The results about whole runs rest on
  this and never look at the processor again.
-/
import RdmaGateway.Foundation.Run
import RdmaGateway.Reassembly.Flow
import RdmaGateway.Processor.Effects

set_option autoImplicit false

namespace RdmaGateway.Processor

open RdmaGateway.Foundation
open RdmaGateway.Dpdk
open RdmaGateway.Wire
open RdmaGateway.Roce
open RdmaGateway.Tunnel
open RdmaGateway.Arq
open RdmaGateway.Reassembly

/-- A WAN core processes one packet. -/
def wanStep (s : ProcessorContext × Host) (m : Mbuf) : ProcessorContext × Host :=
  procProcessWanRx s.1 m s.2

/-- One arrival at the reassembler of a flow: the context left, and what is
delivered. -/
def arrive (found : Option (JbWriteContext Mbuf)) (m : Mbuf) :
    Option (JbWriteContext Mbuf) × List Mbuf :=
  release (accept found m.bthGetQpn m.bthGetPsn (getSegmentType m.bthOpcode) m)

/-- The acknowledgement for the PSN of a packet. -/
def ackFor (m : Mbuf) : ArqControlMsg := ⟨arqMagic, arqMsgAck, m.bthGetQpn, m.bthGetPsn, 0, []⟩

/-- What the outside sees of an arrival that delivers `out`. -/
structure Delivers (host host' : Host) (m : Mbuf) (out : List Mbuf) (ev : List (Event Mbuf)) :
    Prop where
  adds : Adds host host' ev
  handed : lanHanded ev = out.map (setSrcAddr host.wanTunnelSrcIp)
  acks : ∀ msg ∈ wanAcks ev, out ≠ [] ∧ msg = ackFor m

theorem Silent.delivers {host host' : Host} {ev : List (Event Mbuf)} (h : Silent ev)
    (hadds : Adds host host' ev) (m : Mbuf) : Delivers host host' m [] ev where
  adds := hadds
  handed := h.handed
  acks := fun msg hmsg => by rw [h.acks] at hmsg; cases hmsg

/-- Handing over a list of segments. -/
theorem handOver_adds (segs : List Mbuf) : ∀ host : Host,
    ∃ ev, Adds host (segs.foldl wanHandOver host) ev ∧
      lanHanded ev = segs.map (setSrcAddr host.wanTunnelSrcIp) ∧
      wanAcks ev = [] := by
  induction segs with
  | nil => intro host; exact ⟨[], .refl host, rfl, rfl⟩
  | cons seg segs ih =>
    intro host
    have hone := txOrFree_adds host .lan (wanPrepareForLan host seg)
    obtain ⟨ev, hadds, hhanded, hacks⟩ := ih (wanHandOver host seg)
    obtain ⟨hh, -, hk⟩ := txEvents_lan (wanPrepareForLan host seg) (Host.accepts host .lan)
    have hsrc : (wanHandOver host seg).wanTunnelSrcIp = host.wanTunnelSrcIp := hone.wanTunnelSrcIp
    refine ⟨_, hone.trans hadds, ?_, ?_⟩
    · rw [lanHanded_append, hh, hhanded, hsrc]
      rfl
    · rw [wanAcks_append, hk, hacks]
      rfl

theorem ackFor_eq (m : Mbuf) :
    (⟨arqMagic, arqMsgAck % 256, m.bthGetQpn % 4294967296, m.bthGetPsn % 4294967296, 0, []⟩ :
      ArqControlMsg) = ackFor m := by
  have hqpn := m.bthGetQpn_lt
  have hpsn := m.bthGetPsn_lt
  rw [Nat.mod_eq_of_lt (by decide : arqMsgAck < 256), Nat.mod_eq_of_lt (by omega),
    Nat.mod_eq_of_lt (by omega)]
  rfl

section Step

variable {proc : ProcessorContext} {host : Host} {m : Mbuf}

variable (host) in
/-- The delivery part of the WAN path computes `release`. -/
theorem wanDeliver_spec {ctx : JbWriteContext Mbuf} (hq : m.bthGetQpn ≠ 0)
    (hfound : proc.jitterBuffer.ctxOf m.bthGetQpn = some ctx) :
    (proc.jitterBuffer.QpnsDistinct ∨ (release ctx).2 = [] →
        (wanDeliver proc m host).1.jitterBuffer.ctxOf m.bthGetQpn = (release ctx).1) ∧
      (proc.jitterBuffer.OnlyFlow m.bthGetQpn →
        (wanDeliver proc m host).1.jitterBuffer.OnlyFlow m.bthGetQpn) ∧
      ∃ ev, Delivers host (wanDeliver proc m host).2 m (release ctx).2 ev := by
  rcases jbGetOrderedSegs_release hfound with ⟨hflag, hrc, hlen, hrel⟩ | ⟨hno, hrel⟩
  · obtain ⟨ev₁, hadds₁, hhanded₁, hacks₁⟩ :=
      handOver_adds (jbGetOrderedSegs proc.jitterBuffer m.bthGetQpn).2 host
    generalize hsegs : (jbGetOrderedSegs proc.jitterBuffer m.bthGetQpn).2 = segs at *
    generalize hhost₁ : segs.foldl wanHandOver host = host₁ at *
    have hadds₂ : Adds host₁
        { host₁ with io := (jbRemoveWrite proc.jitterBuffer m.bthGetQpn host₁.io).2 }
        (ctx.held.map Event.free) :=
      adds_withIo (by rw [jbRemoveWrite_trace, hfound]; rfl) (by simp)
    obtain ⟨hjb, -, ev₃, hadds₃, hhanded₃, hacks₃⟩ := wanSendCtrl_adds
      { proc with jitterBuffer := (jbRemoveWrite proc.jitterBuffer m.bthGetQpn host₁.io).1 }
      m.bthGetQpn arqMsgAck m.bthGetPsn m .arqAckSent
      { host₁ with io := (jbRemoveWrite proc.jitterBuffer m.bthGetQpn host₁.io).2 }
    have hdeliver : wanDeliver proc m host = wanSendCtrl
        { proc with jitterBuffer := (jbRemoveWrite proc.jitterBuffer m.bthGetQpn host₁.io).1 }
        m.bthGetQpn arqMsgAck m.bthGetPsn m .arqAckSent
        { host₁ with io := (jbRemoveWrite proc.jitterBuffer m.bthGetQpn host₁.io).2 } := by
      simp only [wanDeliver, hflag, if_true, hrc, hsegs, hlen, and_self, hhost₁]
    rw [hdeliver, hrel]
    have hquiet := silent_frees ctx.held
    refine ⟨?_, fun honly => ?_, _, (hadds₁.trans hadds₂).trans hadds₃, ?_, ?_⟩
    · rintro (hdist | hnil)
      · rw [hjb]
        exact jbRemoveWrite_ctxOf_self hdist hq
      · simp only at hnil
        rw [hnil] at hlen
        exact absurd hlen (Nat.lt_irrefl 0)
    · rw [hjb]
      exact honly.removeWrite
    · rw [lanHanded_append, lanHanded_append, hhanded₁, hquiet.handed, hhanded₃]
      simp
    · intro msg hmsg
      rw [wanAcks_append, wanAcks_append, hacks₁, hquiet.acks, List.nil_append,
        List.nil_append] at hmsg
      refine ⟨?_, ((hacks₃ msg hmsg).2).trans (ackFor_eq m)⟩
      rintro rfl
      exact absurd hlen (Nat.lt_irrefl 0)
  · have hdeliver : wanDeliver proc m host = (proc, host) := by
      unfold wanDeliver
      dsimp only
      by_cases hflag : jbIsWriteComplete proc.jitterBuffer m.bthGetQpn = true
      · rw [if_pos hflag, if_neg fun h => hno ⟨hflag, h⟩]
      · rw [if_neg hflag]
    rw [hdeliver, hrel]
    exact ⟨fun _ => hfound, id, [], silent_nil.delivers (.refl host) m⟩

/-- The NACK part sends nothing that the readings see. -/
theorem wanNack_spec (proc : ProcessorContext) (m : Mbuf) (host : Host) :
    (wanNack proc m host).1.jitterBuffer = proc.jitterBuffer ∧
      (wanNack proc m host).1.arqMgr = proc.arqMgr ∧
      ∃ ev, Adds host (wanNack proc m host).2 ev ∧ Silent ev := by
  unfold wanNack
  dsimp only
  split
  · obtain ⟨hjb, harq, ev, hadds, hhanded, hacks⟩ := wanSendCtrl_adds proc m.bthGetQpn arqMsgNack
      (jbCheckMissing proc.jitterBuffer m.bthGetQpn) m .nackSent host
    refine ⟨hjb, harq, ev, hadds, hhanded, ?_⟩
    rw [List.eq_nil_iff_forall_not_mem]
    intro msg hmsg
    exact absurd (hacks msg hmsg).1 (by decide)
  · exact ⟨rfl, rfl, [], .refl host, silent_nil⟩

/-- A frame with the headers of a RoCE WRITE takes the data path. -/
theorem procProcessWanRx_write (h : m.isRoceWrite) :
    procProcessWanRx proc m host = wanWrite proc m host := by
  obtain ⟨htype, hproto, hport, hopcode⟩ := h
  have hctrl : ¬ m.udpDstPort = arqCtrlPort := by rw [hport]; decide
  have hroce : ¬ m.udpDstPort ≠ 4791 := by rw [hport]; decide
  unfold procProcessWanRx
  rw [if_neg (not_not.mpr htype), if_neg (not_not.mpr hproto), if_neg hctrl, if_neg hroce,
    if_neg (by simp [hopcode])]

variable (host) in
/-- The part of the WAN path before the delivery: the segment is stored, or freed
as a duplicate, and a NACK may go out. -/
theorem wanWrite_stored (hroom : proc.jitterBuffer.ctxOf m.bthGetQpn = none →
    proc.jitterBuffer.HasFreeSlot) :
    ∃ proc' host', wanWrite proc m host = wanDeliver proc' m host' ∧
      proc'.jitterBuffer = (jbAddSeg proc.jitterBuffer m.bthGetQpn m.bthGetPsn
        (getSegmentType m.bthOpcode) m host.io).2.1 ∧
      ∃ ev, Adds host host' ev ∧ Silent ev := by
  obtain ⟨hrc, -⟩ := jbAddSeg_accept m.bthGetPsn (getSegmentType m.bthOpcode) m host.io hroom
  have hio := jbAddSeg_io proc.jitterBuffer m.bthGetQpn m.bthGetPsn (getSegmentType m.bthOpcode) m
    host.io
  generalize hadd : jbAddSeg proc.jitterBuffer m.bthGetQpn m.bthGetPsn
    (getSegmentType m.bthOpcode) m host.io = r at hrc hio
  obtain ⟨added, jb, io⟩ := r
  have hstore : ∃ ev, Adds host { host with io := io } ev ∧ Silent ev := by
    rcases hio with rfl | rfl
    · exact ⟨[], adds_withIo (by simp) rfl, silent_nil⟩
    · exact ⟨[.free m], adds_withIo rfl rfl, silent_frees [m]⟩
  obtain ⟨ev, hadds, hsilent⟩ := hstore
  have hnot : ¬ added < 0 := not_lt.mpr hrc
  by_cases hone : added = 1
  · obtain ⟨hjb, -, ev', hadds', hsilent'⟩ := wanNack_spec
      { proc.count .pktsWanToLan with jitterBuffer := jb } m { host with io := io }
    refine ⟨_, _, ?_, hjb, _, hadds.trans hadds', hsilent.append hsilent'⟩
    simp only [wanWrite, count_jitterBuffer, hadd, if_neg hnot, if_pos hone]
  · refine ⟨{ proc.count .pktsWanToLan with jitterBuffer := jb }, { host with io := io }, ?_, rfl,
      ev, hadds, hsilent⟩
    simp only [wanWrite, count_jitterBuffer, hadd, if_neg hnot, if_neg hone]

/-- One packet of a WRITE: the context of its QPN, the LAN port and the
acknowledgements see one arrival of the flow. -/
theorem wanStep_arrive {s : ProcessorContext × Host} (hwrite : m.isRoceWrite)
    (hq : m.bthGetQpn ≠ 0)
    (hroom : s.1.jitterBuffer.ctxOf m.bthGetQpn = none → s.1.jitterBuffer.HasFreeSlot) :
    (s.1.jitterBuffer.QpnsDistinct ∨ (arrive (s.1.jitterBuffer.ctxOf m.bthGetQpn) m).2 = [] →
        (wanStep s m).1.jitterBuffer.ctxOf m.bthGetQpn =
          (arrive (s.1.jitterBuffer.ctxOf m.bthGetQpn) m).1) ∧
      (s.1.jitterBuffer.OnlyFlow m.bthGetQpn →
        (wanStep s m).1.jitterBuffer.OnlyFlow m.bthGetQpn) ∧
      ∃ ev, Delivers s.2 (wanStep s m).2 m
        (arrive (s.1.jitterBuffer.ctxOf m.bthGetQpn) m).2 ev := by
  obtain ⟨proc, host⟩ := s
  obtain ⟨proc', host', hstep, hjb, ev, hadds, hsilent⟩ := wanWrite_stored host hroom
  have hctx := (jbAddSeg_accept m.bthGetPsn (getSegmentType m.bthOpcode) m host.io hroom).2
  rw [← hjb] at hctx
  have hdist : proc.jitterBuffer.QpnsDistinct → proc'.jitterBuffer.QpnsDistinct := by
    rw [hjb]
    exact jbAddSeg_qpnsDistinct
  obtain ⟨hctx', honly, ev', hdel⟩ := wanDeliver_spec host' hq hctx
  rw [wanStep, procProcessWanRx_write hwrite, hstep]
  refine ⟨fun h => hctx' (h.imp_left hdist), fun h => honly (by rw [hjb]; exact h.addSeg),
    ev ++ ev', ?_⟩
  have hsrc : host'.wanTunnelSrcIp = host.wanTunnelSrcIp := hadds.wanTunnelSrcIp
  refine ⟨hadds.trans hdel.adds, ?_, fun msg hmsg => ?_⟩
  · rw [lanHanded_append, hsilent.handed, hdel.handed, hsrc]
    rfl
  · rw [wanAcks_append, hsilent.acks, List.nil_append] at hmsg
    exact hdel.acks msg hmsg

end Step

end RdmaGateway.Processor
