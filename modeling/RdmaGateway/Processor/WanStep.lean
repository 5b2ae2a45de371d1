/-
  Processor/WanStep.lean --- what one call of `proc_process_wan_rx` can do.

  A frame that is neither control message nor RoCE WRITE is freed.  A control
  message acts on the window of its QPN and is freed.  A WRITE is refused when the
  jitter buffer has no context for it; else it is stored, or freed as a duplicate,
  a NACK may go out, and when that completes the WRITE its segments are handed to
  the LAN, everything the context still points to is freed and an ACK goes out.
  `wan_outcome` says that there is nothing else, and `wan_path` which of the three it is.
-/
import RdmaGateway.Processor.Delivery
import RdmaGateway.Processor.Windows

set_option autoImplicit false

namespace RdmaGateway.Processor

open RdmaGateway.Foundation
open RdmaGateway.Dpdk
open RdmaGateway.Wire
open RdmaGateway.Roce
open RdmaGateway.Tunnel
open RdmaGateway.Arq
open RdmaGateway.Reassembly

/-! ## Delivery -/

/-- The events of handing segments to the LAN, each with the source address set. -/
inductive HandsOver (srcIp : Nat) : List Mbuf → List (Event Mbuf) → Prop
  | nil : HandsOver srcIp [] []
  | cons {seg : Mbuf} {segs : List Mbuf} {ev : List (Event Mbuf)} (accepted : Bool)
      (h : HandsOver srcIp segs ev) :
      HandsOver srcIp (seg :: segs) (txEvents .lan (setSrcAddr srcIp seg) accepted ++ ev)

theorem handOver_events (segs : List Mbuf) : ∀ host : Host,
    ∃ ev, Adds host (segs.foldl wanHandOver host) ev ∧ HandsOver host.wanTunnelSrcIp segs ev := by
  induction segs with
  | nil => exact fun host => ⟨[], .refl host, .nil⟩
  | cons seg segs ih =>
    intro host
    have hone := txOrFree_adds host .lan (wanPrepareForLan host seg)
    obtain ⟨ev, hadds, hhands⟩ := ih (wanHandOver host seg)
    rw [show (wanHandOver host seg).wanTunnelSrcIp = host.wanTunnelSrcIp from
      hone.wanTunnelSrcIp] at hhands
    exact ⟨_, hone.trans hadds, .cons _ hhands⟩

/-- What is handed over is one of the segments, readdressed, and goes to the LAN. -/
theorem HandsOver.of_mem {srcIp : Nat} {segs : List Mbuf} {ev : List (Event Mbuf)}
    (h : HandsOver srcIp segs ev) {port : Port} {f : Mbuf} {accepted : Bool}
    (hf : .txBurst port f accepted ∈ ev) : port = .lan ∧ ∃ seg ∈ segs, f = setSrcAddr srcIp seg := by
  induction h with
  | nil => cases hf
  | @cons seg segs ev accepted' _ ih =>
    rcases List.mem_append.mp hf with hf | hf
    · have hself : port = .lan ∧ f = setSrcAddr srcIp seg := by
        cases accepted' <;> simp [txEvents] at hf <;> exact ⟨hf.1, hf.2.1⟩
      exact ⟨hself.1, seg, List.mem_cons_self, hself.2⟩
    · obtain ⟨hport, seg', hseg', hf'⟩ := ih hf
      exact ⟨hport, seg', List.mem_cons_of_mem _ hseg', hf'⟩

/-- The buffers that a context of the QPN points to. -/
def heldOf (jb : JitterBuffer Mbuf) (qpn : Nat) : List Mbuf :=
  (jb.ctxOf qpn).elim [] JbWriteContext.held

/-- The control messages that packet `m` can cause. -/
def IsCtrlFor (host : Host) (m : Mbuf) (type : Nat) (port : Port) (f : Mbuf) : Prop :=
  ∃ psn, IsCtrlMsg host.wanTunnelSrcIp (wanGetPeerIp host (bswap32 m.ipDstAddr)) m.bthGetQpn type
    psn port f

theorem isCtrlFor_of_adds {host host' : Host} {ev : List (Event Mbuf)} (h : Adds host host' ev)
    (m : Mbuf) (type : Nat) : IsCtrlFor host' m type = IsCtrlFor host m type := by
  unfold IsCtrlFor wanGetPeerIp
  rw [h.wanTunnelSrcIp, h.peerManager]

/-- A complete WRITE is delivered, and nothing happens otherwise. -/
inductive DeliverOutcome (proc : ProcessorContext) (host : Host) (m : Mbuf)
    (r : ProcessorContext × Host) : Prop
  | waits (hsame : r = (proc, host))
      (hno : ¬ (jbIsWriteComplete proc.jitterBuffer m.bthGetQpn = true ∧
        (jbGetOrderedSegs proc.jitterBuffer m.bthGetQpn).1 = 0 ∧
        0 < (jbGetOrderedSegs proc.jitterBuffer m.bthGetQpn).2.length))
  | delivers {out : List Mbuf} {evHand evAck : List (Event Mbuf)} {io : Io Mbuf}
      (hcomplete : jbIsWriteComplete proc.jitterBuffer m.bthGetQpn = true)
      (hout : jbGetOrderedSegs proc.jitterBuffer m.bthGetQpn = (0, out)) (hpos : 0 < out.length)
      (hjb : r.1.jitterBuffer = (jbRemoveWrite proc.jitterBuffer m.bthGetQpn io).1)
      (hhands : HandsOver host.wanTunnelSrcIp out evHand)
      (hown : OwnTraffic (IsCtrlFor host m arqMsgAck) evAck)
      (hadds : Adds host r.2
        (evHand ++ (heldOf proc.jitterBuffer m.bthGetQpn).map .free ++ evAck))
      (hsent : PoolServes host →
        ∃ f accepted, .txBurst .wan f accepted ∈ evAck ∧ IsCtrlFor host m arqMsgAck .wan f)

theorem wanDeliver_outcome (proc : ProcessorContext) (m : Mbuf) (host : Host) :
    DeliverOutcome proc host m (wanDeliver proc m host) := by
  unfold wanDeliver
  dsimp only
  split
  · rename_i hcomplete
    generalize hout : jbGetOrderedSegs proc.jitterBuffer m.bthGetQpn = segs
    obtain ⟨rc, out⟩ := segs
    dsimp only
    split
    · rename_i hrc
      obtain ⟨rfl, hpos⟩ := hrc
      obtain ⟨evHand, hadds₁, hhands⟩ := handOver_events out host
      generalize out.foldl wanHandOver host = host₁ at hadds₁ ⊢
      have hadds₂ : Adds host₁
          { host₁ with io := (jbRemoveWrite proc.jitterBuffer m.bthGetQpn host₁.io).2 }
          ((heldOf proc.jitterBuffer m.bthGetQpn).map .free) := by
        refine adds_withIo ?_ (by simp)
        rw [jbRemoveWrite_trace, heldOf]
        cases proc.jitterBuffer.ctxOf m.bthGetQpn <;> rfl
      obtain ⟨hjb, -, evAck, hadds₃, hown⟩ := wanSendCtrl_emits
        { proc with jitterBuffer := (jbRemoveWrite proc.jitterBuffer m.bthGetQpn host₁.io).1 }
        m.bthGetQpn arqMsgAck m.bthGetPsn m .arqAckSent
        { host₁ with io := (jbRemoveWrite proc.jitterBuffer m.bthGetQpn host₁.io).2 }
      refine .delivers hcomplete hout hpos hjb hhands ?_ ((hadds₁.trans hadds₂).trans hadds₃)
        fun hpool => ?_
      · rw [← isCtrlFor_of_adds (hadds₁.trans hadds₂)]
        exact hown.mono fun _ _ h => ⟨m.bthGetPsn, h⟩
      · rw [PoolServes, ← (hadds₁.trans hadds₂).oracle] at hpool
        obtain ⟨f, accepted, hmem, hctrl⟩ := wanSendCtrl_sends hpool _ _ _ _ _ _ hadds₃
        rw [← isCtrlFor_of_adds (hadds₁.trans hadds₂)]
        exact ⟨f, accepted, hmem, m.bthGetPsn, hctrl⟩
    · rename_i hno
      exact .waits rfl fun h => hno (by rw [hout] at h; exact h.2)
  · rename_i hno
    exact .waits rfl fun h => hno h.1

/-- The NACK after a stored segment. -/
theorem wanNack_emits (proc : ProcessorContext) (m : Mbuf) (host : Host) :
    (wanNack proc m host).1.jitterBuffer = proc.jitterBuffer ∧
      ∃ ev, Adds host (wanNack proc m host).2 ev ∧ OwnTraffic (IsCtrlFor host m arqMsgNack) ev := by
  unfold wanNack
  dsimp only
  split
  · obtain ⟨hjb, -, ev, hadds, hown⟩ := wanSendCtrl_emits proc m.bthGetQpn arqMsgNack
      (jbCheckMissing proc.jitterBuffer m.bthGetQpn) m .nackSent host
    exact ⟨hjb, ev, hadds, hown.mono fun _ _ h => ⟨_, h⟩⟩
  · exact ⟨rfl, [], .refl host, .nil⟩

/-! ## A WRITE -/

/-- What `jb_add_seg` answers for the packet, and the buffer it leaves. -/
def addSegOf (proc : ProcessorContext) (host : Host) (m : Mbuf) :
    Int × JitterBuffer Mbuf × Io Mbuf :=
  jbAddSeg proc.jitterBuffer m.bthGetQpn m.bthGetPsn (getSegmentType m.bthOpcode) m host.io

/-- A stored segment is answered with `1`. -/
theorem addSegOf_fst_eq_one {proc : ProcessorContext} (host : Host) {m : Mbuf}
    (hroom : proc.jitterBuffer.ctxOf m.bthGetQpn = none → proc.jitterBuffer.HasFreeSlot)
    (hnew : ∀ c, proc.jitterBuffer.ctxOf m.bthGetQpn = some c →
      ¬ c.Received (c.slotOf m.bthGetPsn)) :
    (addSegOf proc host m).1 = 1 := by
  rw [addSegOf]
  cases jbAddSeg_outcome proc.jitterBuffer m.bthGetQpn m.bthGetPsn (getSegmentType m.bthOpcode) m
      host.io with
  | full hnone hfull _ => exact absurd (hroom hnone) hfull
  | duplicate hctx hrec _ => exact absurd hrec (hnew _ hctx)
  | stored _ _ _ hr => rw [hr]
  | opened _ _ hr => rw [hr]

/-- A WRITE is refused, or taken into the buffer and tested for completion. -/
inductive WriteOutcome (proc : ProcessorContext) (host : Host) (m : Mbuf)
    (r : ProcessorContext × Host) : Prop
  | refused (hrc : (addSegOf proc host m).1 = -1) (hjb : r.1.jitterBuffer = proc.jitterBuffer)
      (hadds : Adds host r.2 [.free m])
  | taken {proc₁ : ProcessorContext} {host₁ : Host} {evAdd evNack : List (Event Mbuf)}
      (hrc : (addSegOf proc host m).1 = 0 ∧ evAdd = [.free m] ∨
        (addSegOf proc host m).1 = 1 ∧ evAdd = [])
      (hjb : proc₁.jitterBuffer = (addSegOf proc host m).2.1)
      (hown : OwnTraffic (IsCtrlFor host m arqMsgNack) evNack)
      (hadds : Adds host host₁ (evAdd ++ evNack))
      (hdel : DeliverOutcome proc₁ host₁ m r)

/-- A WRITE that `jb_add_seg` does not refuse. -/
theorem wanWrite_of_added {proc : ProcessorContext} {m : Mbuf} {host : Host} {rc : Int}
    {jb : JitterBuffer Mbuf} {io : Io Mbuf} (hadd : addSegOf proc host m = (rc, jb, io))
    (hnot : ¬ rc < 0) : wanWrite proc m host =
      let s := if rc = 1
        then wanNack { proc.count .pktsWanToLan with jitterBuffer := jb } m { host with io := io }
        else ({ proc.count .pktsWanToLan with jitterBuffer := jb }, { host with io := io })
      wanDeliver s.1 m s.2 := by
  rw [addSegOf] at hadd
  simp only [wanWrite, count_jitterBuffer, hadd, if_neg hnot]

/-- A taken WRITE, by the answer of `jb_add_seg`. -/
theorem wanWrite_taken {proc : ProcessorContext} {m : Mbuf} {host : Host} {rc : Int}
    {jb : JitterBuffer Mbuf} {io : Io Mbuf} {evAdd : List (Event Mbuf)}
    (hadd : addSegOf proc host m = (rc, jb, io))
    (hrc : rc = 0 ∧ evAdd = [.free m] ∨ rc = 1 ∧ evAdd = [])
    (hadds : Adds host { host with io := io } evAdd) :
    WriteOutcome proc host m (wanWrite proc m host) := by
  have hnot : ¬ rc < 0 := by
    rcases hrc with ⟨rfl, -⟩ | ⟨rfl, -⟩ <;> decide
  rw [wanWrite_of_added hadd hnot]
  rcases hrc with ⟨rfl, rfl⟩ | ⟨rfl, rfl⟩
  · exact .taken (Or.inl ⟨by rw [hadd], rfl⟩) (by rw [hadd]; rfl) .nil (by simpa using hadds)
      (wanDeliver_outcome _ _ _)
  · obtain ⟨hjb, evNack, hadds', hown⟩ := wanNack_emits
      { proc.count .pktsWanToLan with jitterBuffer := jb } m { host with io := io }
    rw [isCtrlFor_of_adds hadds] at hown
    exact .taken (Or.inr ⟨by rw [hadd], rfl⟩) (by rw [hadd]; exact hjb) hown (hadds.trans hadds')
      (wanDeliver_outcome _ _ _)

theorem wanWrite_outcome (proc : ProcessorContext) (m : Mbuf) (host : Host) :
    WriteOutcome proc host m (wanWrite proc m host) := by
  cases jbAddSeg_outcome proc.jitterBuffer m.bthGetQpn m.bthGetPsn (getSegmentType m.bthOpcode) m
      host.io with
  | full _ _ hr =>
    have hwrite : wanWrite proc m host =
        ((proc.count .pktsWanToLan).count .pktsDropped, host.free m) := by
      simp only [wanWrite, count_jitterBuffer, hr]
      rfl
    rw [hwrite]
    exact .refused (by rw [addSegOf, hr]) rfl (free_adds host m)
  | duplicate _ _ hr => exact wanWrite_taken hr (Or.inl ⟨rfl, rfl⟩) (free_adds host m)
  | stored _ _ _ hr => exact wanWrite_taken hr (Or.inr ⟨rfl, rfl⟩) (adds_withIo (by simp) rfl)
  | opened _ _ hr => exact wanWrite_taken hr (Or.inr ⟨rfl, rfl⟩) (adds_withIo (by simp) rfl)

/-- The delivery part appends to the trace. -/
theorem wanDeliver_adds (proc : ProcessorContext) (m : Mbuf) (host : Host) :
    ∃ ev, Adds host (wanDeliver proc m host).2 ev := by
  cases wanDeliver_outcome proc m host with
  | waits hsame _ =>
    rw [hsame]
    exact ⟨[], .refl host⟩
  | delivers _ _ _ _ _ _ hadds => exact ⟨_, hadds⟩

/-- A stored segment with the expected PSN missing: a NACK goes out. -/
theorem wanWrite_nacks {proc : ProcessorContext} {m : Mbuf} {host : Host} (hpool : PoolServes host)
    (hrc : (addSegOf proc host m).1 = 1)
    (hmiss : jbCheckMissing (addSegOf proc host m).2.1 m.bthGetQpn ≠ 0) :
    ∃ f accepted ev, .txBurst .wan f accepted ∈ ev ∧ IsCtrlFor host m arqMsgNack .wan f ∧
      Adds host (wanWrite proc m host).2 ev := by
  have hio : (addSegOf proc host m).2.2 = host.io := by
    cases jbAddSeg_outcome proc.jitterBuffer m.bthGetQpn m.bthGetPsn (getSegmentType m.bthOpcode) m
        host.io with
    | full _ _ hr => rw [addSegOf, hr] at hrc; cases hrc
    | duplicate _ _ hr => rw [addSegOf, hr] at hrc; cases hrc
    | stored _ _ _ hr => rw [addSegOf, hr]
    | opened _ _ hr => rw [addSegOf, hr]
  generalize hadd : addSegOf proc host m = r at hrc hmiss hio
  obtain ⟨rc, jb, io⟩ := r
  dsimp only at hrc hmiss hio
  subst hrc hio
  obtain ⟨-, -, ev, hadds, -⟩ := wanSendCtrl_emits
    { proc.count .pktsWanToLan with jitterBuffer := jb } m.bthGetQpn arqMsgNack
    (jbCheckMissing jb m.bthGetQpn) m .nackSent host
  obtain ⟨f, accepted, hmem, hctrl⟩ := wanSendCtrl_sends hpool _ _ _ _ _ _ hadds
  obtain ⟨ev', hadds'⟩ := wanDeliver_adds
    (wanSendCtrl { proc.count .pktsWanToLan with jitterBuffer := jb } m.bthGetQpn arqMsgNack
      (jbCheckMissing jb m.bthGetQpn) m .nackSent host).1 m
    (wanSendCtrl { proc.count .pktsWanToLan with jitterBuffer := jb } m.bthGetQpn arqMsgNack
      (jbCheckMissing jb m.bthGetQpn) m .nackSent host).2
  refine ⟨f, accepted, ev ++ ev', List.mem_append_left _ hmem, ⟨_, hctrl⟩, ?_⟩
  rw [addSegOf] at hadd
  simp only [wanWrite, count_jitterBuffer, hadd, wanNack, if_pos hmiss, if_true,
    if_neg (by decide : ¬ (1 : Int) < 0)]
  exact hadds.trans hadds'

/-- A completed WRITE: an ACK goes out. -/
theorem wanWrite_acks {proc : ProcessorContext} {m : Mbuf} {host : Host} (hpool : PoolServes host)
    (hrc : 0 ≤ (addSegOf proc host m).1)
    (hcomplete : jbIsWriteComplete (addSegOf proc host m).2.1 m.bthGetQpn = true ∧
      (jbGetOrderedSegs (addSegOf proc host m).2.1 m.bthGetQpn).1 = 0 ∧
      0 < (jbGetOrderedSegs (addSegOf proc host m).2.1 m.bthGetQpn).2.length) :
    ∃ f accepted ev, .txBurst .wan f accepted ∈ ev ∧ IsCtrlFor host m arqMsgAck .wan f ∧
      Adds host (wanWrite proc m host).2 ev := by
  cases wanWrite_outcome proc m host with
  | refused hneg _ _ =>
    rw [hneg] at hrc
    cases hrc
  | @taken proc₁ host₁ evAdd evNack _ hjb _ hadds hdel =>
    rw [← hjb] at hcomplete
    cases hdel with
    | waits _ hno => exact absurd hcomplete hno
    | @delivers out evHand evAck io _ _ _ _ _ _ hadds' hsent =>
      have hpool₁ : PoolServes host₁ := by
        rw [PoolServes, hadds.oracle]
        exact hpool
      obtain ⟨f, accepted, hmem, hctrl⟩ := hsent hpool₁
      rw [isCtrlFor_of_adds hadds] at hctrl
      exact ⟨f, accepted, _, List.mem_append_right _ (List.mem_append_right _ hmem), hctrl,
        hadds.trans hadds'⟩

/-! ## The whole call -/

/-- A WAN frame is freed, acted on as a control message, or taken for a WRITE.  On
a core whose windows are those of `arq_mgr_init` a control message does nothing but
cost its buffer. -/
inductive WanOutcome (proc : ProcessorContext) (host : Host) (m : Mbuf)
    (r : ProcessorContext × Host) : Prop
  | freed (hno : ¬ m.isRoceWrite) (hjb : r.1.jitterBuffer = proc.jitterBuffer)
      (hadds : proc.arqMgr = arqMgrInit → Adds host r.2 [.free m])
  | wrote (hwrite : m.isRoceWrite) (hout : WriteOutcome proc host m r)

/-- Feedback on windows that have never been used. -/
theorem wanFeedback_init {proc : ProcessorContext} (h : proc.arqMgr = arqMgrInit)
    (msg : ArqControlMsg) (host : Host) : Adds host (wanFeedback proc msg host).2 [] := by
  have hempty : ∀ i : Fin maxQpCtx, (proc.arqMgr.contexts i).sendNext ≤
      (proc.arqMgr.contexts i).sendBase := by
    intro i
    rw [h]
    exact le_rfl
  rw [wanFeedback]
  split
  · exact .refl host
  · rename_i i _
    split
    · rw [arqHandleAck_empty (hempty i)]
      exact adds_withIo (by simp) rfl
    split
    · have htrace : (arqHandleNack (proc.arqMgr.contexts i) msg.psn host.io).2.2 = host.io := by
        rw [arqHandleNack, ArqContext.seqs, Nat.sub_eq_zero_of_le (hempty i)]
        rfl
      dsimp only
      rw [htrace]
      exact adds_withIo (by simp) rfl
    · exact .refl host

theorem wanFeedback_jitterBuffer (proc : ProcessorContext) (msg : ArqControlMsg) (host : Host) :
    (wanFeedback proc msg host).1.jitterBuffer = proc.jitterBuffer := by
  rw [wanFeedback]
  split
  · rfl
  · split
    · rfl
    · split <;> rfl

theorem wan_outcome (proc : ProcessorContext) (m : Mbuf) (host : Host) :
    WanOutcome proc host m (procProcessWanRx proc m host) := by
  by_cases hwrite : m.isRoceWrite
  · rw [procProcessWanRx_write hwrite]
    exact .wrote hwrite (wanWrite_outcome proc m host)
  have hfree : WanOutcome proc host m (proc.count .pktsDropped, host.free m) :=
    .freed hwrite rfl fun _ => free_adds host m
  unfold procProcessWanRx
  split
  · exact hfree
  split
  · exact hfree
  split
  · unfold wanControl
    split
    · exact .freed hwrite rfl fun _ => free_adds host m
    · rename_i msg _
      refine .freed hwrite (wanFeedback_jitterBuffer proc msg host) fun h => ?_
      exact (wanFeedback_init h msg host).trans (free_adds _ m)
  split
  · exact hfree
  split
  · exact hfree
  · rename_i htype hproto _ hport hop
    exact absurd ⟨not_not.mp htype, not_not.mp hproto, not_not.mp hport, by simpa using hop⟩ hwrite

/-- The frame is addressed to the ARQ port. -/
def IsForCtrlPort (m : Mbuf) : Prop :=
  m.etherType = rteEtherTypeIpv4 ∧ m.ipProto = ipprotoUdp ∧ m.udpDstPort = arqCtrlPort

instance (m : Mbuf) : Decidable (IsForCtrlPort m) := inferInstanceAs (Decidable (_ ∧ _ ∧ _))

theorem not_isForCtrlPort_of_write {m : Mbuf} (h : m.isRoceWrite) : ¬ IsForCtrlPort m := by
  rintro ⟨-, -, hport⟩
  have hroce := h.2.2.1
  rw [hport] at hroce
  exact absurd hroce (by decide)

/-- The three ways a frame can take. -/
theorem wan_path (proc : ProcessorContext) (m : Mbuf) (host : Host) :
    (¬ m.isRoceWrite ∧ ¬ IsForCtrlPort m ∧
        procProcessWanRx proc m host = (proc.count .pktsDropped, host.free m)) ∨
      (IsForCtrlPort m ∧ procProcessWanRx proc m host = wanControl proc m host) ∨
      m.isRoceWrite ∧ procProcessWanRx proc m host = wanWrite proc m host := by
  by_cases hwrite : m.isRoceWrite
  · exact .inr (.inr ⟨hwrite, procProcessWanRx_write hwrite⟩)
  by_cases hctrl : IsForCtrlPort m
  · obtain ⟨htype, hproto, hport⟩ := hctrl
    refine .inr (.inl ⟨⟨htype, hproto, hport⟩, ?_⟩)
    rw [procProcessWanRx, if_neg (not_not.mpr htype), if_neg (not_not.mpr hproto), if_pos hport]
  refine .inl ⟨hwrite, hctrl, ?_⟩
  unfold procProcessWanRx
  split
  · rfl
  rename_i htype
  split
  · rfl
  rename_i hproto
  split
  · rename_i hport
    exact absurd ⟨not_not.mp htype, not_not.mp hproto, hport⟩ hctrl
  split
  · rfl
  rename_i hport
  split
  · rfl
  · rename_i hop
    exact absurd ⟨not_not.mp htype, not_not.mp hproto, not_not.mp hport, by simpa using hop⟩ hwrite

end RdmaGateway.Processor
