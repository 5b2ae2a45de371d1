/-
  Processor/Order.lean --- order of delivery and the meaning of an ARQ
  acknowledgement, over whole runs of a WAN core.

  The arrivals of a run are copies of the packets of one sender stream, in any
  order, with losses and duplicates.  The reassembler keeps nothing once a message
  is delivered: the next arrival opens a new context, whatever it is.  So both
  results carry a condition on the arrival that opens a context:

  * if it is the next packet the LAN has not seen, the LAN sees a prefix of the
    stream (`handed_prefix_of_stream`);
  * if the LAN has taken everything before it, an acknowledgement covers only
    what the LAN has taken (`acks_cover_only_delivered`).

  Without the condition both fail on two ONLY messages that arrive in the wrong
  order.
-/
import RdmaGateway.Arq.Slots
import RdmaGateway.Processor.Delivery

set_option autoImplicit false

namespace RdmaGateway.Processor

open RdmaGateway.Foundation
open RdmaGateway.Dpdk
open RdmaGateway.Wire
open RdmaGateway.Roce
open RdmaGateway.Tunnel
open RdmaGateway.Arq
open RdmaGateway.Reassembly

/-- A frame is a copy of the packet at position `pos m.id` of the stream. -/
structure IsCopy (st : SenderStream) (qpn : Nat) (pos : Nat → Nat) (m : Mbuf) : Prop where
  write : m.isRoceWrite
  qpn_eq : m.bthGetQpn = qpn
  inStream : pos m.id < st.length
  psn_eq : m.bthGetPsn = st.psn (pos m.id)
  type_eq : getSegmentType m.bthOpcode = st.segType (pos m.id)

/-- The stream positions of packets. -/
def positions (pos : Nat → Nat) (ms : List Mbuf) : List Nat := ms.map fun m => pos m.id

@[simp] theorem positions_append (pos : Nat → Nat) (ms ms' : List Mbuf) :
    positions pos (ms ++ ms') = positions pos ms ++ positions pos ms' := List.map_append

/-- The rewrite on the way to the LAN leaves a packet at its position. -/
theorem positions_setSrcAddr (pos : Nat → Nat) (srcIp : Nat) (ms : List Mbuf) :
    positions pos (ms.map (setSrcAddr srcIp)) = ms.map fun m => pos m.id := by
  simp only [positions, List.map_map]
  rfl

/-! ## One arrival -/

section Arrival

variable {st : SenderStream} {qpn : Nat} {pos : Nat → Nat} {m : Mbuf}

/-- The arrival of a copy, in terms of its stream position. -/
theorem IsCopy.arrive_eq (h : IsCopy st qpn pos m) (found : Option (JbWriteContext Mbuf)) :
    arrive found m =
      release (accept found qpn (st.psn (pos m.id)) (st.segType (pos m.id)) m) := by
  rw [arrive, h.qpn_eq, h.psn_eq, h.type_eq]

end Arrival

/-- The LAN port takes every packet that the step hands to it. -/
def LanTakes (s : ProcessorContext × Host) (m : Mbuf) : Prop :=
  lanRefused (newEvents s (wanStep s m)) = []

/-! ## A run of one flow -/

/-- What holds between the arrivals of one flow: the buffer serves this flow
alone, and an open context collects the rest of a message, still lacks a segment
of it, and was opened at a position that `Opened` admits. -/
structure FlowInv (st : SenderStream) (qpn : Nat) (pos : Nat → Nat) (Opened : Nat → Prop)
    (jb : JitterBuffer Mbuf) : Prop where
  only : jb.OnlyFlow qpn
  collects : ∀ ctx, jb.ctxOf qpn = some ctx → ∃ s n,
    CollectsAt st (fun m => pos m.id) ctx s n ∧ (∃ i < n, ¬ ctx.Received i) ∧ Opened s

/-- The arrival keeps the flow to its messages: it opens a context at a position
that `Opens` admits, with no more than 256 segments to the end of its message, or
it fits the open context. -/
def KeepsFlow (st : SenderStream) (qpn : Nat) (pos : Nat → Nat) (Opens : Nat → Prop)
    (jb : JitterBuffer Mbuf) (m : Mbuf) : Prop :=
  match jb.ctxOf qpn with
  | none => Opens (pos m.id) ∧ ∃ n, st.Tail (pos m.id) n ∧ n ≤ jbMaxSegments
  | some ctx => Fits st (fun m => pos m.id) ctx m

section Flow

variable {st : SenderStream} {qpn : Nat} {pos : Nat → Nat} {Opened : Nat → Prop}
  {s : ProcessorContext × Host} {m : Mbuf}

theorem keepsFlow_of_none {jb : JitterBuffer Mbuf} {n : Nat} (hnone : jb.ctxOf qpn = none)
    (hopens : Opened (pos m.id)) (htail : st.Tail (pos m.id) n) (hmax : n ≤ jbMaxSegments) :
    KeepsFlow st qpn pos Opened jb m := by
  rw [KeepsFlow, hnone]
  exact ⟨hopens, n, htail, hmax⟩

/-- One arrival that keeps the flow: nothing is delivered, or the rest of the
message from an admitted position on; and what is acknowledged is one of the
delivered packets. -/
theorem FlowInv.step (h : FlowInv st qpn pos Opened s.1.jitterBuffer) (hq : qpn ≠ 0)
    (hcopy : IsCopy st qpn pos m) (hkeeps : KeepsFlow st qpn pos Opened s.1.jitterBuffer m) :
    ∃ out ev, Delivers s.2 (wanStep s m).2 m out ev ∧
      (wanStep s m).1.jitterBuffer.OnlyFlow qpn ∧
      ((out = [] ∧ FlowInv st qpn pos Opened (wanStep s m).1.jitterBuffer) ∨
        (∃ start n, Opened start ∧ st.Tail start n ∧
          out.map (fun m => pos m.id) = List.range' start n ∧
          start ≤ pos m.id ∧ pos m.id < start + n ∧
          (wanStep s m).1.jitterBuffer.ctxOf qpn = none)) := by
  obtain ⟨hctx, honly, ev, hdel⟩ := wanStep_arrive hcopy.write (by rw [hcopy.qpn_eq]; exact hq)
    fun hnone => (hcopy.qpn_eq ▸ h.only).hasFreeSlot hnone
  replace hctx := hctx (Or.inl h.only.distinct)
  rw [hcopy.qpn_eq] at hctx hdel honly
  rw [hcopy.arrive_eq] at hctx hdel
  -- the context after the packet was stored, and the position it was opened at
  obtain ⟨start, n, hcollects, hopened, htrigger⟩ : ∃ start n,
      CollectsAt st (fun m => pos m.id) (accept (s.1.jitterBuffer.ctxOf qpn) qpn
        (st.psn (pos m.id)) (st.segType (pos m.id)) m) start n ∧ Opened start ∧
      ((∀ i < n, (accept (s.1.jitterBuffer.ctxOf qpn) qpn (st.psn (pos m.id))
        (st.segType (pos m.id)) m).Received i) → start ≤ pos m.id ∧ pos m.id < start + n) := by
    cases hfound : s.1.jitterBuffer.ctxOf qpn with
    | none =>
      simp only [KeepsFlow, hfound] at hkeeps
      obtain ⟨hopens, n, htail, hmax⟩ := hkeeps
      have hpos := htail.1
      exact ⟨pos m.id, n, collectsAt_accept_none htail hmax, hopens, fun _ => ⟨le_rfl, by omega⟩⟩
    | some ctx =>
      simp only [KeepsFlow, hfound] at hkeeps
      obtain ⟨start, n, hcollects, hmiss, hopened⟩ := h.collects ctx hfound
      exact ⟨start, n, hcollects.accept hkeeps, hopened,
        hcollects.completed_by hmiss hkeeps⟩
  rcases hcollects.release_cases with ⟨hmiss, hrel⟩ | ⟨hall, out, hrel, hout⟩
  · rw [hrel] at hctx hdel
    refine ⟨[], ev, hdel, honly h.only, Or.inl ⟨rfl, honly h.only, fun ctx hfound => ?_⟩⟩
    rw [hctx] at hfound
    cases hfound
    exact ⟨start, n, hcollects, hmiss, hopened⟩
  · rw [hrel] at hctx hdel
    obtain ⟨hle, hlt⟩ := htrigger hall
    exact ⟨out, ev, hdel, honly h.only,
      Or.inr ⟨start, n, hopened, hcollects.1, hout, hle, hlt, hctx⟩⟩

theorem flowInv_of_none {jb : JitterBuffer Mbuf} (honly : jb.OnlyFlow qpn)
    (hnone : jb.ctxOf qpn = none) : FlowInv st qpn pos Opened jb :=
  ⟨honly, fun ctx hctx => by rw [hnone] at hctx; cases hctx⟩

theorem ctxOf_jbInit (hq : qpn ≠ 0) : (jbInit : JitterBuffer Mbuf).ctxOf qpn = none :=
  ctxOf_eq_none.mpr fun _ h => hq h.symm

theorem FlowInv.mono {jb : JitterBuffer Mbuf} {Opened' : Nat → Prop}
    (h : FlowInv st qpn pos Opened jb) (himp : ∀ k, Opened k → Opened' k) :
    FlowInv st qpn pos Opened' jb := by
  refine ⟨h.only, fun ctx hctx => ?_⟩
  obtain ⟨start, n, hcollects, hmiss, hopened⟩ := h.collects ctx hctx
  exact ⟨start, n, hcollects, hmiss, himp start hopened⟩

end Flow

/-! ## The LAN sees a prefix of the stream -/

section Runs

variable {st : SenderStream} {qpn : Nat} {pos : Nat → Nat}

/-- The arrival keeps the flow to its messages, and a new context is opened by the
next packet that the LAN has not been handed. -/
def OpensAtNext (st : SenderStream) (qpn : Nat) (pos : Nat → Nat) (s : ProcessorContext × Host)
    (m : Mbuf) : Prop :=
  KeepsFlow st qpn pos (fun k => k = (lanHanded s.2.io.trace).length) s.1.jitterBuffer m

/-- The LAN has been handed an initial part of the stream, and an open context
continues it. -/
structure HandedInOrder (st : SenderStream) (qpn : Nat) (pos : Nat → Nat)
    (s : ProcessorContext × Host) : Prop where
  handed : positions pos (lanHanded s.2.io.trace) = List.range (lanHanded s.2.io.trace).length
  inStream : (lanHanded s.2.io.trace).length ≤ st.length
  flow : FlowInv st qpn pos (fun k => k = (lanHanded s.2.io.trace).length) s.1.jitterBuffer

theorem HandedInOrder.step {s : ProcessorContext × Host} {m : Mbuf}
    (h : HandedInOrder st qpn pos s) (hq : qpn ≠ 0) (hcopy : IsCopy st qpn pos m)
    (hopens : OpensAtNext st qpn pos s m) : HandedInOrder st qpn pos (wanStep s m) := by
  obtain ⟨out, ev, hdel, honly, hcases⟩ := h.flow.step hq hcopy hopens
  have htrace : lanHanded (wanStep s m).2.io.trace =
      lanHanded s.2.io.trace ++ out.map (setSrcAddr s.2.wanTunnelSrcIp) := by
    rw [hdel.adds.trace, lanHanded_append, hdel.handed]
  rcases hcases with ⟨rfl, hflow⟩ | ⟨start, n, rfl, htail, hout, -, -, hnone⟩
  · rw [List.map_nil, List.append_nil] at htrace
    exact ⟨by rw [htrace, h.handed], by rw [htrace]; exact h.inStream, by rwa [htrace]⟩
  · -- the delivery extends the range from where the last one ended
    have hlen : out.length = n := by
      have := congrArg List.length hout
      simpa using this
    refine ⟨?_, ?_, flowInv_of_none honly hnone⟩
    · rw [htrace, positions_append, positions_setSrcAddr, hout, h.handed, List.length_append,
        List.length_map, hlen, List.range_eq_range', List.range_eq_range']
      have happend := @List.range'_append_1 0 (lanHanded s.2.io.trace).length n
      rwa [Nat.zero_add] at happend
    · rw [htrace, List.length_append, List.length_map, hlen]
      exact htail.le_length

theorem handedInOrder_start {s : ProcessorContext × Host} (hq : qpn ≠ 0)
    (hjb : s.1.jitterBuffer = jbInit) (htrace : s.2.io.trace = []) :
    HandedInOrder st qpn pos s := by
  refine ⟨by rw [htrace]; rfl, by rw [htrace]; exact Nat.zero_le _, ?_⟩
  rw [hjb]
  exact flowInv_of_none (onlyFlow_jbInit qpn) (ctxOf_jbInit hq)

/-- In every run in which a context is always opened by the next packet of the
stream, the packets handed to the LAN are at every moment a prefix of the stream:
none out of order, none skipped, none repeated. -/
theorem handed_prefix_of_stream (st : SenderStream) (qpn : Nat) (hq : qpn ≠ 0) (pos : Nat → Nat)
    (s : ProcessorContext × Host) (hjb : s.1.jitterBuffer = jbInit) (htrace : s.2.io.trace = [])
    (ms : List Mbuf) (hcopies : ∀ m ∈ ms, IsCopy st qpn pos m)
    (hmeet : StepsMeet wanStep (OpensAtNext st qpn pos) s ms) (before after : List Mbuf)
    (hms : ms = before ++ after) :
    positions pos (lanHanded (run wanStep s before).2.io.trace) <+: List.range st.length := by
  subst hms
  have hboth : StepsMeet wanStep
      (fun s m => OpensAtNext st qpn pos s m ∧ IsCopy st qpn pos m) s before :=
    stepsMeet_and (stepsMeet_append.mp hmeet).1 fun m hm => hcopies m (List.mem_append_left _ hm)
  have hstep : ∀ (s : ProcessorContext × Host) (m : Mbuf), HandedInOrder st qpn pos s →
      OpensAtNext st qpn pos s m ∧ IsCopy st qpn pos m → HandedInOrder st qpn pos (wanStep s m) :=
    fun s m hinv hm => hinv.step hq hm.2 hm.1
  have hinv := run_induction hstep (handedInOrder_start hq hjb htrace) hboth
  rw [hinv.handed]
  obtain ⟨rest, hrest⟩ := Nat.exists_eq_add_of_le hinv.inStream
  rw [hrest, List.range_add]
  exact List.prefix_append _ _

end Runs

/-- A stream of two ONLY messages from PSN 0. -/
def twoOnly : SenderStream := ⟨0, [1, 1], by simp⟩

/-- The packet at position `k` of that stream, on QPN 7. -/
def onlyFrame (k : Nat) : Mbuf := writeFrame k roceOpcodeWriteOnly 7 k

/-- A WAN core that has just been set up. -/
def wanCore : ProcessorContext × Host := (procInit .unloaded 1 false, .unloaded)

theorem onlyFrame_isCopy {k : Nat} (hk : k < 2) : IsCopy twoOnly 7 id (onlyFrame k) := by
  obtain rfl | rfl : k = 0 ∨ k = 1 := by omega
  all_goals
    constructor <;> decide +kernel

theorem onlyFrame_tail {k : Nat} (hk : k < 2) : twoOnly.Tail k 1 := by
  have hmsg : twoOnly.Message k 1 := by
    obtain rfl | rfl : k = 0 ∨ k = 1 := by omega
    · exact ⟨[], [1], rfl, rfl⟩
    · exact ⟨[1], [], rfl, rfl⟩
  exact hmsg.tail

/-- The LAN port of that core takes the second message when it comes first. -/
theorem onlyFrame_taken : LanTakes wanCore (onlyFrame 1) := by
  unfold LanTakes
  decide +kernel

/-- After the first message the core has no context for the flow. -/
theorem onlyFrame_delivered : (wanStep wanCore (onlyFrame 0)).1.jitterBuffer.ctxOf 7 = none := by
  rw [← Option.isNone_iff_eq_none]
  decide +kernel

/-- Both messages in order. -/
theorem handed_prefix_of_stream_twoOnly :
    positions id (lanHanded (run wanStep wanCore [onlyFrame 0, onlyFrame 1]).2.io.trace) = [0, 1] ∧
    positions id (lanHanded (run wanStep wanCore [onlyFrame 0, onlyFrame 1]).2.io.trace) <+:
      List.range twoOnly.length := by
  refine ⟨by decide +kernel, handed_prefix_of_stream twoOnly 7 (by decide) id wanCore rfl rfl
    [onlyFrame 0, onlyFrame 1] ?_ ⟨?_, ?_, trivial⟩ [onlyFrame 0, onlyFrame 1] [] rfl⟩
  · intro m hm
    simp only [List.mem_cons, List.not_mem_nil, or_false] at hm
    rcases hm with rfl | rfl
    · exact onlyFrame_isCopy (by decide)
    · exact onlyFrame_isCopy (by decide)
  · exact keepsFlow_of_none (ctxOf_jbInit (by decide)) rfl (onlyFrame_tail (by decide)) (by decide)
  · exact keepsFlow_of_none onlyFrame_delivered (by decide +kernel) (onlyFrame_tail (by decide))
      (by decide)

/-- The second message arrives first: the LAN is handed it at once, and the first
message is skipped. -/
theorem second_message_handed_first :
    IsCopy twoOnly 7 id (onlyFrame 1) ∧ LanTakes wanCore (onlyFrame 1) ∧
    wanCore.1.jitterBuffer = jbInit ∧ wanCore.2.io.trace = [] ∧
    positions id (lanHanded (run wanStep wanCore [onlyFrame 1]).2.io.trace) = [1] ∧
    ¬ positions id (lanHanded (run wanStep wanCore [onlyFrame 1]).2.io.trace) <+:
      List.range twoOnly.length := by
  have hhanded : positions id (lanHanded (run wanStep wanCore [onlyFrame 1]).2.io.trace) = [1] := by
    decide +kernel
  refine ⟨onlyFrame_isCopy (by decide), onlyFrame_taken, rfl, rfl, hhanded, ?_⟩
  rw [hhanded]
  decide

/-! ## An acknowledgement covers what the LAN has taken -/

section Runs

variable {st : SenderStream} {qpn : Nat} {pos : Nat → Nat}

/-- Every acknowledgement sent so far for the QPN covers only packets that the LAN
port has taken. -/
def AcksDelivered (st : SenderStream) (qpn : Nat) (pos : Nat → Nat)
    (trace : List (Event Mbuf)) : Prop :=
  ∀ msg ∈ wanAcks trace, msg.qpn = qpn → ∀ k < st.length, Covers msg.psn (st.psn k) →
    k ∈ positions pos (lanAccepted trace)

/-- The LAN has taken everything before position `k`. -/
def DeliveredBefore (pos : Nat → Nat) (trace : List (Event Mbuf)) (k : Nat) : Prop :=
  ∀ j < k, j ∈ positions pos (lanAccepted trace)

/-- The arrival keeps the flow to its messages, and a new context is opened by a
packet before which the LAN has taken the whole stream. -/
def OpensAfterDelivered (st : SenderStream) (qpn : Nat) (pos : Nat → Nat)
    (s : ProcessorContext × Host) (m : Mbuf) : Prop :=
  KeepsFlow st qpn pos (DeliveredBefore pos s.2.io.trace) s.1.jitterBuffer m

/-- The acknowledgements so far are covered by deliveries, and so is the stream up
to an open context. -/
structure AckedInOrder (st : SenderStream) (qpn : Nat) (pos : Nat → Nat)
    (s : ProcessorContext × Host) : Prop where
  acks : AcksDelivered st qpn pos s.2.io.trace
  flow : FlowInv st qpn pos (DeliveredBefore pos s.2.io.trace) s.1.jitterBuffer

theorem AckedInOrder.step {s : ProcessorContext × Host} {m : Mbuf} (hlen : st.length < psnHalf)
    (h : AckedInOrder st qpn pos s) (hq : qpn ≠ 0) (hcopy : IsCopy st qpn pos m)
    (hopens : OpensAfterDelivered st qpn pos s m) (htakes : LanTakes s m) :
    AckedInOrder st qpn pos (wanStep s m) := by
  obtain ⟨out, ev, hdel, honly, hcases⟩ := h.flow.step hq hcopy hopens
  rw [LanTakes, newEvents_of_adds hdel.adds] at htakes
  have hacc : positions pos (lanAccepted (wanStep s m).2.io.trace) =
      positions pos (lanAccepted s.2.io.trace) ++ out.map fun m => pos m.id := by
    rw [hdel.adds.trace, lanAccepted_append, lanAccepted_of_not_refused ev htakes, hdel.handed,
      positions_append, positions_setSrcAddr]
  have hgrow : ∀ k, k ∈ positions pos (lanAccepted s.2.io.trace) →
      k ∈ positions pos (lanAccepted (wanStep s m).2.io.trace) := by
    intro k hk
    rw [hacc]
    exact List.mem_append_left _ hk
  refine ⟨?_, ?_⟩
  · intro msg hmsg hmsgQpn k hk hcov
    rw [hdel.adds.trace, wanAcks_append] at hmsg
    rcases List.mem_append.mp hmsg with hold | hnew
    · exact hgrow k (h.acks msg hold hmsgQpn k hk hcov)
    · -- a new acknowledgement carries the PSN of the packet that completed the message
      obtain ⟨hne, rfl⟩ := hdel.acks msg hnew
      rcases hcases with ⟨rfl, -⟩ | ⟨start, n, hbefore, htail, hout, hle, hlt, -⟩
      · exact absurd rfl hne
      · have hend := htail.le_length
        have hkm : k ≤ pos m.id := by
          rw [Covers, ackFor, hcopy.psn_eq] at hcov
          exact (psnForwardDist_psnAdd_lt_half_iff st.base (by omega) (by omega)).mp hcov
        rcases Nat.lt_or_ge k start with hold | hin
        · exact hgrow k (hbefore k hold)
        · rw [hacc, hout]
          exact List.mem_append_right _ (List.mem_range'_1.mpr ⟨hin, by omega⟩)
  · rcases hcases with ⟨-, hflow⟩ | ⟨-, -, -, -, -, -, -, hnone⟩
    · exact hflow.mono fun k hk j hj => hgrow j (hk j hj)
    · exact flowInv_of_none honly hnone

/-- In every run in which a context is always opened by a packet before which the
LAN has taken the whole stream, and in which the LAN port takes what the steps hand
to it, an ARQ acknowledgement never covers a packet that the LAN has not taken. -/
theorem acks_cover_only_delivered (st : SenderStream) (hlen : st.length < psnHalf) (qpn : Nat)
    (hq : qpn ≠ 0) (pos : Nat → Nat) (s : ProcessorContext × Host)
    (hjb : s.1.jitterBuffer = jbInit) (htrace : s.2.io.trace = [])
    (ms : List Mbuf) (hcopies : ∀ m ∈ ms, IsCopy st qpn pos m)
    (hmeet : StepsMeet wanStep (fun s m => OpensAfterDelivered st qpn pos s m ∧ LanTakes s m) s ms)
    (before after : List Mbuf) (hms : ms = before ++ after) :
    AcksDelivered st qpn pos (run wanStep s before).2.io.trace := by
  subst hms
  have hboth : StepsMeet wanStep
      (fun s m => (OpensAfterDelivered st qpn pos s m ∧ LanTakes s m) ∧ IsCopy st qpn pos m)
      s before :=
    stepsMeet_and (stepsMeet_append.mp hmeet).1 fun m hm => hcopies m (List.mem_append_left _ hm)
  have hstart : AckedInOrder st qpn pos s := by
    refine ⟨fun msg hmsg => ?_, ?_⟩
    · rw [htrace] at hmsg
      cases hmsg
    · rw [hjb]
      exact flowInv_of_none (onlyFlow_jbInit qpn) (ctxOf_jbInit hq)
  have hstep : ∀ (s : ProcessorContext × Host) (m : Mbuf), AckedInOrder st qpn pos s →
      (OpensAfterDelivered st qpn pos s m ∧ LanTakes s m) ∧ IsCopy st qpn pos m →
      AckedInOrder st qpn pos (wanStep s m) :=
    fun s m hinv hm => hinv.step hlen hq hm.2 hm.1.1 hm.1.2
  exact (run_induction hstep hstart hboth).acks

end Runs

/-- Both messages in order, each acknowledged. -/
theorem acks_cover_only_delivered_twoOnly :
    (wanAcks (run wanStep wanCore [onlyFrame 0, onlyFrame 1]).2.io.trace).map (·.psn) = [0, 1] ∧
    AcksDelivered twoOnly 7 id
      (run wanStep wanCore [onlyFrame 0, onlyFrame 1]).2.io.trace := by
  refine ⟨by decide +kernel, acks_cover_only_delivered twoOnly (by decide) 7 (by decide) id wanCore
    rfl rfl [onlyFrame 0, onlyFrame 1] ?_ ⟨⟨?_, ?_⟩, ⟨?_, ?_⟩, trivial⟩
    [onlyFrame 0, onlyFrame 1] [] rfl⟩
  · intro m hm
    simp only [List.mem_cons, List.not_mem_nil, or_false] at hm
    rcases hm with rfl | rfl
    · exact onlyFrame_isCopy (by decide)
    · exact onlyFrame_isCopy (by decide)
  · refine keepsFlow_of_none (ctxOf_jbInit (by decide)) ?_ (onlyFrame_tail (by decide)) (by decide)
    exact fun j hj => absurd hj (Nat.not_lt_zero j)
  · unfold LanTakes
    decide +kernel
  · refine keepsFlow_of_none onlyFrame_delivered ?_ (onlyFrame_tail (by decide)) (by decide)
    intro j hj
    obtain rfl : j = 0 := Nat.lt_one_iff.mp hj
    decide +kernel
  · unfold LanTakes
    decide +kernel

/-- The second message arrives first: its acknowledgement covers the first
message, which the LAN has not seen. -/
theorem ack_covers_undelivered :
    twoOnly.length < psnHalf ∧ IsCopy twoOnly 7 id (onlyFrame 1) ∧
    LanTakes wanCore (onlyFrame 1) ∧
    wanCore.1.jitterBuffer = jbInit ∧ wanCore.2.io.trace = [] ∧
    ¬ AcksDelivered twoOnly 7 id (run wanStep wanCore [onlyFrame 1]).2.io.trace := by
  refine ⟨by decide, onlyFrame_isCopy (by decide), onlyFrame_taken, rfl, rfl, fun h => ?_⟩
  have hack : ackFor (onlyFrame 1) ∈ wanAcks (run wanStep wanCore [onlyFrame 1]).2.io.trace := by
    decide +kernel
  have hzero := h _ hack (by decide +kernel) 0 (by decide) (by decide +kernel)
  exact absurd hzero (by decide +kernel)

end RdmaGateway.Processor
