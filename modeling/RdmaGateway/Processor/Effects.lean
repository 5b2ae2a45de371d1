/-
  Processor/Effects.lean --- what the outside sees of a step.

  Every function of the gateway appends events to the trace and leaves the
  configuration alone; `Host.Adds` says so with the events it appended, and
  composes along the order of the calls.  Of the events only three readings
  matter to the results: the packets handed to the LAN port, those among them
  that the port took, and the ARQ acknowledgements sent to the WAN.
-/
import RdmaGateway.Processor.LanRx
import RdmaGateway.Processor.WanRx

set_option autoImplicit false

namespace RdmaGateway.Processor

open RdmaGateway.Foundation
open RdmaGateway.Dpdk
open RdmaGateway.Wire
open RdmaGateway.Tunnel
open RdmaGateway.Arq
open RdmaGateway.Reassembly

/-! ## Readings of a trace -/

/-- The packets passed to `rte_eth_tx_burst` on the LAN port, in order. -/
def lanHanded (trace : List (Event Mbuf)) : List Mbuf :=
  trace.filterMap fun
    | .txBurst .lan m _ => some m
    | _ => none

theorem mem_lanHanded {trace : List (Event Mbuf)} {f : Mbuf} :
    f ∈ lanHanded trace ↔ ∃ accepted, .txBurst .lan f accepted ∈ trace := by
  rw [lanHanded, List.mem_filterMap]
  constructor
  · rintro ⟨e, he, hsome⟩
    split at hsome
    · cases hsome
      exact ⟨_, he⟩
    · cases hsome
  · rintro ⟨accepted, he⟩
    exact ⟨_, he, rfl⟩

/-- The packets the LAN port took, in order. -/
def lanAccepted (trace : List (Event Mbuf)) : List Mbuf :=
  trace.filterMap fun
    | .txBurst .lan m true => some m
    | _ => none

/-- The packets the LAN port refused, in order. -/
def lanRefused (trace : List (Event Mbuf)) : List Mbuf :=
  trace.filterMap fun
    | .txBurst .lan m false => some m
    | _ => none

/-- The `ARQ_MSG_ACK` messages the WAN port took, in order. -/
def wanAcks (trace : List (Event Mbuf)) : List ArqControlMsg :=
  trace.filterMap fun
    | .txBurst .wan f true => (ctrlMsgOf f).filter fun msg => msg.type == arqMsgAck
    | _ => none

section Readings

variable (ev ev' : List (Event Mbuf)) (m : Mbuf)

@[simp] theorem lanHanded_append : lanHanded (ev ++ ev') = lanHanded ev ++ lanHanded ev' :=
  List.filterMap_append
@[simp] theorem lanAccepted_append : lanAccepted (ev ++ ev') = lanAccepted ev ++ lanAccepted ev' :=
  List.filterMap_append
@[simp] theorem wanAcks_append : wanAcks (ev ++ ev') = wanAcks ev ++ wanAcks ev' :=
  List.filterMap_append

@[simp] theorem lanHanded_nil : lanHanded [] = [] := rfl
@[simp] theorem lanAccepted_nil : lanAccepted [] = [] := rfl
@[simp] theorem wanAcks_nil : wanAcks [] = [] := rfl

/-- A port that refuses nothing takes what it is handed. -/
theorem lanAccepted_of_not_refused : ∀ ev : List (Event Mbuf), lanRefused ev = [] →
    lanAccepted ev = lanHanded ev := by
  intro ev
  induction ev with
  | nil => intro _; rfl
  | cons e ev ih =>
    intro hnone
    rw [← List.singleton_append, lanRefused, List.filterMap_append, List.append_eq_nil_iff] at hnone
    rw [← List.singleton_append, lanAccepted_append, lanHanded_append, ih hnone.2]
    congr 1
    cases e with
    | txBurst port m accepted =>
      cases port with
      | wan => rfl
      | lan =>
        cases accepted with
        | true => rfl
        | false => exact absurd hnone.1 (List.cons_ne_nil _ _)
    | alloc m => rfl
    | free m => rfl
    | refcntUpdate m d => rfl

end Readings

/-- One when the buffer is the one named `x`. -/
def mark (x : Nat) (m : Mbuf) : Int := if m.id = x then 1 else 0

theorem mark_nonneg (x : Nat) (m : Mbuf) : 0 ≤ mark x m := by
  unfold mark
  split <;> decide

theorem mark_congr {x : Nat} {m m' : Mbuf} (h : m'.id = m.id) : mark x m' = mark x m := by
  rw [mark, mark, h]

/-- Events the three readings do not see. -/
structure Silent (ev : List (Event Mbuf)) : Prop where
  handed : lanHanded ev = []
  acks : wanAcks ev = []

theorem silent_nil : Silent [] := ⟨rfl, rfl⟩

theorem silent_frees (ms : List Mbuf) : Silent (ms.map Event.free) := by
  constructor
  · simp [lanHanded, List.filterMap_map]
  · simp [wanAcks, List.filterMap_map]

theorem Silent.append {ev ev' : List (Event Mbuf)} (h : Silent ev) (h' : Silent ev') :
    Silent (ev ++ ev') :=
  ⟨by simp [h.handed, h'.handed], by simp [h.acks, h'.acks]⟩

/-! ## Steps of the host -/

/-- The events `ev` were appended and nothing was reconfigured. -/
structure Adds (host host' : Host) (ev : List (Event Mbuf)) : Prop where
  trace : host'.io.trace = host.io.trace ++ ev
  oracle : host'.io.oracle = host.io.oracle
  wanTunnelSrcIp : host'.wanTunnelSrcIp = host.wanTunnelSrcIp
  peerManager : host'.peerManager = host.peerManager

/-- The events a step appended to the trace. -/
def newEvents (s s' : ProcessorContext × Host) : List (Event Mbuf) :=
  s'.2.io.trace.drop s.2.io.trace.length

theorem newEvents_of_adds {s s' : ProcessorContext × Host} {ev : List (Event Mbuf)}
    (h : Adds s.2 s'.2 ev) : newEvents s s' = ev := by
  rw [newEvents, h.trace, List.drop_left]

theorem Adds.refl (host : Host) : Adds host host [] := ⟨by simp, rfl, rfl, rfl⟩

theorem Adds.trans {a b c : Host} {ev ev' : List (Event Mbuf)} (hab : Adds a b ev)
    (hbc : Adds b c ev') : Adds a c (ev ++ ev') where
  trace := by rw [hbc.trace, hab.trace, List.append_assoc]
  oracle := hbc.oracle.trans hab.oracle
  wanTunnelSrcIp := hbc.wanTunnelSrcIp.trans hab.wanTunnelSrcIp
  peerManager := hbc.peerManager.trans hab.peerManager

/-- A step that only touches the environment. -/
theorem adds_withIo {host : Host} {io : Io Mbuf} {ev : List (Event Mbuf)}
    (htrace : io.trace = host.io.trace ++ ev) (horacle : io.oracle = host.io.oracle) :
    Adds host { host with io := io } ev :=
  ⟨htrace, horacle, rfl, rfl⟩

theorem free_adds (host : Host) (m : Mbuf) : Adds host (host.free m) [.free m] :=
  adds_withIo rfl rfl

theorem rdtsc_adds (host : Host) : Adds host host.rdtsc.2 [] :=
  adds_withIo (by simp) rfl

/-- Does the port take the next packet. -/
def Host.accepts (host : Host) (port : Port) : Bool := host.io.oracle.txAccepts port host.io.txCount

theorem txOrFree_fst (host : Host) (port : Port) (m : Mbuf) :
    (host.txOrFree port m).1 = Host.accepts host port := rfl

/-- The events of one transmission. -/
def txEvents (port : Port) (m : Mbuf) (accepted : Bool) : List (Event Mbuf) :=
  .txBurst port m accepted :: if accepted then [] else [.free m]

theorem txOrFree_adds (host : Host) (port : Port) (m : Mbuf) :
    Adds host (host.txOrFree port m).2 (txEvents port m (Host.accepts host port)) := by
  have hburst : Adds host (host.txBurst port m).2 [.txBurst port m (Host.accepts host port)] :=
    adds_withIo rfl rfl
  have hsplit : (host.txOrFree port m).2 =
      if Host.accepts host port then (host.txBurst port m).2
      else (host.txBurst port m).2.free m := rfl
  rw [hsplit, txEvents]
  cases h : Host.accepts host port with
  | true => rwa [h] at hburst
  | false =>
    rw [h] at hburst
    exact hburst.trans (free_adds _ m)

theorem txEvents_lan (m : Mbuf) (accepted : Bool) :
    lanHanded (txEvents .lan m accepted) = [m] ∧
      lanAccepted (txEvents .lan m accepted) = (if accepted then [m] else []) ∧
      wanAcks (txEvents .lan m accepted) = [] := by
  cases accepted <;> exact ⟨rfl, rfl, rfl⟩

/-! ## Buffers of the gateway's own -/

/-- What the gateway does with the buffers it allocates: each is given back at
once, or filled and sent, and `P` holds of every frame it sends and of the port it
sends it on. -/
inductive OwnTraffic (P : Port → Mbuf → Prop) : List (Event Mbuf) → Prop
  | nil : OwnTraffic P []
  | returned {b b' : Mbuf} (hid : b'.id = b.id) : OwnTraffic P [.alloc b, .free b']
  | sent {b f : Mbuf} {port : Port} {accepted : Bool} (hid : f.id = b.id) (hP : P port f) :
      OwnTraffic P (.alloc b :: txEvents port f accepted)
  | append {ev ev' : List (Event Mbuf)} (h : OwnTraffic P ev) (h' : OwnTraffic P ev') :
      OwnTraffic P (ev ++ ev')

section OwnTraffic

variable {P : Port → Mbuf → Prop} {ev : List (Event Mbuf)}

theorem OwnTraffic.mono {Q : Port → Mbuf → Prop} (h : OwnTraffic P ev)
    (himp : ∀ port f, P port f → Q port f) : OwnTraffic Q ev := by
  induction h with
  | nil => exact .nil
  | returned hid => exact .returned hid
  | sent hid hP => exact .sent hid (himp _ _ hP)
  | append _ _ ih ih' => exact .append ih ih'

/-- Every transmission is of a frame that satisfies `P`. -/
theorem OwnTraffic.of_mem (h : OwnTraffic P ev) {port : Port} {f : Mbuf} {accepted : Bool}
    (hmem : .txBurst port f accepted ∈ ev) : P port f := by
  induction h with
  | nil => cases hmem
  | returned hid => simp at hmem
  | @sent b f' port' accepted' hid hP =>
    have hself : port = port' ∧ f = f' ∧ accepted = accepted' := by
      cases accepted' <;> simpa [txEvents] using hmem
    obtain ⟨rfl, rfl, -⟩ := hself
    exact hP
  | append _ _ ih ih' =>
    rcases List.mem_append.mp hmem with hmem | hmem
    · exact ih hmem
    · exact ih' hmem

/-- Traffic on the WAN port hands nothing to the LAN. -/
theorem OwnTraffic.lanHanded_nil (h : OwnTraffic P ev) (hport : ∀ port f, P port f → port = .wan) :
    lanHanded ev = [] := by
  rw [List.eq_nil_iff_forall_not_mem]
  intro f hf
  obtain ⟨e, he, hsome⟩ := List.mem_filterMap.mp hf
  split at hsome
  · rename_i accepted
    cases hport _ _ (h.of_mem he)
  · cases hsome

end OwnTraffic

/-- A buffer that is allocated for `len` bytes: there is none, or it is too small
and freed again, or it comes back with a frame of that length. -/
theorem allocAppend_cases (P : Port → Mbuf → Prop) (host : Host) (len : Nat) :
    (∃ host' ev, host.allocAppend len = (none, host') ∧ Adds host host' ev ∧ OwnTraffic P ev) ∨
      ∃ b m host', host.allocAppend len = (some m, host') ∧ Adds host host' [.alloc b] ∧
        m.id = b.id ∧ m.dataLen = len := by
  have htrace := rtePktmbufAlloc_trace host.io
  have horacle := rtePktmbufAlloc_oracle host.io
  unfold Host.allocAppend pktmbufAlloc
  dsimp only
  cases hb : (rtePktmbufAlloc host.io).1 with
  | none =>
    rw [hb] at htrace
    exact Or.inl ⟨_, [], rfl, adds_withIo htrace horacle, .nil⟩
  | some b =>
    rw [hb] at htrace
    have halloc : Adds host { host with io := (rtePktmbufAlloc host.io).2 } [.alloc b] :=
      adds_withIo htrace horacle
    simp only [Option.map_some, rtePktmbufAppend]
    by_cases hroom : 0 + len ≤ b.room
    · rw [if_pos hroom]
      exact Or.inr ⟨b, _, _, rfl, halloc, rfl, Nat.zero_add len⟩
    · rw [if_neg hroom]
      exact Or.inl ⟨_, _, rfl, halloc.trans (free_adds _ _), .returned rfl⟩

/-- A buffer with room for `len` bytes comes back with a frame of that length. -/
theorem allocAppend_of_room {host : Host} {len : Nat} {b : Mbuf}
    (hb : host.io.oracle.allocs host.io.allocCount = some b) (hroom : len ≤ b.room) :
    host.allocAppend len =
      (some { b with dataLen := len }, { host with io := (rtePktmbufAlloc host.io).2 }) := by
  simp [Host.allocAppend, pktmbufAlloc, rtePktmbufAlloc, hb, rtePktmbufAppend, hroom]

theorem rtePktmbufAlloc_adds {host : Host} {b : Mbuf}
    (hb : host.io.oracle.allocs host.io.allocCount = some b) :
    Adds host { host with io := (rtePktmbufAlloc host.io).2 } [.alloc b] :=
  adds_withIo (by rw [rtePktmbufAlloc_trace]; simp [rtePktmbufAlloc, hb])
    (rtePktmbufAlloc_oracle host.io)

/-- A frame that was allocated, filled and sent. -/
theorem ownTraffic_txOrFree {P : Port → Mbuf → Prop} {host host' : Host} {b f : Mbuf}
    (port : Port) (h : Adds host host' [.alloc b]) (hid : f.id = b.id) (hP : P port f) :
    ∃ ev, Adds host (host'.txOrFree port f).2 ev ∧ OwnTraffic P ev :=
  ⟨_, h.trans (txOrFree_adds host' port f), .sent hid hP⟩

/-- A control message from here to the peer, with the fields it was built from. -/
def IsCtrlMsg (srcIp dstIp qpn type psn : Nat) (port : Port) (f : Mbuf) : Prop :=
  port = .wan ∧ ∃ (b : ByteMem) (dstMac : EtherAddr),
    f.data = ctrlFrame b dstMac srcIp dstIp qpn type psn none 0

theorem IsCtrlMsg.ctrlMsgOf {srcIp dstIp qpn type psn : Nat} {port : Port} {f : Mbuf}
    (h : IsCtrlMsg srcIp dstIp qpn type psn port f) :
    Arq.ctrlMsgOf f =
      some ⟨arqMagic, type % 256, qpn % 4294967296, psn % 4294967296, 0, []⟩ := by
  obtain ⟨-, b, dstMac, hdata⟩ := h
  have hf : f = f.withData (ctrlFrame b dstMac srcIp dstIp qpn type psn none 0) := by
    rw [← hdata]
    rfl
  rw [hf]
  exact ctrlMsgOf_ctrlFrame _ _ _ _ _ _ _ _

/-- Building and sending a control message. -/
theorem wanSendCtrl_emits (proc : ProcessorContext) (qpn type psn : Nat) (m : Mbuf)
    (counter : StatCounter) (host : Host) :
    (wanSendCtrl proc qpn type psn m counter host).1.jitterBuffer = proc.jitterBuffer ∧
    (wanSendCtrl proc qpn type psn m counter host).1.arqMgr = proc.arqMgr ∧
    ∃ ev, Adds host (wanSendCtrl proc qpn type psn m counter host).2 ev ∧
      OwnTraffic (IsCtrlMsg host.wanTunnelSrcIp (wanGetPeerIp host (bswap32 m.ipDstAddr))
        qpn type psn) ev := by
  unfold wanSendCtrl arqBuildCtrlMsg
  dsimp only
  rcases allocAppend_cases (IsCtrlMsg host.wanTunnelSrcIp
      (wanGetPeerIp host (bswap32 m.ipDstAddr)) qpn type psn) host 318 with
    ⟨host', ev, heq, hadds, hown⟩ | ⟨b, f, host', heq, hadds, hid, -⟩
  · rw [heq]
    exact ⟨rfl, rfl, ev, hadds, hown⟩
  · rw [heq]
    dsimp only
    refine ⟨?_, ?_, ownTraffic_txOrFree .wan hadds hid ⟨rfl, f.data,
      (arpCacheLookup host' (wanGetPeerIp host (bswap32 m.ipDstAddr))).getD
        (.fill 0xFF), ?_⟩⟩
    · split <;> rfl
    · split <;> rfl
    · rw [hadds.wanTunnelSrcIp]

/-- The addresses of a control message. -/
theorem IsCtrlMsg.addrs {srcIp dstIp qpn type psn : Nat} {port : Port} {f : Mbuf}
    (h : IsCtrlMsg srcIp dstIp qpn type psn port f) :
    f.ipSrcAddr = srcIp % 4294967296 ∧ f.ipDstAddr = dstIp % 4294967296 := by
  obtain ⟨-, b, dstMac, hdata⟩ := h
  rw [Mbuf.ipSrcAddr, Mbuf.ipDstAddr, hdata]
  exact ctrlFrame_addrs _ _ _ _ _ _ _ _ _

/-- The pool always has a buffer for a control message. -/
def PoolServes (host : Host) : Prop := ∀ n, ∃ b, host.io.oracle.allocs n = some b ∧ 318 ≤ b.room

/-- Then the message is passed to the WAN port. -/
theorem wanSendCtrl_sends {host : Host} (h : PoolServes host) (proc : ProcessorContext)
    (qpn type psn : Nat) (m : Mbuf) (counter : StatCounter) {ev : List (Event Mbuf)}
    (hadds : Adds host (wanSendCtrl proc qpn type psn m counter host).2 ev) :
    ∃ f accepted, .txBurst .wan f accepted ∈ ev ∧
      IsCtrlMsg host.wanTunnelSrcIp (wanGetPeerIp host (bswap32 m.ipDstAddr)) qpn type psn .wan
        f := by
  obtain ⟨b, hb, hroom⟩ := h host.io.allocCount
  have halloc := allocAppend_of_room hb hroom
  have hadds' := rtePktmbufAlloc_adds hb
  generalize { host with io := (rtePktmbufAlloc host.io).2 } = host₁ at halloc hadds'
  simp only [wanSendCtrl, arqBuildCtrlMsg, halloc] at hadds
  have htrace := hadds.trace.symm.trans (hadds'.trans (txOrFree_adds host₁ .wan _)).trace
  rw [List.append_cancel_left_eq] at htrace
  rw [htrace]
  rw [← hadds'.wanTunnelSrcIp]
  exact ⟨_, _, List.mem_cons_of_mem _ List.mem_cons_self, rfl, b.data, _, rfl⟩

/-- A control message: built and sent, or not; the acknowledgement the WAN port
takes is the one that was asked for. -/
theorem wanSendCtrl_adds (proc : ProcessorContext) (qpn type psn : Nat) (m : Mbuf)
    (counter : StatCounter) (host : Host) :
    (wanSendCtrl proc qpn type psn m counter host).1.jitterBuffer = proc.jitterBuffer ∧
    (wanSendCtrl proc qpn type psn m counter host).1.arqMgr = proc.arqMgr ∧
    ∃ ev, Adds host (wanSendCtrl proc qpn type psn m counter host).2 ev ∧ lanHanded ev = [] ∧
      ∀ msg ∈ wanAcks ev, type % 256 = arqMsgAck ∧
        msg = ⟨arqMagic, type % 256, qpn % 4294967296, psn % 4294967296, 0, []⟩ := by
  obtain ⟨hjb, harq, ev, hadds, hown⟩ := wanSendCtrl_emits proc qpn type psn m counter host
  refine ⟨hjb, harq, ev, hadds, hown.lanHanded_nil fun _ _ h => h.1, fun msg hmsg => ?_⟩
  obtain ⟨e, he, hsome⟩ := List.mem_filterMap.mp hmsg
  split at hsome
  · rw [(hown.of_mem he).ctrlMsgOf, Option.filter_eq_some_iff] at hsome
    obtain ⟨heq, htype⟩ := hsome
    cases heq
    exact ⟨by simpa using htype, rfl⟩
  · cases hsome

end RdmaGateway.Processor
