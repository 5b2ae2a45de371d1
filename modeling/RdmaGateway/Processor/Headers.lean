/-
  Processor/Headers.lean --- which bytes of a frame the receive functions read.

  `proc_process_lan_rx` and `proc_process_wan_rx` cast the frame to its headers: the
  IPv4 header is 20 bytes whatever its IHL field says, and no length is looked at.
  `lanHeaders` and `wanHeaders` are the two functions reduced to their reads of the
  frame, branch by branch, and what they take the frame for; `procProcessLanRx_eq` and
  `procProcessWanRx_eq` say that the model of the functions acts on exactly that.

  `reference` is the parser that does look: it places the UDP header behind an IPv4
  header of a given number of words and finds nothing unless every header lies in the
  frame.  With five words it is what the gateway computes on frames that are long
  enough (`header_parsing`); with the IHL field of the frame it is not
  (`short_and_optioned_frames`).
-/
import RdmaGateway.Foundation.Reads
import RdmaGateway.Processor.LanRx
import RdmaGateway.Processor.WanRx

set_option autoImplicit false

namespace RdmaGateway.Processor

open RdmaGateway.Foundation
open RdmaGateway.Dpdk
open RdmaGateway.Wire
open RdmaGateway.Tunnel
open RdmaGateway.Arq

/-! ## Reads of the frame -/

/-- `rte_be_to_cpu_16(eth_hdr->ether_type)` -/
def etherTypeReads : Reads Nat := do
  let etherType ← Reads.ld16 12
  pure (bswap16 etherType)

/-- `rte_be_to_cpu_32(ip_hdr->dst_addr)` -/
def dstIpReads : Reads Nat := do
  let dstAddr ← Reads.ld32 30
  pure (bswap32 dstAddr)

/-- `ip_hdr->next_proto_id` -/
def protoReads : Reads Nat := Reads.ld8 23

/-- `rte_be_to_cpu_16(udp_hdr->dst_port)` -/
def dstPortReads : Reads Nat := do
  let dstPort ← Reads.ld16 36
  pure (bswap16 dstPort)

/-- `bth->opcode` -/
def opcodeReads : Reads Nat := Reads.ld8 42

/-- `bth_get_qpn`. -/
def bthGetQpnReads : Reads Nat := do
  let q₀ ← Reads.ld8 47
  let q₁ ← Reads.ld8 48
  let q₂ ← Reads.ld8 49
  pure (65536 * q₀ + 256 * q₁ + q₂)

/-- `bth_get_psn`. -/
def bthGetPsnReads : Reads Nat := do
  let p₀ ← Reads.ld8 51
  let p₁ ← Reads.ld8 52
  let p₂ ← Reads.ld8 53
  pure (65536 * p₀ + 256 * p₁ + p₂)

/-- `wan_fwd_passthrough`: both addresses, for the log and for the next hop. -/
def wanFwdPassthroughReads : Reads Unit := do
  let _ ← Reads.ld32 26
  let _ ← Reads.ld32 30
  pure ()

/-- `wan_fwd_roce`: addresses and ports. -/
def wanFwdRoceReads : Reads Unit := do
  let _ ← Reads.ld32 26
  let _ ← Reads.ld32 30
  let _ ← Reads.ld16 34
  let _ ← Reads.ld16 36
  pure ()

/-- `forge_and_send_ack`, of the packet that is acknowledged. -/
def forgeAndSendAckReads : Reads Unit := do
  let _ ← Reads.bytes 0 14
  let _ ← Reads.ld32 26
  let _ ← Reads.ld32 30
  let _ ← Reads.ld16 34
  let _ ← Reads.ld16 36
  let _ ← Reads.ld8 43
  let _ ← Reads.ld16 44
  let _ ← bthGetQpnReads
  let _ ← bthGetPsnReads
  pure ()

/-- The refresh of the QP context. -/
def qpRefreshReads : Reads Unit := do
  let _ ← Reads.bytes 0 12
  let _ ← Reads.ld8 15
  let _ ← Reads.ld32 26
  let _ ← Reads.ld16 44
  pure ()

/-- What `proc_process_lan_rx` takes a frame for. -/
inductive LanVerdict where
  | dropped
  | passed
  | write (qpn psn : Nat)
  deriving DecidableEq

def lanPassedReads : Reads LanVerdict := do
  wanFwdPassthroughReads
  pure .passed

/-- `proc_process_lan_rx`, reduced to its reads of the frame. -/
def lanHeaders (proc : ProcessorContext) (host : Host) : Reads LanVerdict := do
  let etherType ← etherTypeReads
  if etherType ≠ rteEtherTypeIpv4 then pure .dropped
  else
    let dstIp ← dstIpReads
    if wanGetPeerIp host dstIp = 0 then lanPassedReads
    else
      let proto ← protoReads
      if proto ≠ ipprotoUdp then lanPassedReads
      else
        let dstPort ← dstPortReads
        if dstPort ≠ 4791 then lanPassedReads
        else
          let opcode ← opcodeReads
          if !isWriteOpcode opcode then lanPassedReads
          else
            let qpn ← bthGetQpnReads
            let psn ← bthGetPsnReads
            -- without a QP context the packet is dropped here
            if (qpGetOrCreate proc.qpMgr qpn).1.isSome then
              qpRefreshReads
              forgeAndSendAckReads
              wanFwdRoceReads
              pure (.write qpn psn)
            else pure (.write qpn psn)

/-- `arq_parse_ctrl_msg`. -/
def arqParseCtrlMsgReads : Reads (Option ArqControlMsg) := do
  let magic ← Reads.ld32 42
  if bswap32 magic ≠ arqMagic then pure none
  else
    let type ← Reads.ld8 46
    let qpn ← Reads.ld32 50
    let psn ← Reads.ld32 54
    let count ← Reads.ld32 58
    let psnList ← Reads.each (fun i => Reads.ld32 (62 + 4 * i))
      (List.range (min (bswap32 count) maxRetxBurst))
    pure (some
      { magic := bswap32 magic
        type := type
        qpn := bswap32 qpn
        psn := bswap32 psn
        count := bswap32 count
        psnList := psnList.map bswap32 })

/-- What `proc_process_wan_rx` takes a frame for; a frame on the control port need not
parse. -/
inductive WanVerdict where
  | dropped
  | control (msg : Option ArqControlMsg)
  | write (qpn psn : Nat)
  deriving DecidableEq

/-- `proc_process_wan_rx`, reduced to its reads of the frame; `feedback` says whether it
goes on to build a control message, for the peer of the destination address. -/
def wanHeaders (feedback : Bool) : Reads WanVerdict := do
  let etherType ← etherTypeReads
  if etherType ≠ rteEtherTypeIpv4 then pure .dropped
  else
    let proto ← protoReads
    if proto ≠ ipprotoUdp then pure .dropped
    else
      let dstPort ← dstPortReads
      if dstPort = arqCtrlPort then
        let msg ← arqParseCtrlMsgReads
        pure (.control msg)
      else if dstPort ≠ 4791 then pure .dropped
      else
        let opcode ← opcodeReads
        if !isWriteOpcode opcode then pure .dropped
        else
          let qpn ← bthGetQpnReads
          let psn ← bthGetPsnReads
          if feedback then
            let _ ← dstIpReads
            pure (.write qpn psn)
          else pure (.write qpn psn)

/-! ## The receive functions act on these reads -/

/-- What `proc_process_lan_rx` takes a frame for, in terms of the header fields. -/
def lanVerdict (host : Host) (m : Mbuf) : LanVerdict :=
  if m.etherType ≠ rteEtherTypeIpv4 then .dropped
  else if wanGetPeerIp host (bswap32 m.ipDstAddr) = 0 then .passed
  else if m.ipProto ≠ ipprotoUdp then .passed
  else if m.udpDstPort ≠ 4791 then .passed
  else if !isWriteOpcode m.bthOpcode then .passed
  else .write m.bthGetQpn m.bthGetPsn

/-- What `proc_process_wan_rx` takes a frame for, in terms of the header fields. -/
def wanVerdict (m : Mbuf) : WanVerdict :=
  if m.etherType ≠ rteEtherTypeIpv4 then .dropped
  else if m.ipProto ≠ ipprotoUdp then .dropped
  else if m.udpDstPort = arqCtrlPort then .control (arqParseCtrlMsg m)
  else if m.udpDstPort ≠ 4791 then .dropped
  else if !isWriteOpcode m.bthOpcode then .dropped
  else .write m.bthGetQpn m.bthGetPsn

section Values

variable (m : Mbuf)

@[simp] theorem value_etherTypeReads : etherTypeReads.value m.data = m.etherType := by
  simp [etherTypeReads, Mbuf.etherType]

@[simp] theorem value_dstIpReads : dstIpReads.value m.data = bswap32 m.ipDstAddr := by
  simp [dstIpReads, Mbuf.ipDstAddr]

@[simp] theorem value_protoReads : protoReads.value m.data = m.ipProto :=
  Reads.value_ld8 m.data 23

@[simp] theorem value_opcodeReads : opcodeReads.value m.data = m.bthOpcode :=
  Reads.value_ld8 m.data 42

@[simp] theorem value_dstPortReads : dstPortReads.value m.data = m.udpDstPort := by
  simp [dstPortReads, Mbuf.udpDstPort]

@[simp] theorem value_bthGetQpnReads : bthGetQpnReads.value m.data = m.bthGetQpn := by
  simp [bthGetQpnReads, Mbuf.bthGetQpn]

@[simp] theorem value_bthGetPsnReads : bthGetPsnReads.value m.data = m.bthGetPsn := by
  simp [bthGetPsnReads, Mbuf.bthGetPsn]

@[simp] theorem value_lanPassedReads : lanPassedReads.value m.data = .passed := by
  simp [lanPassedReads]

@[simp] theorem value_arqParseCtrlMsgReads :
    arqParseCtrlMsgReads.value m.data = arqParseCtrlMsg m := by
  simp only [arqParseCtrlMsgReads, Reads.value_bind, Reads.value_ite, Reads.value_pure,
    Reads.value_ld8, Reads.value_ld32, Reads.value_each, List.map_map]
  rfl

theorem lanHeaders_value (proc : ProcessorContext) (host : Host) :
    (lanHeaders proc host).value m.data = lanVerdict host m := by
  simp only [lanHeaders, Reads.value_bind, Reads.value_ite, Reads.value_pure,
    value_etherTypeReads, value_dstIpReads, value_protoReads, value_dstPortReads,
    value_opcodeReads, value_lanPassedReads, value_bthGetQpnReads, value_bthGetPsnReads, ite_self]
  rfl

theorem wanHeaders_value (feedback : Bool) :
    (wanHeaders feedback).value m.data = wanVerdict m := by
  simp only [wanHeaders, Reads.value_bind, Reads.value_ite, Reads.value_pure,
    value_etherTypeReads, value_protoReads, value_dstPortReads, value_opcodeReads,
    value_arqParseCtrlMsgReads, value_bthGetQpnReads, value_bthGetPsnReads, ite_self]
  rfl

end Values

/-- What is done with a frame on the LAN port. -/
def lanAct (proc : ProcessorContext) (m : Mbuf) (host : Host) :
    LanVerdict → ProcessorContext × Host
  | .dropped => (proc.count .pktsDropped, host.free m)
  | .passed => lanPassthrough proc m host
  | .write _ _ => lanWrite proc m (wanGetPeerIp host (bswap32 m.ipDstAddr)) host

/-- What is done with a frame on the WAN port. -/
def wanAct (proc : ProcessorContext) (m : Mbuf) (host : Host) :
    WanVerdict → ProcessorContext × Host
  | .dropped => (proc.count .pktsDropped, host.free m)
  | .control none => (proc, host.free m)
  | .control (some msg) => ((wanFeedback proc msg host).1, (wanFeedback proc msg host).2.free m)
  | .write _ _ => wanWrite proc m host

theorem procProcessLanRx_eq (proc : ProcessorContext) (m : Mbuf) (host : Host) :
    procProcessLanRx proc m host =
      lanAct proc m host ((lanHeaders proc host).value m.data) := by
  rw [lanHeaders_value]
  simp only [lanVerdict, apply_ite (lanAct proc m host)]
  rfl

theorem procProcessWanRx_eq (proc : ProcessorContext) (m : Mbuf) (host : Host)
    (feedback : Bool) :
    procProcessWanRx proc m host =
      wanAct proc m host ((wanHeaders feedback).value m.data) := by
  have hcontrol : wanControl proc m host = wanAct proc m host (.control (arqParseCtrlMsg m)) := by
    unfold wanControl
    cases arqParseCtrlMsg m <;> rfl
  rw [wanHeaders_value]
  simp only [wanVerdict, apply_ite (wanAct proc m host), ← hcontrol]
  rfl

/-! ## Bounds -/

/-- The length a frame on the LAN port must have for its headers to be read inside it. -/
def lanNeeds (host : Host) (m : Mbuf) : Nat :=
  if m.etherType ≠ rteEtherTypeIpv4 then 14
  else if wanGetPeerIp host (bswap32 m.ipDstAddr) = 0 then 34
  else if m.ipProto ≠ ipprotoUdp then 34
  else if m.udpDstPort ≠ 4791 then 38
  else if !isWriteOpcode m.bthOpcode then 43
  else 54

/-- The length `arq_parse_ctrl_msg` needs: the list is read as far as the count says. -/
def ctrlNeeds (m : Mbuf) : Nat :=
  if bswap32 (m.data.ld32 42) ≠ arqMagic then 46
  else 62 + 4 * min (bswap32 (m.data.ld32 58)) maxRetxBurst

/-- The length a frame on the WAN port must have for its headers to be read inside it. -/
def wanNeeds (m : Mbuf) : Nat :=
  if m.etherType ≠ rteEtherTypeIpv4 then 14
  else if m.ipProto ≠ ipprotoUdp then 24
  else if m.udpDstPort = arqCtrlPort then ctrlNeeds m
  else if m.udpDstPort ≠ 4791 then 38
  else if !isWriteOpcode m.bthOpcode then 43
  else 54

section Bounds

variable (m : Mbuf)

@[simp] theorem need_etherTypeReads : etherTypeReads.need m.data = 14 := by
  simp [etherTypeReads]

@[simp] theorem need_dstIpReads : dstIpReads.need m.data = 34 := by
  simp [dstIpReads]

@[simp] theorem need_protoReads : protoReads.need m.data = 24 := Reads.need_ld8 m.data 23

@[simp] theorem need_opcodeReads : opcodeReads.need m.data = 43 := Reads.need_ld8 m.data 42

@[simp] theorem need_dstPortReads : dstPortReads.need m.data = 38 := by
  simp [dstPortReads]

@[simp] theorem need_bthGetQpnReads : bthGetQpnReads.need m.data = 50 := by
  simp [bthGetQpnReads]

@[simp] theorem need_bthGetPsnReads : bthGetPsnReads.need m.data = 54 := by
  simp [bthGetPsnReads]

@[simp] theorem need_lanPassedReads : lanPassedReads.need m.data = 34 := by
  simp [lanPassedReads, wanFwdPassthroughReads]

@[simp] theorem need_qpRefreshReads : qpRefreshReads.need m.data = 46 := by
  simp [qpRefreshReads, Reads.need_bytes]

@[simp] theorem need_forgeAndSendAckReads : forgeAndSendAckReads.need m.data = 54 := by
  simp [forgeAndSendAckReads, Reads.need_bytes]

@[simp] theorem need_wanFwdRoceReads : wanFwdRoceReads.need m.data = 38 := by
  simp [wanFwdRoceReads]

@[simp] theorem need_arqParseCtrlMsgReads : arqParseCtrlMsgReads.need m.data = ctrlNeeds m := by
  have hlist : ∀ n, (Reads.each (fun i => Reads.ld32 (62 + 4 * i)) (List.range n)).need m.data =
      if n = 0 then 0 else 62 + 4 * n := fun n =>
    Reads.need_each_range m.data 62 _ 4 n fun i => by
      rw [Reads.need_ld32]
      omega
  simp only [arqParseCtrlMsgReads, ctrlNeeds, Reads.need_bind, Reads.need_ite, Reads.need_pure,
    Reads.need_ld8, Reads.need_ld32, Reads.value_ld32, hlist, ne_eq]
  split_ifs <;> omega

theorem lanHeaders_need (proc : ProcessorContext) (host : Host) :
    (lanHeaders proc host).need m.data = lanNeeds host m := by
  simp only [lanHeaders, lanNeeds, Reads.need_bind, Reads.need_ite, Reads.need_pure,
    need_etherTypeReads, need_dstIpReads, need_protoReads, need_dstPortReads, need_opcodeReads,
    need_lanPassedReads, need_bthGetQpnReads, need_bthGetPsnReads, need_qpRefreshReads,
    need_forgeAndSendAckReads, need_wanFwdRoceReads, value_etherTypeReads, value_dstIpReads,
    value_protoReads, value_dstPortReads, value_opcodeReads, value_bthGetQpnReads, ne_eq]
  split_ifs <;> rfl

theorem wanHeaders_need (feedback : Bool) :
    (wanHeaders feedback).need m.data = wanNeeds m := by
  have hctrl : 46 ≤ ctrlNeeds m := by
    unfold ctrlNeeds
    split_ifs <;> omega
  simp only [wanHeaders, wanNeeds, Reads.need_bind, Reads.need_ite, Reads.need_pure,
    need_etherTypeReads, need_dstIpReads, need_protoReads, need_dstPortReads, need_opcodeReads,
    need_bthGetQpnReads, need_bthGetPsnReads, need_arqParseCtrlMsgReads, value_etherTypeReads,
    value_protoReads, value_dstPortReads, value_opcodeReads, ne_eq]
  split_ifs <;> omega

end Bounds

/-! ## The parser that looks -/

/-- The IHL field: the length of the IPv4 header in words. -/
def ihl (m : Mbuf) : Nat := m.data.ld8 14 % 16

/-- What a frame can be found to be. -/
inductive Finding where
  | write (qpn psn : Nat)
  | control (msg : ArqControlMsg)

/-- A 24-bit field in network order. -/
def be24 (b : ByteMem) (off : Nat) : Nat :=
  65536 * b.ld8 off + 256 * b.ld8 (off + 1) + b.ld8 (off + 2)

/-- The control message at byte `off`. -/
def ctrlMsgAt (b : ByteMem) (off : Nat) : Option ArqControlMsg :=
  if bswap32 (b.ld32 off) = arqMagic then
    some
      { magic := arqMagic
        type := b.ld8 (off + 4)
        qpn := bswap32 (b.ld32 (off + 8))
        psn := bswap32 (b.ld32 (off + 12))
        count := bswap32 (b.ld32 (off + 16))
        psnList := (List.range (min (bswap32 (b.ld32 (off + 16))) maxRetxBurst)).map fun i =>
          bswap32 (b.ld32 (off + 20 + 4 * i)) }
  else none

/-- The reference parser, for an IPv4 header of `words` words: a UDP datagram on one of
the two ports, with the BTH of a WRITE or a whole `arq_control_msg_t` inside the frame. -/
def reference (words : Nat) (m : Mbuf) : Option Finding :=
  let udp := 14 + 4 * words
  let payload := udp + 8
  if words < 5 ∨ m.dataLen < payload ∨ m.etherType ≠ rteEtherTypeIpv4 ∨ m.ipProto ≠ ipprotoUdp
  then none
  else if bswap16 (m.data.ld16 (udp + 2)) = wanUdpPort then
    if payload + 12 ≤ m.dataLen ∧ isWriteOpcode (m.data.ld8 payload) = true
    then some (.write (be24 m.data (payload + 5)) (be24 m.data (payload + 9)))
    else none
  else if bswap16 (m.data.ld16 (udp + 2)) = arqCtrlPort then
    if payload + 276 ≤ m.dataLen then (ctrlMsgAt m.data payload).map .control else none
  else none

section Findings

variable {m : Mbuf}

theorem ctrlMsgAt_42 : ctrlMsgAt m.data 42 = arqParseCtrlMsg m := by
  unfold ctrlMsgAt arqParseCtrlMsg
  by_cases hmagic : bswap32 (m.data.ld32 42) = arqMagic
  · rw [if_pos hmagic, if_neg fun h => h hmagic, hmagic]
  · rw [if_neg hmagic, if_pos hmagic]

/-- With five words the headers are where the gateway looks for them. -/
theorem reference_five : reference 5 m =
    if m.dataLen < 42 ∨ m.etherType ≠ rteEtherTypeIpv4 ∨ m.ipProto ≠ ipprotoUdp then none
    else if m.udpDstPort = wanUdpPort then
      if 54 ≤ m.dataLen ∧ isWriteOpcode m.bthOpcode = true
      then some (.write m.bthGetQpn m.bthGetPsn)
      else none
    else if m.udpDstPort = arqCtrlPort then
      if 318 ≤ m.dataLen then (arqParseCtrlMsg m).map .control else none
    else none := by
  rw [← ctrlMsgAt_42]
  simp only [reference, Nat.reduceMul, Nat.reduceAdd, Nat.lt_irrefl, false_or]
  rfl

theorem reference_write_iff {qpn psn : Nat} :
    reference 5 m = some (.write qpn psn) ↔
      54 ≤ m.dataLen ∧ m.isRoceWrite ∧ m.bthGetQpn = qpn ∧ m.bthGetPsn = psn := by
  rw [reference_five]
  by_cases hip : m.dataLen < 42 ∨ m.etherType ≠ rteEtherTypeIpv4 ∨ m.ipProto ≠ ipprotoUdp
  · rw [if_pos hip]
    refine iff_of_false (by simp) ?_
    rintro ⟨hlen, ⟨htype, hproto, -⟩, -⟩
    rcases hip with hshort | htype' | hproto'
    · omega
    · exact htype' htype
    · exact hproto' hproto
  · rw [if_neg hip]
    push Not at hip
    obtain ⟨-, htype, hproto⟩ := hip
    by_cases hport : m.udpDstPort = wanUdpPort
    · rw [if_pos hport, Mbuf.isRoceWrite]
      by_cases hwrite : 54 ≤ m.dataLen ∧ isWriteOpcode m.bthOpcode = true
      · rw [if_pos hwrite]
        simp [htype, hproto, hport, hwrite]
      · rw [if_neg hwrite]
        refine iff_of_false (by simp) ?_
        rintro ⟨hlen, ⟨-, -, -, hop⟩, -⟩
        exact hwrite ⟨hlen, hop⟩
    · rw [if_neg hport]
      refine iff_of_false ?_ fun h => hport h.2.1.2.2.1
      split_ifs
      · cases arqParseCtrlMsg m <;> simp
      · simp
      · simp

theorem reference_control_iff {msg : ArqControlMsg} :
    reference 5 m = some (.control msg) ↔ 318 ≤ m.dataLen ∧ ctrlMsgOf m = some msg := by
  rw [reference_five, ctrlMsgOf]
  by_cases hip : m.dataLen < 42 ∨ m.etherType ≠ rteEtherTypeIpv4 ∨ m.ipProto ≠ ipprotoUdp
  · rw [if_pos hip]
    refine iff_of_false (by simp) ?_
    rintro ⟨hlen, hmsg⟩
    split_ifs at hmsg with hctrl
    rcases hip with hshort | htype' | hproto'
    · omega
    · exact htype' hctrl.1
    · exact hproto' hctrl.2.1
  · rw [if_neg hip]
    push Not at hip
    obtain ⟨-, htype, hproto⟩ := hip
    by_cases hport : m.udpDstPort = arqCtrlPort
    · have hother : m.udpDstPort ≠ wanUdpPort := by
        rw [hport]
        decide
      have hheads : m.etherType = rteEtherTypeIpv4 ∧ m.ipProto = ipprotoUdp ∧
          m.udpDstPort = arqCtrlPort := ⟨htype, hproto, hport⟩
      rw [if_neg hother, if_pos hport, if_pos hheads]
      by_cases hlen : 318 ≤ m.dataLen
      · simp [hlen]
      · simp [hlen]
    · have hheads : ¬ (m.etherType = rteEtherTypeIpv4 ∧ m.ipProto = ipprotoUdp ∧
          m.udpDstPort = arqCtrlPort) := fun h => hport h.2.2
      rw [if_neg hheads, if_neg hport]
      refine iff_of_false ?_ (by simp)
      split_ifs <;> simp

theorem lanVerdict_write_iff {host : Host} {qpn psn : Nat} :
    lanVerdict host m = .write qpn psn ↔
      wanGetPeerIp host (bswap32 m.ipDstAddr) ≠ 0 ∧ m.isRoceWrite ∧ m.bthGetQpn = qpn ∧
        m.bthGetPsn = psn := by
  unfold lanVerdict Mbuf.isRoceWrite wanUdpPort
  split_ifs <;> simp_all

theorem wanVerdict_write_iff {qpn psn : Nat} :
    wanVerdict m = .write qpn psn ↔
      m.isRoceWrite ∧ m.bthGetQpn = qpn ∧ m.bthGetPsn = psn := by
  unfold wanVerdict Mbuf.isRoceWrite wanUdpPort
  split_ifs <;> simp_all [arqCtrlPort]

theorem wanVerdict_control_iff {msg : ArqControlMsg} :
    wanVerdict m = .control (some msg) ↔ ctrlMsgOf m = some msg := by
  unfold wanVerdict ctrlMsgOf
  split_ifs <;> simp_all

end Findings

/-- Header parsing at fixed offsets, for a frame of any length and contents.  The reads
stay inside the frame exactly when it has the bytes that its own headers lead to; and a
frame with the bytes of a WRITE, or of a control message, is taken for one exactly when
the parser that places the UDP header behind five words of IPv4 header finds it. -/
theorem header_parsing (proc : ProcessorContext) (host : Host) (m : Mbuf) (feedback : Bool) :
    ((lanHeaders proc host).Within m.data m.dataLen ↔ lanNeeds host m ≤ m.dataLen) ∧
      ((wanHeaders feedback).Within m.data m.dataLen ↔ wanNeeds m ≤ m.dataLen) ∧
      (∀ qpn psn, (lanHeaders proc host).value m.data = .write qpn psn ∧ 54 ≤ m.dataLen ↔
        wanGetPeerIp host (bswap32 m.ipDstAddr) ≠ 0 ∧ reference 5 m = some (.write qpn psn)) ∧
      (∀ qpn psn, (wanHeaders feedback).value m.data = .write qpn psn ∧ 54 ≤ m.dataLen ↔
        reference 5 m = some (.write qpn psn)) ∧
      ∀ msg, (wanHeaders feedback).value m.data = .control (some msg) ∧ 318 ≤ m.dataLen ↔
        reference 5 m = some (.control msg) := by
  refine ⟨?_, ?_, fun qpn psn => ?_, fun qpn psn => ?_, fun msg => ?_⟩
  · rw [Reads.within_iff, lanHeaders_need]
  · rw [Reads.within_iff, wanHeaders_need]
  · rw [lanHeaders_value, lanVerdict_write_iff, reference_write_iff]
    constructor
    · rintro ⟨⟨hpeer, hwrite⟩, hlen⟩
      exact ⟨hpeer, hlen, hwrite⟩
    · rintro ⟨hpeer, hlen, hwrite⟩
      exact ⟨⟨hpeer, hwrite⟩, hlen⟩
  · rw [wanHeaders_value, wanVerdict_write_iff, reference_write_iff, and_comm]
  · rw [wanHeaders_value, wanVerdict_control_iff, reference_control_iff, and_comm]

/-- The first 20 bytes of an IPv4 packet, and nothing behind them. -/
def shortFrame : Mbuf where
  id := 0
  room := 2048
  dataLen := 20
  data := ByteMem.st16 (fun _ => 0) 12 (bswap16 rteEtherTypeIpv4)

/-- A datagram behind six words of IPv4 header, with the ports of a WRITE at byte 34,
where its options are. -/
def optionsFrame : Mbuf :=
  (writeFrame 0 roceOpcodeWriteOnly 7 1).withData
    ((writeFrame 0 roceOpcodeWriteOnly 7 1).data.st8 14 0x46)

/-- A short frame is read past its end; and a frame that is long enough is taken for a
WRITE by its options, where the parser that honours the header length finds nothing. -/
theorem short_and_optioned_frames :
    (¬ ∀ (proc : ProcessorContext) (host : Host) (m : Mbuf),
      (lanHeaders proc host).Within m.data m.dataLen) ∧
    ¬ ∀ (proc : ProcessorContext) (host : Host) (m : Mbuf) (qpn psn : Nat),
      (lanHeaders proc host).Within m.data m.dataLen →
        (lanHeaders proc host).value m.data = .write qpn psn →
          reference (ihl m) m = some (.write qpn psn) := by
  constructor
  · intro h
    have hneed := h (procInit Host.unloaded 0 true) Host.unloaded shortFrame
    rw [Reads.within_iff, lanHeaders_need] at hneed
    exact absurd hneed (by decide +kernel)
  · intro h
    have hin : (lanHeaders (procInit Host.unloaded 0 true) Host.unloaded).Within
        optionsFrame.data optionsFrame.dataLen := by
      rw [Reads.within_iff, lanHeaders_need]
      decide +kernel
    have hverdict : (lanHeaders (procInit Host.unloaded 0 true) Host.unloaded).value
        optionsFrame.data = .write 7 1 := by
      rw [lanHeaders_value]
      decide +kernel
    have hfound := h _ _ optionsFrame 7 1 hin hverdict
    have hnone : reference (ihl optionsFrame) optionsFrame = none := by
      rw [reference, if_neg, if_neg, if_neg] <;> decide +kernel
    rw [hnone] at hfound
    cases hfound

end RdmaGateway.Processor
