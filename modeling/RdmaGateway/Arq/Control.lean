/-
  Arq/Control.lean --- ARQ control messages (`arq_build_ctrl_msg` and
  `arq_parse_ctrl_msg` of `src/arq.c`).

  A control message is a UDP datagram on port 4792.  Its payload is the C
  structure `arq_control_msg_t`, 276 bytes with three of padding after the type:
  magic at byte 42 of the frame, type at 46, QPN at 50, PSN at 54, count at 58 and
  64 list entries from 62 on.  The source MAC, the padding and the unused list
  entries keep what the buffer held before.
-/
import RdmaGateway.Arq.Window
import RdmaGateway.Tunnel.WanTunnel

set_option autoImplicit false

namespace RdmaGateway.Arq

open RdmaGateway.Foundation
open RdmaGateway.Dpdk
open RdmaGateway.Wire
open RdmaGateway.Tunnel

/-- `ARQ_MAGIC` -/
def arqMagic : Nat := 0x41525130
/-- `ARQ_MSG_ACK` -/
def arqMsgAck : Nat := 0x01
/-- `ARQ_MSG_NACK` -/
def arqMsgNack : Nat := 0x02

/-- `arq_control_msg_t` in host order; the list holds the entries that were read. -/
structure ArqControlMsg where
  magic : Nat
  type : Nat
  qpn : Nat
  psn : Nat
  count : Nat
  psnList : List Nat
  deriving DecidableEq

/-- The loop of `arq_build_ctrl_msg` that stores the PSN list. -/
def stPsnList (b : ByteMem) (psnList : Option (Nat → Nat)) (count : Nat) : ByteMem :=
  match psnList with
  | some psns =>
    (List.range (min count maxRetxBurst)).foldl
      (fun b i => b.st32 (62 + 4 * i) (bswap32 (psns i))) b
  | none => b

/-- The bytes `arq_build_ctrl_msg` writes over a buffer. -/
def ctrlFrame (b : ByteMem) (dstMac : EtherAddr) (srcIp dstIp qpn type psn : Nat)
    (psnList : Option (Nat → Nat)) (count : Nat) : ByteMem :=
  let b := stMac b 0 dstMac
  let b := b.st16 12 (bswap16 rteEtherTypeIpv4)
  let b := buildIpv4Udp b srcIp dstIp (bswap16 arqCtrlPort) (bswap16 arqCtrlPort) 304 284
  let b := b.st32 42 (bswap32 arqMagic)
  let b := b.st8 46 type
  let b := b.st32 50 (bswap32 qpn)
  let b := b.st32 54 (bswap32 psn)
  let b := b.st32 58 (bswap32 count)
  stPsnList b psnList count

/-- `arq_build_ctrl_msg`. -/
def arqBuildCtrlMsg (host : Host) (qpn type psn dstIp : Nat) (psnList : Option (Nat → Nat))
    (count : Nat) : Option Mbuf × Host :=
  match host.allocAppend 318 with
  | (none, host) => (none, host)
  | (some m, host) =>
    let dstMac := (arpCacheLookup host dstIp).getD (.fill 0xFF)
    let b := ctrlFrame m.data dstMac host.wanTunnelSrcIp dstIp qpn type psn psnList count
    (some { m with data := b, dataLen := 318 }, host)

/-- `arq_parse_ctrl_msg`; `none` is the return code `-1`. -/
def arqParseCtrlMsg (m : Mbuf) : Option ArqControlMsg :=
  let magic := bswap32 (m.data.ld32 42)
  if magic ≠ arqMagic then none
  else
    let count := bswap32 (m.data.ld32 58)
    some
      { magic := magic
        type := m.data.ld8 46
        qpn := bswap32 (m.data.ld32 50)
        psn := bswap32 (m.data.ld32 54)
        count := count
        psnList := (List.range (min count maxRetxBurst)).map fun i =>
          bswap32 (m.data.ld32 (62 + 4 * i)) }

/-- What `proc_process_wan_rx` takes a frame for when it takes it for a control
message. -/
def ctrlMsgOf (m : Mbuf) : Option ArqControlMsg :=
  if m.etherType = rteEtherTypeIpv4 ∧ m.ipProto = ipprotoUdp ∧ m.udpDstPort = arqCtrlPort
  then arqParseCtrlMsg m else none

/-! ## Reading back what was built -/

theorem stPsnList_ld8_of_lt (b : ByteMem) (psnList : Option (Nat → Nat)) (count : Nat) {i : Nat}
    (hi : i < 62) : (stPsnList b psnList count).ld8 i = b.ld8 i := by
  unfold stPsnList
  cases psnList with
  | none => rfl
  | some psns =>
    generalize min count maxRetxBurst = k
    induction k with
    | zero => rfl
    | succ k ih =>
      simp only [List.range_succ, List.foldl_append, List.foldl_cons, List.foldl_nil]
      rw [ByteMem.ld8_st32]
      repeat rw [if_neg (by omega)]
      exact ih

/-- A 32-bit load of a field below the list sees what was stored before the list. -/
theorem stPsnList_ld32_of_le (b : ByteMem) (psnList : Option (Nat → Nat)) (count : Nat) {i : Nat}
    (hi : i + 4 ≤ 62) : (stPsnList b psnList count).ld32 i = b.ld32 i := by
  simp only [ByteMem.ld32]
  rw [stPsnList_ld8_of_lt b psnList count (by omega), stPsnList_ld8_of_lt b psnList count (by omega),
    stPsnList_ld8_of_lt b psnList count (by omega), stPsnList_ld8_of_lt b psnList count (by omega)]

section Frame

variable (b : ByteMem) (dstMac : EtherAddr) (srcIp dstIp qpn type psn : Nat)
  (psnList : Option (Nat → Nat)) (count : Nat)

/-- The headers of a built frame send it to the control port. -/
theorem ctrlFrame_headers (m : Mbuf) :
    (m.withData (ctrlFrame b dstMac srcIp dstIp qpn type psn psnList count)).etherType =
        rteEtherTypeIpv4 ∧
      (m.withData (ctrlFrame b dstMac srcIp dstIp qpn type psn psnList count)).ipProto =
        ipprotoUdp ∧
      (m.withData (ctrlFrame b dstMac srcIp dstIp qpn type psn psnList count)).udpDstPort =
        arqCtrlPort := by
  simp [Mbuf.etherType, Mbuf.ipProto, Mbuf.udpDstPort, ctrlFrame, stPsnList_ld8_of_lt,
    buildIpv4Udp, ByteMem.ld16, ByteMem.ld8_st8, ByteMem.ld8_st16, ByteMem.ld8_st32,
    bswap16, rteEtherTypeIpv4, ipprotoUdp, arqCtrlPort]

/-- The fields of a built frame are the arguments it was built from, each cut to
the width of its field. -/
theorem ctrlFrame_fields :
    bswap32 ((ctrlFrame b dstMac srcIp dstIp qpn type psn psnList count).ld32 42) = arqMagic ∧
      (ctrlFrame b dstMac srcIp dstIp qpn type psn psnList count).ld8 46 = type % 256 ∧
      bswap32 ((ctrlFrame b dstMac srcIp dstIp qpn type psn psnList count).ld32 50) =
        qpn % 4294967296 ∧
      bswap32 ((ctrlFrame b dstMac srcIp dstIp qpn type psn psnList count).ld32 54) =
        psn % 4294967296 ∧
      bswap32 ((ctrlFrame b dstMac srcIp dstIp qpn type psn psnList count).ld32 58) =
        count % 4294967296 := by
  have hswap : ∀ v, bswap32 (bswap32 v % 4294967296) = v % 4294967296 := by
    intro v
    rw [Nat.mod_eq_of_lt (ByteMem.bswap32_lt v), ByteMem.bswap32_bswap32]
  refine ⟨?_, ?_, ?_, ?_, ?_⟩
  · rw [ctrlFrame, stPsnList_ld32_of_le _ _ _ (by decide),
      ByteMem.ld32_st32_of_disjoint _ _ (by decide), ByteMem.ld32_st32_of_disjoint _ _ (by decide),
      ByteMem.ld32_st32_of_disjoint _ _ (by decide), ByteMem.ld32_st8_of_disjoint _ _ (by decide),
      ByteMem.ld32_st32]
    exact hswap arqMagic
  · rw [ctrlFrame, stPsnList_ld8_of_lt _ _ _ (by decide)]
    simp [ByteMem.ld8_st8, ByteMem.ld8_st32]
  · rw [ctrlFrame, stPsnList_ld32_of_le _ _ _ (by decide),
      ByteMem.ld32_st32_of_disjoint _ _ (by decide), ByteMem.ld32_st32_of_disjoint _ _ (by decide),
      ByteMem.ld32_st32]
    exact hswap qpn
  · rw [ctrlFrame, stPsnList_ld32_of_le _ _ _ (by decide),
      ByteMem.ld32_st32_of_disjoint _ _ (by decide), ByteMem.ld32_st32]
    exact hswap psn
  · rw [ctrlFrame, stPsnList_ld32_of_le _ _ _ (by decide), ByteMem.ld32_st32]
    exact hswap count

/-- The addresses of a built frame. -/
theorem ctrlFrame_addrs :
    (ctrlFrame b dstMac srcIp dstIp qpn type psn psnList count).ld32 26 = srcIp % 4294967296 ∧
      (ctrlFrame b dstMac srcIp dstIp qpn type psn psnList count).ld32 30 =
        dstIp % 4294967296 := by
  have hkeep : ∀ {i : Nat} (c : ByteMem) (v₀ v₁ v₂ v₃ v₄ : Nat), i + 4 ≤ 42 →
      (stPsnList (((((c.st32 42 v₀).st8 46 v₁).st32 50 v₂).st32 54 v₃).st32 58 v₄)
        psnList count).ld32 i = c.ld32 i := by
    intro i c v₀ v₁ v₂ v₃ v₄ hi
    rw [stPsnList_ld32_of_le _ _ _ (by omega), ByteMem.ld32_st32_of_disjoint _ _ (by omega),
      ByteMem.ld32_st32_of_disjoint _ _ (by omega), ByteMem.ld32_st32_of_disjoint _ _ (by omega),
      ByteMem.ld32_st8_of_disjoint _ _ (by omega), ByteMem.ld32_st32_of_disjoint _ _ (by omega)]
  rw [ctrlFrame, hkeep _ _ _ _ _ _ (by decide), hkeep _ _ _ _ _ _ (by decide)]
  exact buildIpv4Udp_addrs _ _ _ _ _ _ _

end Frame

/-- A frame built without a list is, to the gateway that receives it, the control
message it was built for. -/
theorem ctrlMsgOf_ctrlFrame (m : Mbuf) (b : ByteMem) (dstMac : EtherAddr)
    (srcIp dstIp qpn type psn : Nat) :
    ctrlMsgOf (m.withData (ctrlFrame b dstMac srcIp dstIp qpn type psn none 0)) =
      some ⟨arqMagic, type % 256, qpn % 4294967296, psn % 4294967296, 0, []⟩ := by
  obtain ⟨hmagic, htype, hqpn, hpsn, hcount⟩ :=
    ctrlFrame_fields b dstMac srcIp dstIp qpn type psn none 0
  rw [ctrlMsgOf, if_pos (ctrlFrame_headers b dstMac srcIp dstIp qpn type psn none 0 m)]
  simp [arqParseCtrlMsg, hmagic, htype, hqpn, hpsn, hcount]

end RdmaGateway.Arq
