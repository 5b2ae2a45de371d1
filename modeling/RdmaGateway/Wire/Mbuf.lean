/-
  Wire/Mbuf.lean --- packet buffers and the headers the gateway reads and writes
  in them (`include/roce_defs.h`, `build_ipv4_udp` of `src/wan_tunnel.c`).

  An `Mbuf` keeps its whole data room, not only the bytes of the frame: a fresh
  buffer still holds what its last user left, and a header read past the end of
  a short frame returns those bytes.  All header fields sit at the fixed offsets
  the C structures give them, with the IPv4 header taken to be 20 bytes long, as
  every `(ip + 1)` of the source takes it.  The host is little-endian, so a
  `uint32_t` header field is a little-endian load and `rte_be_to_cpu_32` a swap.
-/
import RdmaGateway.Foundation.ByteMem
import RdmaGateway.Dpdk.Io

set_option autoImplicit false

namespace RdmaGateway.Wire

open RdmaGateway.Foundation
open RdmaGateway.Dpdk

/-- A packet buffer: its identity, the size of its data room, the length of the
frame in it and the bytes of the room. -/
structure Mbuf where
  id : Nat
  room : Nat
  dataLen : Nat
  data : ByteMem

/-- `struct rte_ether_addr`, six bytes. -/
structure EtherAddr where
  bytes : List UInt8
  length_eq : bytes.length = 6

/-- An address of six equal bytes. -/
def EtherAddr.fill (v : UInt8) : EtherAddr := ⟨List.replicate 6 v, rfl⟩

/-- `rte_ether_addr_copy` to the bytes from `off` on. -/
def stMac (b : ByteMem) (off : Nat) (mac : EtherAddr) : ByteMem := b.stBytes off mac.bytes

/-- `rte_ether_addr_copy` from the bytes from `off` on. -/
def ldMac (b : ByteMem) (off : Nat) : EtherAddr := ⟨b.ldBytes off 6, by simp [ByteMem.ldBytes]⟩

theorem stMac_of_ge (b : ByteMem) (mac : EtherAddr) {off i : Nat} (hi : off + 6 ≤ i) :
    stMac b off mac i = b i :=
  UInt8.toNat_inj.mp (ByteMem.ld8_stBytes_of_ge mac.bytes b (by rw [mac.length_eq]; exact hi))

/-- `rte_pktmbuf_alloc`: the buffer comes back empty, its bytes do not. -/
def pktmbufAlloc (io : Io Mbuf) : Option Mbuf × Io Mbuf :=
  let (m, io) := rtePktmbufAlloc io
  (m.map fun m => { m with dataLen := 0 }, io)

/-- `rte_pktmbuf_append`: fails when the room is too small, clears nothing. -/
def rtePktmbufAppend (m : Mbuf) (len : Nat) : Option Mbuf :=
  if m.dataLen + len ≤ m.room then some { m with dataLen := m.dataLen + len } else none

/-! ## Constants -/

/-- `RTE_ETHER_TYPE_IPV4` -/
def rteEtherTypeIpv4 : Nat := 0x0800
/-- `RTE_ETHER_TYPE_ARP` -/
def rteEtherTypeArp : Nat := 0x0806
/-- `IPPROTO_UDP` -/
def ipprotoUdp : Nat := 17
/-- `WAN_UDP_PORT`, the RoCEv2 port -/
def wanUdpPort : Nat := 4791
/-- `ARQ_CTRL_PORT` -/
def arqCtrlPort : Nat := 4792

def roceOpcodeWriteFirst : Nat := 0x0A
def roceOpcodeWriteMiddle : Nat := 0x0B
def roceOpcodeWriteLast : Nat := 0x0C
def roceOpcodeWriteOnly : Nat := 0x0D
def roceOpcodeWriteLastImm : Nat := 0x0E
def roceOpcodeAck : Nat := 0x11
def roceOpcodeCnp : Nat := 0x81

/-- `is_write_opcode`. -/
def isWriteOpcode (opcode : Nat) : Bool :=
  roceOpcodeWriteFirst ≤ opcode && opcode ≤ roceOpcodeWriteLastImm

namespace Mbuf

/-- Replace the bytes, keep the buffer. -/
def withData (m : Mbuf) (b : ByteMem) : Mbuf := { m with data := b }

@[simp] theorem withData_id (m : Mbuf) (b : ByteMem) : (m.withData b).id = m.id := rfl
@[simp] theorem withData_data (m : Mbuf) (b : ByteMem) : (m.withData b).data = b := rfl

/-! ## Ethernet, bytes 0 to 13 -/

/-- `eth->d_addr` -/
def ethDst (m : Mbuf) : EtherAddr := ldMac m.data 0
/-- `eth->s_addr` -/
def ethSrc (m : Mbuf) : EtherAddr := ldMac m.data 6
/-- `rte_be_to_cpu_16(eth->ether_type)` -/
def etherType (m : Mbuf) : Nat := bswap16 (m.data.ld16 12)

/-! ## IPv4, bytes 14 to 33 -/

/-- `ip->type_of_service` -/
def ipTos (m : Mbuf) : Nat := m.data.ld8 15
/-- `ip->next_proto_id` -/
def ipProto (m : Mbuf) : Nat := m.data.ld8 23
/-- `ip->src_addr`, in network order as stored -/
def ipSrcAddr (m : Mbuf) : Nat := m.data.ld32 26
/-- `ip->dst_addr`, in network order as stored -/
def ipDstAddr (m : Mbuf) : Nat := m.data.ld32 30

/-! ## UDP, bytes 34 to 41 -/

/-- `udp->src_port`, as stored -/
def udpSrcPort (m : Mbuf) : Nat := m.data.ld16 34
/-- `rte_be_to_cpu_16(udp->dst_port)` -/
def udpDstPort (m : Mbuf) : Nat := bswap16 (m.data.ld16 36)

/-! ## BTH, bytes 42 to 53 -/

/-- `bth->opcode` -/
def bthOpcode (m : Mbuf) : Nat := m.data.ld8 42
/-- `bth->flags` -/
def bthFlags (m : Mbuf) : Nat := m.data.ld8 43
/-- `bth->pkey`, as stored -/
def bthPkey (m : Mbuf) : Nat := m.data.ld16 44
/-- `bth_get_qpn` -/
def bthGetQpn (m : Mbuf) : Nat :=
  65536 * m.data.ld8 47 + 256 * m.data.ld8 48 + m.data.ld8 49
/-- `bth_get_psn` -/
def bthGetPsn (m : Mbuf) : Nat :=
  65536 * m.data.ld8 51 + 256 * m.data.ld8 52 + m.data.ld8 53

theorem bthGetQpn_lt (m : Mbuf) : m.bthGetQpn < 16777216 := by
  have h₀ := m.data.ld8_lt 47
  have h₁ := m.data.ld8_lt 48
  have h₂ := m.data.ld8_lt 49
  unfold bthGetQpn
  omega

theorem bthGetPsn_lt (m : Mbuf) : m.bthGetPsn < 16777216 := by
  have h₀ := m.data.ld8_lt 51
  have h₁ := m.data.ld8_lt 52
  have h₂ := m.data.ld8_lt 53
  unfold bthGetPsn
  omega

/-- The frame carries a RoCEv2 WRITE: the chain of header checks that both
receive functions make before they read the transport header. -/
def isRoceWrite (m : Mbuf) : Prop :=
  m.etherType = rteEtherTypeIpv4 ∧ m.ipProto = ipprotoUdp ∧ m.udpDstPort = wanUdpPort ∧
    isWriteOpcode m.bthOpcode = true

instance (m : Mbuf) : Decidable m.isRoceWrite :=
  inferInstanceAs (Decidable (_ ∧ _ ∧ _ ∧ _))

end Mbuf

/-! ## Header writers -/

/-- `bth_set_qpn` on the BTH at byte 42. -/
def bthSetQpn (b : ByteMem) (qpn : Nat) : ByteMem :=
  ((b.st8 47 (qpn / 65536)).st8 48 (qpn / 256)).st8 49 qpn

/-- `bth_set_psn` on the BTH at byte 42. -/
def bthSetPsn (b : ByteMem) (psn : Nat) : ByteMem :=
  ((b.st8 51 (psn / 65536)).st8 52 (psn / 256)).st8 53 psn

/-- `build_ipv4_udp`, on the headers at bytes 14 and 34.  Addresses and ports
come in network order, lengths in host order. -/
def buildIpv4Udp (b : ByteMem) (srcBe dstBe sportBe dportBe ipTotalLen udpLen : Nat) :
    ByteMem :=
  let b := b.st8 14 0x45
  let b := b.st8 15 0
  let b := b.st16 16 (bswap16 ipTotalLen)
  let b := b.st16 18 0
  let b := b.st16 20 0
  let b := b.st8 22 64
  let b := b.st8 23 ipprotoUdp
  let b := b.st32 26 srcBe
  let b := b.st32 30 dstBe
  let b := b.st16 24 0
  let b := b.st16 34 sportBe
  let b := b.st16 36 dportBe
  let b := b.st16 38 (bswap16 udpLen)
  b.st16 40 0

/-- The addresses of the built header. -/
theorem buildIpv4Udp_addrs (b : ByteMem) (s d sp dp l u : Nat) :
    (buildIpv4Udp b s d sp dp l u).ld32 26 = s % 4294967296 ∧
      (buildIpv4Udp b s d sp dp l u).ld32 30 = d % 4294967296 := by
  constructor
  · rw [buildIpv4Udp, ByteMem.ld32_st16_of_disjoint _ _ (by decide),
      ByteMem.ld32_st16_of_disjoint _ _ (by decide), ByteMem.ld32_st16_of_disjoint _ _ (by decide),
      ByteMem.ld32_st16_of_disjoint _ _ (by decide), ByteMem.ld32_st16_of_disjoint _ _ (by decide),
      ByteMem.ld32_st32_of_disjoint _ _ (by decide), ByteMem.ld32_st32]
  · rw [buildIpv4Udp, ByteMem.ld32_st16_of_disjoint _ _ (by decide),
      ByteMem.ld32_st16_of_disjoint _ _ (by decide), ByteMem.ld32_st16_of_disjoint _ _ (by decide),
      ByteMem.ld32_st16_of_disjoint _ _ (by decide), ByteMem.ld32_st16_of_disjoint _ _ (by decide),
      ByteMem.ld32_st32]

/-- A frame with the headers of a RoCE WRITE and nothing else. -/
def writeFrame (id opcode qpn psn : Nat) : Mbuf where
  id := id
  room := 2048
  dataLen := 58
  data :=
    let b : ByteMem := fun _ => 0
    let b := b.st16 12 (bswap16 rteEtherTypeIpv4)
    let b := b.st8 23 ipprotoUdp
    let b := b.st16 36 (bswap16 wanUdpPort)
    let b := b.st8 42 opcode
    bthSetPsn (bthSetQpn b qpn) psn

/-- What the receive functions read in such a frame. -/
theorem writeFrame_fields (id : Nat) {opcode qpn psn : Nat} (hop : opcode < 256)
    (hqpn : qpn < 16777216) (hpsn : psn < 16777216) :
    ((writeFrame id opcode qpn psn).isRoceWrite ↔ isWriteOpcode opcode = true) ∧
      (writeFrame id opcode qpn psn).bthOpcode = opcode ∧
      (writeFrame id opcode qpn psn).bthGetQpn = qpn ∧
      (writeFrame id opcode qpn psn).bthGetPsn = psn := by
  have hopcode : (writeFrame id opcode qpn psn).bthOpcode = opcode := by
    simp [writeFrame, Mbuf.bthOpcode, bthSetPsn, bthSetQpn, ByteMem.ld8_st8,
      Nat.mod_eq_of_lt hop]
  refine ⟨?_, hopcode, ?_, ?_⟩
  · rw [Mbuf.isRoceWrite, hopcode]
    simp [writeFrame, Mbuf.etherType, Mbuf.ipProto, Mbuf.udpDstPort, ByteMem.ld16, bthSetPsn,
      bthSetQpn, ByteMem.ld8_st8, ByteMem.ld8_st16, bswap16, rteEtherTypeIpv4, ipprotoUdp,
      wanUdpPort]
  · simp only [writeFrame, Mbuf.bthGetQpn, bthSetPsn, bthSetQpn, ByteMem.ld8_st8]
    simp
    omega
  · simp only [writeFrame, Mbuf.bthGetPsn, bthSetPsn, bthSetQpn, ByteMem.ld8_st8]
    simp
    omega

end RdmaGateway.Wire
