/-
  Gateway/Built.lean --- the frames the gateway builds.

  Four functions build frames: `send_arp_request`, `forge_and_send_ack`, `cc_build_cnp` and
  `arq_build_ctrl_msg`.  For each of them this file says what a receiver reads in the frame,
  in its headers and behind them.  An ARP request fills its frame; the other three are IPv4
  datagrams whose length fields fit the frame.  `IsBuilt` says which of them a call can pass
  to which port.
-/
import RdmaGateway.Arq.RoundTrip
import RdmaGateway.Gateway.Cores
import RdmaGateway.Processor.Emissions

set_option autoImplicit false

namespace RdmaGateway.Gateway

open RdmaGateway.Foundation
open RdmaGateway.Dpdk
open RdmaGateway.Wire
open RdmaGateway.Roce
open RdmaGateway.Tunnel
open RdmaGateway.Arq
open RdmaGateway.Reassembly
open RdmaGateway.Processor

/-! ## Datagrams and ARP requests -/

/-- An IPv4 and a UDP header in front of a payload that fills the frame. -/
structure IsDatagram (f : Mbuf) : Prop where
  etherType : f.etherType = rteEtherTypeIpv4
  versionIhl : f.data.ld8 14 = 0x45
  timeToLive : f.data.ld8 22 = 64
  proto : f.ipProto = ipprotoUdp
  totalLength : bswap16 (f.data.ld16 16) + 14 = f.dataLen
  dgramLen : bswap16 (f.data.ld16 38) + 34 = f.dataLen

/-- An ARP request for Ethernet and IPv4 that fills the frame. -/
structure IsArp (f : Mbuf) : Prop where
  etherType : f.etherType = rteEtherTypeArp
  hardware : bswap16 (f.data.ld16 14) = 1 ∧ f.data.ld8 18 = 6
  protocol : bswap16 (f.data.ld16 16) = rteEtherTypeIpv4 ∧ f.data.ld8 19 = 4
  op : bswap16 (f.data.ld16 20) = 1
  length : f.dataLen = 42

theorem stMac_ld8 (b : ByteMem) (mac : EtherAddr) {off i : Nat} (hi : i < off ∨ off + 6 ≤ i) :
    (stMac b off mac).ld8 i = b.ld8 i := by
  rcases hi with hi | hi
  · exact ByteMem.ld8_stBytes_of_lt _ _ hi
  · exact ByteMem.ld8_stBytes_of_ge _ _ (by rw [mac.length_eq]; exact hi)

theorem fill_ld8 (b : ByteMem) {off len i : Nat} (v : UInt8) (hi : i < off ∨ off + len ≤ i) :
    (b.fill off len v).ld8 i = b.ld8 i := by
  rw [ByteMem.ld8, ByteMem.ld8, ByteMem.fill, if_neg (by omega)]

theorem bswap16_ld16 (b : ByteMem) (i : Nat) :
    bswap16 (b.ld16 i) = 256 * b.ld8 i + b.ld8 (i + 1) := by
  have h₀ := b.ld8_lt i
  have h₁ := b.ld8_lt (i + 1)
  rw [bswap16, ByteMem.ld16]
  omega

/-- The header bytes that decide whether a frame is a datagram. -/
structure DatagramBytes (b : ByteMem) (len : Nat) : Prop where
  etherType : b.ld8 12 = 8 ∧ b.ld8 13 = 0
  versionIhl : b.ld8 14 = 0x45
  timeToLive : b.ld8 22 = 64
  proto : b.ld8 23 = ipprotoUdp
  totalLength : 256 * b.ld8 16 + b.ld8 17 + 14 = len
  dgramLen : 256 * b.ld8 38 + b.ld8 39 + 34 = len

theorem DatagramBytes.isDatagram {f : Mbuf} (h : DatagramBytes f.data f.dataLen) :
    IsDatagram f := by
  refine ⟨?_, h.versionIhl, h.timeToLive, h.proto, ?_, ?_⟩
  · simp only [Mbuf.etherType, bswap16_ld16, Nat.reduceAdd, h.etherType.1, h.etherType.2]
    rfl
  · simpa only [bswap16_ld16, Nat.reduceAdd] using h.totalLength
  · simpa only [bswap16_ld16, Nat.reduceAdd] using h.dgramLen

theorem ackFrame_datagram (b : ByteMem) {m : Mbuf} (hwrite : m.isRoceWrite) :
    DatagramBytes (ackFrame b m) 62 := by
  have htype := hwrite.1
  have h₁₂ := m.data.ld8_lt 12
  have h₁₃ := m.data.ld8_lt 13
  simp only [Mbuf.etherType, bswap16_ld16, Nat.reduceAdd, rteEtherTypeIpv4] at htype
  have hread : ∀ i, 12 ≤ i → i < 58 → (ackFrame b m).ld8 i = (ackHeaders b m).ld8 i := by
    intro i _ hi
    rw [ackFrame_eq, ByteMem.ld8_st32]
    repeat rw [if_neg (by omega)]
  constructor <;> simp only [hread, Nat.reduceLeDiff, Nat.reduceLT] <;>
    simp [ackHeaders, bthSetPsn, bthSetQpn, buildIpv4Udp, ByteMem.ld8_st8, ByteMem.ld8_st16,
      ByteMem.ld8_st32, ByteMem.ld16, bswap16, ipprotoUdp]
  omega

/-- Between its MAC addresses and its ICRC a CNP has the headers it was built with. -/
theorem cnpFrame_ld8 (b : ByteMem) (srcIp dstIp qpn pkey : Nat) (dst src : EtherAddr) {i : Nat}
    (hge : 12 ≤ i) (hlt : i < 70) :
    (stMac (stMac (cnpFrame b srcIp dstIp qpn pkey) 0 dst) 6 src).ld8 i =
      (cnpHeaders b srcIp dstIp qpn pkey).ld8 i := by
  rw [stMac_ld8 _ _ (Or.inr (by omega)), stMac_ld8 _ _ (Or.inr (by omega)), cnpFrame_eq,
    ByteMem.ld8_st32]
  repeat rw [if_neg (by omega)]

theorem cnpFrame_datagram (b : ByteMem) (srcIp dstIp qpn pkey : Nat) (dst src : EtherAddr) :
    DatagramBytes (stMac (stMac (cnpFrame b srcIp dstIp qpn pkey) 0 dst) 6 src) 74 := by
  constructor <;> simp only [cnpFrame_ld8, Nat.reduceLeDiff, Nat.reduceLT] <;>
    simp [cnpHeaders, bthSetQpn, buildIpv4Udp, ByteMem.ld8_st8, ByteMem.ld8_st16, ByteMem.ld8_st32,
      bswap16, rteEtherTypeIpv4, ipprotoUdp]

theorem ctrlFrame_datagram (b : ByteMem) (dst : EtherAddr) (srcIp dstIp qpn type psn : Nat) :
    DatagramBytes (ctrlFrame b dst srcIp dstIp qpn type psn none 0) 318 := by
  constructor <;>
    simp [ctrlFrame, stPsnList, buildIpv4Udp, ByteMem.ld8_st8, ByteMem.ld8_st16, ByteMem.ld8_st32,
      bswap16, rteEtherTypeIpv4, ipprotoUdp]

theorem arpFrame_isArp {f : Mbuf} {b : ByteMem} {srcMac : EtherAddr} {srcIp targetIp : Nat}
    (hlen : f.dataLen = 42) (hdata : f.data = arpFrame b srcMac srcIp targetIp) : IsArp f := by
  refine ⟨?_, ⟨?_, ?_⟩, ⟨?_, ?_⟩, ?_, hlen⟩ <;>
    simp [Mbuf.etherType, hdata, arpFrame, ByteMem.ld16, ByteMem.ld8_st8, ByteMem.ld8_st16,
      ByteMem.ld8_st32, fill_ld8, stMac_ld8, bswap16, rteEtherTypeArp, rteEtherTypeIpv4]

theorem arpFrame_target (b : ByteMem) (srcMac : EtherAddr) (srcIp : Nat) (m : Mbuf) :
    (arpFrame b srcMac srcIp (bswap32 m.ipDstAddr)).ld32 38 = m.ipDstAddr := by
  rw [arpFrame, ByteMem.ld32_st32, ByteMem.bswap32_bswap32, Nat.mod_mod]
  exact Nat.mod_eq_of_lt (ld32_lt m.data 30)

/-! ## MAC addresses -/

section Mac

variable (b : ByteMem) (mac : EtherAddr)

theorem stBytes_apply (vs : List UInt8) :
    ∀ (b : ByteMem) (off : Nat) {k : Nat} (hk : k < vs.length),
      ByteMem.stBytes b off vs (off + k) = vs[k] := by
  induction vs with
  | nil => exact fun _ _ _ hk => absurd hk (Nat.not_lt_zero _)
  | cons v vs ih =>
    intro b off k hk
    rw [ByteMem.stBytes]
    cases k with
    | zero =>
      have hread := ByteMem.ld8_stBytes_of_lt vs (Function.update b off v) (Nat.lt_add_one off)
      exact (UInt8.toNat_inj.mp hread).trans (Function.update_self off v b)
    | succ k =>
      have hnext := ih (Function.update b off v) (off + 1) (Nat.lt_of_succ_lt_succ hk)
      rw [List.getElem_cons_succ, ← hnext, Nat.add_assoc, Nat.add_comm 1 k]

theorem ldMac_stMac (off : Nat) : ldMac (stMac b off mac) off = mac := by
  have hbytes : (stMac b off mac).ldBytes off 6 = mac.bytes := by
    refine List.ext_getElem (by simp [ByteMem.ldBytes, mac.length_eq]) fun k _ hk => ?_
    simp only [stMac, ByteMem.ldBytes, List.getElem_map, List.getElem_range]
    exact stBytes_apply _ b off hk
  cases mac with
  | mk bytes length_eq => simpa [ldMac] using hbytes

/-- An address depends on its six bytes only. -/
theorem ldMac_congr {b b' : ByteMem} {off : Nat} (h : ∀ i < 6, b.ld8 (off + i) = b'.ld8 (off + i)) :
    ldMac b off = ldMac b' off := by
  have hbytes : b.ldBytes off 6 = b'.ldBytes off 6 :=
    List.map_congr_left fun i hi => UInt8.toNat_inj.mp (h i (List.mem_range.mp hi))
  simp [ldMac, hbytes]

end Mac

theorem arpFrame_ethDst {f : Mbuf} {b : ByteMem} {srcMac : EtherAddr} {srcIp targetIp : Nat}
    (hdata : f.data = arpFrame b srcMac srcIp targetIp) : f.ethDst = .fill 0xFF := by
  have hbroadcast : ∀ i < 6, f.data.ld8 (0 + i) = (stMac b 0 (.fill 0xFF)).ld8 (0 + i) := by
    intro i hi
    have hone : (stMac b 0 (.fill 0xFF)).ld8 (0 + i) = 255 := by
      rw [stMac, ByteMem.ld8, stBytes_apply _ b 0 (by rw [EtherAddr.length_eq]; exact hi)]
      exact congrArg UInt8.toNat (List.getElem_replicate _)
    have hset : (b.fill 0 6 0xFF).ld8 i = 255 := by
      rw [ByteMem.ld8, ByteMem.fill, if_pos ⟨Nat.zero_le i, by omega⟩]
      rfl
    rw [hone, hdata, Nat.zero_add, arpFrame]
    simp only [ByteMem.ld8_st32, ByteMem.ld8_st16, ByteMem.ld8_st8,
      fill_ld8 _ _ (Or.inl (by omega : i < 32)), stMac_ld8 _ _ (Or.inl (by omega : i < 22)),
      stMac_ld8 _ _ (Or.inl hi)]
    repeat rw [if_neg (by omega)]
    exact hset
  rw [Mbuf.ethDst, ldMac_congr hbroadcast, ldMac_stMac]

theorem ctrlFrame_ethDst {f : Mbuf} {b : ByteMem} {dst : EtherAddr}
    {srcIp dstIp qpn type psn : Nat}
    (hdata : f.data = ctrlFrame b dst srcIp dstIp qpn type psn none 0) : f.ethDst = dst := by
  have hread : ∀ i < 6, f.data.ld8 (0 + i) = (stMac b 0 dst).ld8 (0 + i) := by
    intro i hi
    rw [hdata, Nat.zero_add, ctrlFrame, stPsnList]
    simp only [buildIpv4Udp, ByteMem.ld8_st32, ByteMem.ld8_st16, ByteMem.ld8_st8]
    repeat rw [if_neg (by omega)]
  rw [Mbuf.ethDst, ldMac_congr hread, ldMac_stMac]

/-! ## What an acknowledgement says -/

/-- Frame `f` answers packet `m`: it goes back where the packet came from and acknowledges
its PSN on its queue pair. -/
structure IsAckOf (f m : Mbuf) : Prop where
  length : f.dataLen = 62
  macs : f.ethDst = m.ethSrc ∧ f.ethSrc = m.ethDst
  addrs : f.ipDstAddr = m.ipSrcAddr ∧ f.ipSrcAddr = m.ipDstAddr
  ports : f.data.ld16 36 = m.data.ld16 34 ∧ f.data.ld16 34 = m.data.ld16 36
  bth : f.bthOpcode = roceOpcodeAck ∧ f.bthGetQpn = m.bthGetQpn ∧ f.bthGetPsn = m.bthGetPsn

theorem ackFrame_macs {f m : Mbuf} {b : ByteMem} (hdata : f.data = ackFrame b m) :
    f.ethDst = m.ethSrc ∧ f.ethSrc = m.ethDst := by
  have hread : ∀ i < 12, f.data.ld8 i = (stMac (stMac b 0 m.ethSrc) 6 m.ethDst).ld8 i := by
    intro i hi
    rw [hdata, ackFrame_eq, ackHeaders]
    simp only [bthSetPsn, bthSetQpn, buildIpv4Udp, ByteMem.ld8_st32, ByteMem.ld8_st16,
      ByteMem.ld8_st8]
    repeat rw [if_neg (by omega)]
  constructor
  · rw [Mbuf.ethDst, ldMac_congr fun i hi => hread (0 + i) (by omega),
      ldMac_congr fun i hi => stMac_ld8 _ _ (Or.inl (by omega)), ldMac_stMac]
  · rw [Mbuf.ethSrc, ldMac_congr fun i hi => hread (6 + i) (by omega), ldMac_stMac]

theorem buildIpv4Udp_ports (b : ByteMem) (s d sp dp l u : Nat) :
    (buildIpv4Udp b s d sp dp l u).ld16 34 = sp % 65536 ∧
      (buildIpv4Udp b s d sp dp l u).ld16 36 = dp % 65536 := by
  constructor
  · simp [buildIpv4Udp, ByteMem.ld16, ByteMem.ld8_st16]
    omega
  · simp [buildIpv4Udp, ByteMem.ld16, ByteMem.ld8_st16]
    omega

/-- The addresses and ports of an acknowledgement are those that its headers were built
with. -/
theorem ackFrame_built {f m : Mbuf} {b : ByteMem} (hdata : f.data = ackFrame b m) :
    ∃ c, ∀ i, 26 ≤ i → i < 38 → f.data.ld8 i =
      (buildIpv4Udp c m.ipDstAddr m.ipSrcAddr (m.data.ld16 36) m.udpSrcPort 48 28).ld8 i := by
  refine ⟨(stMac (stMac b 0 m.ethSrc) 6 m.ethDst).st16 12 (m.data.ld16 12), fun i hge hlt => ?_⟩
  rw [hdata, ackFrame_eq, ackHeaders]
  simp only [bthSetPsn, bthSetQpn, ByteMem.ld8_st32, ByteMem.ld8_st16, ByteMem.ld8_st8]
  repeat rw [if_neg (by omega)]

theorem isAckOf_of_forged {f m : Mbuf} (h : IsForgedAck m .lan f) : IsAckOf f m := by
  obtain ⟨-, hlen, b, hdata⟩ := h
  obtain ⟨c, hbuilt⟩ := ackFrame_built hdata
  have hword : ∀ i, 26 ≤ i → i < 35 → f.data.ld32 i =
      (buildIpv4Udp c m.ipDstAddr m.ipSrcAddr (m.data.ld16 36) m.udpSrcPort 48 28).ld32 i := by
    intro i hge hlt
    simp only [ByteMem.ld32, hbuilt i hge (by omega), hbuilt (i + 1) (by omega) (by omega),
      hbuilt (i + 2) (by omega) (by omega), hbuilt (i + 3) (by omega) (by omega)]
  have hhalf : ∀ i, 26 ≤ i → i < 37 → f.data.ld16 i =
      (buildIpv4Udp c m.ipDstAddr m.ipSrcAddr (m.data.ld16 36) m.udpSrcPort 48 28).ld16 i := by
    intro i hge hlt
    simp only [ByteMem.ld16, hbuilt i hge (by omega), hbuilt (i + 1) (by omega) (by omega)]
  obtain ⟨hsrc, hdst⟩ := buildIpv4Udp_addrs c m.ipDstAddr m.ipSrcAddr (m.data.ld16 36)
    m.udpSrcPort 48 28
  obtain ⟨hsport, hdport⟩ := buildIpv4Udp_ports c m.ipDstAddr m.ipSrcAddr (m.data.ld16 36)
    m.udpSrcPort 48 28
  refine ⟨hlen, ackFrame_macs hdata, ⟨?_, ?_⟩, ⟨?_, ?_⟩, ackFrame_bth f hdata⟩
  · rw [Mbuf.ipDstAddr, hword 30 (by decide) (by decide), hdst]
    exact Nat.mod_eq_of_lt (ld32_lt m.data 26)
  · rw [Mbuf.ipSrcAddr, hword 26 (by decide) (by decide), hsrc]
    exact Nat.mod_eq_of_lt (ld32_lt m.data 30)
  · rw [hhalf 36 (by decide) (by decide), hdport]
    exact Nat.mod_eq_of_lt (ByteMem.ld16_lt m.data 34)
  · rw [hhalf 34 (by decide) (by decide), hsport]
    exact Nat.mod_eq_of_lt (ByteMem.ld16_lt m.data 36)

/-! ## What a CNP and a control message say -/

/-- Frame `f` is a congestion notification. -/
structure IsCnpFrame (f : Mbuf) : Prop where
  datagram : IsDatagram f
  length : f.dataLen = 74
  ports : f.udpSrcPort = bswap16 4791 ∧ f.udpDstPort = 4791
  opcode : f.bthOpcode = roceOpcodeCnp

theorem isCnpFrame_of_built {f : Mbuf} {b : ByteMem} {srcIp dstIp qpn pkey : Nat}
    {dstMac srcMac : EtherAddr} (hlen : f.dataLen = 74)
    (hdata : f.data = stMac (stMac (cnpFrame b srcIp dstIp qpn pkey) 0 dstMac) 6 srcMac) :
    IsCnpFrame f := by
  have hread : ∀ i, 12 ≤ i → i < 70 →
      f.data.ld8 i = (cnpHeaders b srcIp dstIp qpn pkey).ld8 i := by
    intro i hge hlt
    rw [hdata]
    exact cnpFrame_ld8 b srcIp dstIp qpn pkey dstMac srcMac hge hlt
  refine ⟨DatagramBytes.isDatagram ?_, hlen, ⟨?_, ?_⟩, (cnpFrame_bth f hdata).1⟩
  · rw [hlen, hdata]
    exact cnpFrame_datagram _ _ _ _ _ _ _
  · simp only [Mbuf.udpSrcPort, ByteMem.ld16, hread, Nat.reduceLeDiff, Nat.reduceLT,
      Nat.reduceAdd]
    simp [cnpHeaders, bthSetQpn, buildIpv4Udp, ByteMem.ld8_st8, ByteMem.ld8_st16, bswap16]
  · simp only [Mbuf.udpDstPort, ByteMem.ld16, hread, Nat.reduceLeDiff, Nat.reduceLT,
      Nat.reduceAdd]
    simp [cnpHeaders, bthSetQpn, buildIpv4Udp, ByteMem.ld8_st8, ByteMem.ld8_st16, bswap16]

/-- Frame `f` is the feedback for WRITE `m`: to the gateway that receives it, the
acknowledgement of the WRITE or the report of a PSN missing on its queue pair. -/
structure IsFeedbackFor (m f : Mbuf) : Prop where
  datagram : IsDatagram f
  length : f.dataLen = 318
  ports : f.udpSrcPort = bswap16 arqCtrlPort ∧ f.udpDstPort = arqCtrlPort
  message : ctrlMsgOf f = some (ackFor m) ∨
    ∃ psn, ctrlMsgOf f = some ⟨arqMagic, arqMsgNack, m.bthGetQpn, psn, 0, []⟩

theorem isFeedbackFor_of_built {m f : Mbuf} {b : ByteMem} {dst : EtherAddr}
    {srcIp dstIp type psn : Nat} (hmsg : IsAckOrNack m type psn) (hlen : f.dataLen = 318)
    (hdata : f.data = ctrlFrame b dst srcIp dstIp m.bthGetQpn type psn none 0) :
    IsFeedbackFor m f := by
  have hbuilt : IsCtrlMsg srcIp dstIp m.bthGetQpn type psn .wan f := ⟨rfl, b, dst, hdata⟩
  have hread := hbuilt.ctrlMsgOf
  have hqpn := m.bthGetQpn_lt
  have hpsn := m.bthGetPsn_lt
  rw [Nat.mod_eq_of_lt (by omega : m.bthGetQpn < 4294967296)] at hread
  refine ⟨DatagramBytes.isDatagram ?_, hlen, ⟨?_, ?_⟩, ?_⟩
  · rw [hlen, hdata]
    exact ctrlFrame_datagram _ _ _ _ _ _ _
  · rw [Mbuf.udpSrcPort, hdata]
    simp [ctrlFrame, stPsnList, buildIpv4Udp, ByteMem.ld16, ByteMem.ld8_st8, ByteMem.ld8_st16,
      ByteMem.ld8_st32, bswap16, arqCtrlPort]
  · rw [Mbuf.udpDstPort, hdata]
    exact (ctrlFrame_headers _ _ _ _ _ _ _ _ _ f).2.2
  · rcases hmsg with ⟨rfl, rfl⟩ | rfl
    · rw [Nat.mod_eq_of_lt (by omega : m.bthGetPsn < 4294967296)] at hread
      exact Or.inl hread
    · exact Or.inr ⟨_, hread⟩

/-! ## The built frames of a call -/

/-- A frame that the gateway builds in a call, and the port it goes to: a request for the
MAC of a packet's destination, the acknowledgement of a WRITE, a CNP, or the feedback for a
WRITE from the WAN. -/
inductive IsBuilt {L W : Nat} (f : Mbuf) : CoreCall L W → Port → Prop
  | arp (i : Fin L) (m : Mbuf) (harp : IsArp f) (htarget : f.data.ld32 38 = m.ipDstAddr) :
      IsBuilt f (.lanRx i m) .wan
  | ack (i : Fin L) (m : Mbuf) (hwrite : m.isRoceWrite) (hdatagram : IsDatagram f)
      (hack : IsAckOf f m) : IsBuilt f (.lanRx i m) .lan
  | cnp (i : Fin L) (m : Mbuf) (hcnp : IsCnpFrame f) : IsBuilt f (.lanRx i m) .lan
  | feedback (j : Fin W) (m : Mbuf) (hwrite : m.isRoceWrite) (hfeedback : IsFeedbackFor m f) :
      IsBuilt f (.wanRx j m) .wan

end RdmaGateway.Gateway
