/-
  Processor/Frames.lean --- the frames the gateway passes to its ports.

  `lan_frames` and `wan_frames` read off the outcomes of the two receive functions
  what a frame on either port can be and how it was made; the lemmas before them are
  about the fields of such a frame.
  A CNP and a forged acknowledgement are built in two steps: headers, then the ICRC
  over them.  `cnpHeaders` and `ackHeaders` are what `roce_icrc` is called on, and
  since it leaves the packet as it found it, the frame is these headers with four
  bytes more.
-/
import RdmaGateway.Processor.LanStep
import RdmaGateway.Processor.WanStep

set_option autoImplicit false

namespace RdmaGateway.Processor

open RdmaGateway.Foundation
open RdmaGateway.Dpdk
open RdmaGateway.Wire
open RdmaGateway.Roce
open RdmaGateway.Tunnel
open RdmaGateway.Arq
open RdmaGateway.Reassembly

/-! ## Frames before their ICRC -/

/-- A CNP before its ICRC. -/
def cnpHeaders (b : ByteMem) (srcIp dstIp qpn pkey : Nat) : ByteMem :=
  let b := b.fill 0 74 0
  let b := b.st16 12 (bswap16 rteEtherTypeIpv4)
  let b := buildIpv4Udp b srcIp dstIp (bswap16 4791) (bswap16 4791) 60 40
  let b := b.st8 42 roceOpcodeCnp
  let b := b.st16 44 pkey
  bthSetQpn b (qpn &&& 0x00FFFFFF)

theorem cnpFrame_eq (b : ByteMem) (srcIp dstIp qpn pkey : Nat) :
    cnpFrame b srcIp dstIp qpn pkey = (cnpHeaders b srcIp dstIp qpn pkey).st32 70
      (bswap32 (roceIcrc (cnpHeaders b srcIp dstIp qpn pkey) 28).1) := by
  have hmem := roceIcrc_mem (cnpHeaders b srcIp dstIp qpn pkey) 28
  have hsplit : cnpFrame b srcIp dstIp qpn pkey =
      (roceIcrc (cnpHeaders b srcIp dstIp qpn pkey) 28).2.st32 70
        (bswap32 (roceIcrc (cnpHeaders b srcIp dstIp qpn pkey) 28).1) := rfl
  rw [hsplit, hmem]

/-- The acknowledgement of `orig` before its ICRC. -/
def ackHeaders (b : ByteMem) (orig : Mbuf) : ByteMem :=
  let b := stMac b 0 orig.ethSrc
  let b := stMac b 6 orig.ethDst
  let b := b.st16 12 (orig.data.ld16 12)
  let b := buildIpv4Udp b orig.ipDstAddr orig.ipSrcAddr (orig.data.ld16 36) orig.udpSrcPort 48 28
  let b := b.st8 42 roceOpcodeAck
  let b := b.st8 43 orig.bthFlags
  let b := b.st16 44 orig.bthPkey
  let b := b.st8 46 0
  let b := b.st8 50 0
  let b := bthSetQpn b orig.bthGetQpn
  let b := bthSetPsn b orig.bthGetPsn
  let b := b.st8 54 0
  let b := b.st8 55 0
  b.st16 56 (bswap16 0xFFFF)

theorem ackFrame_eq (b : ByteMem) (orig : Mbuf) :
    ackFrame b orig = (ackHeaders b orig).st32 58
      (bswap32 (roceIcrc (ackHeaders b orig) 16).1) := by
  have hmem := roceIcrc_mem (ackHeaders b orig) 16
  have hsplit : ackFrame b orig = (roceIcrc (ackHeaders b orig) 16).2.st32 58
      (bswap32 (roceIcrc (ackHeaders b orig) 16).1) := rfl
  rw [hsplit, hmem]

/-- The forged acknowledgement carries the opcode, the QPN and the PSN. -/
theorem ackFrame_bth (f : Mbuf) {b : ByteMem} {orig : Mbuf} (h : f.data = ackFrame b orig) :
    f.bthOpcode = roceOpcodeAck ∧ f.bthGetQpn = orig.bthGetQpn ∧
      f.bthGetPsn = orig.bthGetPsn := by
  have hq := orig.bthGetQpn_lt
  have hp := orig.bthGetPsn_lt
  simp only [Mbuf.bthOpcode, h]
  refine ⟨?_, ?_, ?_⟩
  · simp [ackFrame, roceIcrc_mem, ByteMem.ld8_st32, ByteMem.ld8_st8, ByteMem.ld8_st16, bthSetPsn,
      bthSetQpn, roceOpcodeAck]
  · rw [Mbuf.bthGetQpn, h]
    simp [ackFrame, roceIcrc_mem, ByteMem.ld8_st32, ByteMem.ld8_st8, ByteMem.ld8_st16, bthSetPsn,
      bthSetQpn]
    omega
  · rw [Mbuf.bthGetPsn, h]
    simp [ackFrame, roceIcrc_mem, ByteMem.ld8_st32, ByteMem.ld8_st8, ByteMem.ld8_st16, bthSetPsn,
      bthSetQpn]
    omega

/-- A CNP carries its opcode and the QPN that it notifies. -/
theorem cnpFrame_bth (f : Mbuf) {b : ByteMem} {srcIp dstIp qpn pkey : Nat}
    {dstMac srcMac : EtherAddr}
    (h : f.data = stMac (stMac (cnpFrame b srcIp dstIp qpn pkey) 0 dstMac) 6 srcMac) :
    f.bthOpcode = roceOpcodeCnp ∧ f.bthGetQpn = qpn % 16777216 := by
  have hld : ∀ i, 12 ≤ i → f.data.ld8 i = (cnpFrame b srcIp dstIp qpn pkey).ld8 i := by
    intro i hi
    rw [ByteMem.ld8, h, stMac_of_ge _ _ (by omega), stMac_of_ge _ _ (by omega), ByteMem.ld8]
  have hmask : qpn &&& 0x00FFFFFF = qpn % 16777216 := Nat.and_two_pow_sub_one_eq_mod qpn 24
  simp only [Mbuf.bthOpcode, Mbuf.bthGetQpn, hld 42 (by decide), hld 47 (by decide),
    hld 48 (by decide), hld 49 (by decide), cnpFrame, roceIcrc_mem, hmask]
  refine ⟨?_, ?_⟩
  · simp [ByteMem.ld8_st32, ByteMem.ld8_st8, ByteMem.ld8_st16, bthSetQpn, roceOpcodeCnp]
  · simp [ByteMem.ld8_st32, ByteMem.ld8_st8, bthSetQpn]
    omega

/-! ## Address fields -/

theorem stMac_ld32 (b : ByteMem) (mac : EtherAddr) {off i : Nat} (hi : off + 6 ≤ i) :
    (stMac b off mac).ld32 i = b.ld32 i :=
  ByteMem.ld32_congr fun _ hk => stMac_of_ge b mac (by omega)

theorem setSrcAddr_ipSrcAddr (srcIp : Nat) (m : Mbuf) :
    (setSrcAddr srcIp m).ipSrcAddr = bswap32 srcIp := by
  rw [Mbuf.ipSrcAddr, setSrcAddr, Mbuf.withData_data,
    ByteMem.ld32_st16_of_disjoint _ _ (by decide), ByteMem.ld32_st32,
    Nat.mod_eq_of_lt (ByteMem.bswap32_lt _)]

/-- The rewrite touches the header checksum and the source address. -/
theorem setSrcAddr_ld8 (srcIp : Nat) (m : Mbuf) {i : Nat} (hi : i < 24 ∨ 30 ≤ i) :
    (setSrcAddr srcIp m).data.ld8 i = m.data.ld8 i := by
  rw [setSrcAddr, Mbuf.withData_data, ByteMem.ld8_st16, ByteMem.ld8_st32]
  repeat rw [if_neg (by omega)]

theorem setSrcAddr_bthGetQpn (srcIp : Nat) (m : Mbuf) :
    (setSrcAddr srcIp m).bthGetQpn = m.bthGetQpn := by
  simp only [Mbuf.bthGetQpn, setSrcAddr_ld8 srcIp m (i := 47) (by decide),
    setSrcAddr_ld8 srcIp m (i := 48) (by decide), setSrcAddr_ld8 srcIp m (i := 49) (by decide)]

theorem setSrcAddr_headers (srcIp : Nat) (m : Mbuf) :
    (setSrcAddr srcIp m).etherType = m.etherType ∧
      ((setSrcAddr srcIp m).isRoceWrite ↔ m.isRoceWrite) := by
  have htype : (setSrcAddr srcIp m).etherType = m.etherType := by
    simp only [Mbuf.etherType, ByteMem.ld16, setSrcAddr_ld8 srcIp m (i := 12) (by decide),
      setSrcAddr_ld8 srcIp m (i := 12 + 1) (by decide)]
  refine ⟨htype, ?_⟩
  simp only [Mbuf.isRoceWrite, htype, Mbuf.ipProto, Mbuf.udpDstPort, Mbuf.bthOpcode, ByteMem.ld16,
    setSrcAddr_ld8 srcIp m (i := 23) (by decide), setSrcAddr_ld8 srcIp m (i := 36) (by decide),
    setSrcAddr_ld8 srcIp m (i := 36 + 1) (by decide), setSrcAddr_ld8 srcIp m (i := 42) (by decide)]

theorem cnpFrame_src (b : ByteMem) (srcIp dstIp qpn pkey : Nat) :
    (cnpFrame b srcIp dstIp qpn pkey).ld32 26 = srcIp % 4294967296 := by
  rw [cnpFrame_eq, ByteMem.ld32_st32_of_disjoint _ _ (by decide), cnpHeaders, bthSetQpn,
    ByteMem.ld32_st8_of_disjoint _ _ (by decide), ByteMem.ld32_st8_of_disjoint _ _ (by decide),
    ByteMem.ld32_st8_of_disjoint _ _ (by decide), ByteMem.ld32_st16_of_disjoint _ _ (by decide),
    ByteMem.ld32_st8_of_disjoint _ _ (by decide)]
  exact (buildIpv4Udp_addrs _ _ _ _ _ _ _).1

theorem arpFrame_sender (b : ByteMem) (srcMac : EtherAddr) (srcIp targetIp : Nat) :
    (arpFrame b srcMac srcIp targetIp).ld32 28 = bswap32 srcIp := by
  have hfill : ∀ c : ByteMem, (c.fill 32 6 0).ld32 28 = c.ld32 28 := fun _ => rfl
  rw [arpFrame, ByteMem.ld32_st32_of_disjoint _ _ (by decide), hfill, ByteMem.ld32_st32,
    Nat.mod_eq_of_lt (ByteMem.bswap32_lt _)]

/-- An ARP request is no WRITE. -/
theorem IsArpRequest.etherType {srcIp : Nat} {port : Port} {f : Mbuf}
    (h : IsArpRequest srcIp port f) : f.etherType = rteEtherTypeArp := by
  obtain ⟨-, b, srcMac, targetIp, hdata⟩ := h
  have hb : ∀ c : ByteMem, (stMac c 22 srcMac).ld8 12 = c.ld8 12 ∧
      (stMac c 22 srcMac).ld8 13 = c.ld8 13 := fun c =>
    ⟨ByteMem.ld8_stBytes_of_lt _ _ (by decide), ByteMem.ld8_stBytes_of_lt _ _ (by decide)⟩
  have hfill : ∀ c : ByteMem, (c.fill 32 6 0).ld8 12 = c.ld8 12 ∧
      (c.fill 32 6 0).ld8 13 = c.ld8 13 := fun c => ⟨rfl, rfl⟩
  rw [Mbuf.etherType, hdata]
  simp [arpFrame, ByteMem.ld16, ByteMem.ld8_st8, ByteMem.ld8_st16, ByteMem.ld8_st32, hb, hfill,
    bswap16, rteEtherTypeArp]

theorem IsArpRequest.not_isRoceWrite {srcIp : Nat} {port : Port} {f : Mbuf}
    (h : IsArpRequest srcIp port f) : ¬ f.isRoceWrite := by
  rintro ⟨htype, -⟩
  rw [h.etherType] at htype
  exact absurd htype (by decide)

/-- Frames that agree from the type field on are WRITEs together. -/
theorem IsReaddressed.headers {m m' : Mbuf} (h : IsReaddressed m m') :
    m'.etherType = m.etherType ∧ (m'.isRoceWrite ↔ m.isRoceWrite) := by
  have hld : ∀ i, 12 ≤ i → m'.data.ld8 i = m.data.ld8 i := fun i hi => by
    rw [ByteMem.ld8, ByteMem.ld8, h.2.2 i hi]
  have htype : m'.etherType = m.etherType := by
    simp only [Mbuf.etherType, ByteMem.ld16, hld 12 (by decide), hld (12 + 1) (by decide)]
  refine ⟨htype, ?_⟩
  simp only [Mbuf.isRoceWrite, htype, Mbuf.ipProto, Mbuf.udpDstPort, Mbuf.bthOpcode, ByteMem.ld16,
    hld 23 (by decide), hld 36 (by decide), hld (36 + 1) (by decide), hld 42 (by decide)]

/-! ## The frames of one call -/

/-- A frame that `proc_process_lan_rx` passes to a port because of packet `m`. -/
inductive LanFrame (proc : ProcessorContext) (host : Host) (m : Mbuf) : Port → Mbuf → Prop
  | arp {f : Mbuf} (h : IsArpRequest host.wanTunnelSrcIp .wan f) : LanFrame proc host m .wan f
  | cnp {f : Mbuf} (h : IsCnp proc.congestionCtrl.cnpSrcIp .lan f) : LanFrame proc host m .lan f
  | ack {f : Mbuf} (hwrite : m.isRoceWrite) (h : IsForgedAck m .lan f) :
      LanFrame proc host m .lan f
  | passed {f : Mbuf} (htype : m.etherType = rteEtherTypeIpv4)
      (hwhy : wanGetPeerIp host (bswap32 m.ipDstAddr) = 0 ∨ ¬ m.isRoceWrite)
      (h : IsReaddressed m f) : LanFrame proc host m .wan f
  | forwarded {f : Mbuf} (hwrite : m.isRoceWrite)
      (hpeer : wanGetPeerIp host (bswap32 m.ipDstAddr) ≠ 0)
      (h : IsReaddressed (setSrcAddr host.wanTunnelSrcIp m) f) : LanFrame proc host m .wan f

theorem lan_frames (proc : ProcessorContext) (m : Mbuf) (host : Host) :
    ∃ ev, Adds host (procProcessLanRx proc m host).2 ev ∧
      ∀ port f accepted, .txBurst port f accepted ∈ ev → LanFrame proc host m port f := by
  by_cases htype : m.etherType = rteEtherTypeIpv4
  · cases lan_outcome proc m host with
    | freed _ _ hadds => exact ⟨_, hadds, by simp⟩
    | @passed evArp m' accepted' hwhy _ hown hm hadds =>
      refine ⟨_, hadds, fun port f accepted hf => ?_⟩
      rcases List.mem_append.mp hf with hf | hf
      · have harp := hown.of_mem hf
        obtain rfl := harp.1
        exact .arp harp
      · have hself : port = .wan ∧ f = m' := by
          cases accepted' <;> simp [txEvents] at hf <;> exact ⟨hf.1, hf.2.1⟩
        obtain ⟨rfl, rfl⟩ := hself
        exact .passed htype hwhy hm
    | @forwarded i qpMgr before after w inWindow accepted' hwrite hpeer _ hfwd =>
      refine ⟨_, hfwd.adds, fun port f accepted hf => ?_⟩
      rcases List.mem_append.mp hf with hf | hf
      · rcases List.mem_append.mp hf with hf | hf
        · rcases hfwd.own.of_mem hf with hcnp | hack | harp
          · obtain rfl := hcnp.1
            exact .cnp hcnp
          · obtain rfl := hack.1
            exact .ack hwrite hack
          · obtain rfl := harp.1
            exact .arp harp
        · have hself : port = .wan ∧ f = w := by
            unfold forwardEvents keepEvents txEvents at hf
            split at hf <;> cases accepted' <;> simp at hf <;> exact ⟨hf.1, hf.2.1⟩
          obtain ⟨rfl, rfl⟩ := hself
          exact .forwarded hwrite hpeer hfwd.readdressed
      · have hcnp := hfwd.cnps.of_mem hf
        obtain rfl := hcnp.1
        exact .cnp hcnp
  · refine ⟨[.free m], ?_, by simp⟩
    rw [procProcessLanRx, if_pos htype]
    exact free_adds host m

/-- A frame that `proc_process_wan_rx` passes to a port because of packet `m`: a
segment that the buffer held with `m` in it, or feedback. -/
inductive WanFrame (proc : ProcessorContext) (host : Host) (m : Mbuf) : Port → Mbuf → Prop
  | delivered {seg : Mbuf} (hwrite : m.isRoceWrite)
      (hseg : seg ∈ (jbGetOrderedSegs (addSegOf proc host m).2.1 m.bthGetQpn).2) :
      WanFrame proc host m .lan (setSrcAddr host.wanTunnelSrcIp seg)
  | feedback {f : Mbuf} {type : Nat} (hwrite : m.isRoceWrite)
      (hctrl : IsCtrlFor host m type .wan f) : WanFrame proc host m .wan f

theorem wan_frames {proc : ProcessorContext} (h : proc.arqMgr = arqMgrInit) (m : Mbuf)
    (host : Host) :
    ∃ ev, Adds host (procProcessWanRx proc m host).2 ev ∧
      ∀ port f accepted, .txBurst port f accepted ∈ ev → WanFrame proc host m port f := by
  cases wan_outcome proc m host with
  | freed _ _ hadds => exact ⟨_, hadds h, by simp⟩
  | wrote hwrite hout =>
    have hctrl : ∀ {ev' : List (Event Mbuf)} {type : Nat},
        OwnTraffic (IsCtrlFor host m type) ev' → ∀ port f accepted,
          .txBurst port f accepted ∈ ev' → WanFrame proc host m port f := by
      intro ev' type hown port f accepted hf
      obtain ⟨psn, hmsg⟩ := hown.of_mem hf
      obtain rfl := hmsg.1
      exact .feedback hwrite ⟨psn, hmsg⟩
    cases hout with
    | refused _ _ hadds => exact ⟨_, hadds, by simp⟩
    | @taken proc₁ host₁ evAdd evNack hrc hjb hown hadds hdel =>
      have hadd : ∀ port f accepted, .txBurst port f accepted ∈ evAdd ++ evNack →
          WanFrame proc host m port f := by
        intro port f accepted hf
        rcases List.mem_append.mp hf with hf | hf
        · rcases hrc with ⟨-, rfl⟩ | ⟨-, rfl⟩ <;> simp at hf
        · exact hctrl hown port f accepted hf
      cases hdel with
      | waits hsame _ =>
        rw [hsame]
        exact ⟨_, hadds, hadd⟩
      | @delivers out evHand evAck io _ hsegs _ _ hhands hown' hadds' _ =>
        rw [isCtrlFor_of_adds hadds] at hown'
        refine ⟨_, hadds.trans hadds', fun port f accepted hf => ?_⟩
        rcases List.mem_append.mp hf with hf | hf
        · exact hadd port f accepted hf
        rcases List.mem_append.mp hf with hf | hf
        · rcases List.mem_append.mp hf with hf | hf
          · obtain ⟨rfl, seg, hseg, rfl⟩ := hhands.of_mem hf
            rw [hadds.wanTunnelSrcIp]
            refine .delivered hwrite ?_
            rw [← hjb, hsegs]
            exact hseg
          · simp at hf
        · exact hctrl hown' port f accepted hf

end RdmaGateway.Processor
