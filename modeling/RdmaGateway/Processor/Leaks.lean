/-
  Processor/Leaks.lean --- what a frame of the gateway's own keeps of its buffer.

  `rte_pktmbuf_alloc` and `rte_pktmbuf_append` clear nothing, so a byte that a builder
  does not write goes out as the last user of the buffer left it.  `forge_and_send_ack`,
  `cnp_emit` and `send_arp_request` write every byte of their frames.
  `arq_build_ctrl_msg` does not: the source MAC address, the padding behind the type and
  the PSN list stay (`frames_leak_nothing_iff`).
-/
import RdmaGateway.Foundation.Overwrite
import RdmaGateway.Processor.Frames
import RdmaGateway.Wire.Icrc

set_option autoImplicit false

namespace RdmaGateway.Processor

open RdmaGateway.Foundation
open RdmaGateway.Dpdk
open RdmaGateway.Wire
open RdmaGateway.Roce
open RdmaGateway.Tunnel
open RdmaGateway.Arq
open RdmaGateway.Reassembly

/-! ## Footprints -/

theorem overwrites_stMac (off : Nat) (mac : EtherAddr) :
    Overwrites (fun k => off ≤ k ∧ k < off + 6) (fun b => stMac b off mac) :=
  (overwrites_stBytes mac.bytes off).congr fun k => by rw [mac.length_eq]

theorem overwrites_bthSetQpn (qpn : Nat) :
    Overwrites (fun k => 47 ≤ k ∧ k < 50) (fun b => bthSetQpn b qpn) :=
  (((overwrites_st8 47 (qpn / 65536)).comp (overwrites_st8 48 (qpn / 256))).comp
    (overwrites_st8 49 qpn)).congr fun k => by omega

theorem overwrites_bthSetPsn (psn : Nat) :
    Overwrites (fun k => 51 ≤ k ∧ k < 54) (fun b => bthSetPsn b psn) :=
  (((overwrites_st8 51 (psn / 65536)).comp (overwrites_st8 52 (psn / 256))).comp
    (overwrites_st8 53 psn)).congr fun k => by omega

/-- `build_ipv4_udp` writes both headers. -/
theorem overwrites_buildIpv4Udp (srcBe dstBe sportBe dportBe ipTotalLen udpLen : Nat) :
    Overwrites (fun k => 14 ≤ k ∧ k < 42)
      (fun b => buildIpv4Udp b srcBe dstBe sportBe dportBe ipTotalLen udpLen) :=
  ((((((((((((((overwrites_st8 14 0x45).comp (overwrites_st8 15 0)).comp
    (overwrites_st16 16 (bswap16 ipTotalLen))).comp (overwrites_st16 18 0)).comp
    (overwrites_st16 20 0)).comp (overwrites_st8 22 64)).comp (overwrites_st8 23 ipprotoUdp)).comp
    (overwrites_st32 26 srcBe)).comp (overwrites_st32 30 dstBe)).comp (overwrites_st16 24 0)).comp
    (overwrites_st16 34 sportBe)).comp (overwrites_st16 36 dportBe)).comp
    (overwrites_st16 38 (bswap16 udpLen))).comp (overwrites_st16 40 0)).congr fun k => by omega

/-- A forged acknowledgement: all 62 bytes. -/
theorem overwrites_ackFrame (orig : Mbuf) :
    Overwrites (fun k => k < 62) (fun b => ackFrame b orig) := by
  have hheaders : Overwrites (fun k => k < 58) (fun b => ackHeaders b orig) :=
    ((((((((((((((overwrites_stMac 0 orig.ethSrc).comp (overwrites_stMac 6 orig.ethDst)).comp
      (overwrites_st16 12 (orig.data.ld16 12))).comp (overwrites_buildIpv4Udp orig.ipDstAddr
        orig.ipSrcAddr (orig.data.ld16 36) orig.udpSrcPort 48 28)).comp
      (overwrites_st8 42 roceOpcodeAck)).comp (overwrites_st8 43 orig.bthFlags)).comp
      (overwrites_st16 44 orig.bthPkey)).comp (overwrites_st8 46 0)).comp
      (overwrites_st8 50 0)).comp (overwrites_bthSetQpn orig.bthGetQpn)).comp
      (overwrites_bthSetPsn orig.bthGetPsn)).comp (overwrites_st8 54 0)).comp
      (overwrites_st8 55 0)).comp (overwrites_st16 56 (bswap16 0xFFFF))).congr fun k => by omega
  simp only [ackFrame_eq]
  have hicrc : ∀ b b' : ByteMem, (∀ k, k < 58 → b k = b' k) →
      bswap32 (roceIcrc b 16).1 = bswap32 (roceIcrc b' 16).1 := by
    intro b b' hsame
    rw [roceIcrc_congr fun i _ hi _ => hsame i (by omega)]
  exact (hheaders.st32_of 58 hicrc).congr fun k => by omega

/-- A CNP with the addresses that `cnp_emit` fills in: all 74 bytes. -/
theorem overwrites_cnpFrame (srcIp dstIp qpn pkey : Nat) (notifyMac gwMac : EtherAddr) :
    Overwrites (fun k => k < 74)
      (fun b => stMac (stMac (cnpFrame b srcIp dstIp qpn pkey) 0 notifyMac) 6 gwMac) := by
  have hheaders : Overwrites (fun k => k < 74) (fun b => cnpHeaders b srcIp dstIp qpn pkey) :=
    ((((((overwrites_fill 0 74 0).comp (overwrites_st16 12 (bswap16 rteEtherTypeIpv4))).comp
      (overwrites_buildIpv4Udp srcIp dstIp (bswap16 4791) (bswap16 4791) 60 40)).comp
      (overwrites_st8 42 roceOpcodeCnp)).comp (overwrites_st16 44 pkey)).comp
      (overwrites_bthSetQpn (qpn &&& 0x00FFFFFF))).congr fun k => by omega
  simp only [cnpFrame_eq]
  have hicrc : ∀ b b' : ByteMem, (∀ k, k < 74 → b k = b' k) →
      bswap32 (roceIcrc b 28).1 = bswap32 (roceIcrc b' 28).1 := by
    intro b b' hsame
    rw [roceIcrc_congr fun i _ hi _ => hsame i (by omega)]
  exact (((hheaders.st32_of 70 hicrc).comp (overwrites_stMac 0 notifyMac)).comp
    (overwrites_stMac 6 gwMac)).congr fun k => by omega

/-- An ARP request: all 42 bytes. -/
theorem overwrites_arpFrame (srcMac : EtherAddr) (srcIp targetIp : Nat) :
    Overwrites (fun k => k < 42) (fun b => arpFrame b srcMac srcIp targetIp) :=
  ((((((((((((overwrites_fill 0 6 0xFF).comp (overwrites_stMac 6 srcMac)).comp
    (overwrites_st16 12 (bswap16 rteEtherTypeArp))).comp (overwrites_st16 14 (bswap16 1))).comp
    (overwrites_st16 16 (bswap16 rteEtherTypeIpv4))).comp (overwrites_st8 18 6)).comp
    (overwrites_st8 19 4)).comp (overwrites_st16 20 (bswap16 1))).comp
    (overwrites_stMac 22 srcMac)).comp (overwrites_st32 28 (bswap32 srcIp))).comp
    (overwrites_fill 32 6 0)).comp (overwrites_st32 38 (bswap32 targetIp))).congr fun k => by omega

/-- The bytes of a control message without a list that `arq_build_ctrl_msg` leaves: the
source MAC address, the padding of `arq_control_msg_t` and `psn_list`. -/
def CtrlGap (k : Nat) : Prop := 6 ≤ k ∧ k < 12 ∨ 47 ≤ k ∧ k < 50 ∨ 62 ≤ k

theorem overwrites_ctrlFrame (dstMac : EtherAddr) (srcIp dstIp qpn type psn : Nat) :
    Overwrites (fun k => ¬ CtrlGap k)
      (fun b => ctrlFrame b dstMac srcIp dstIp qpn type psn none 0) :=
  ((((((((overwrites_stMac 0 dstMac).comp (overwrites_st16 12 (bswap16 rteEtherTypeIpv4))).comp
    (overwrites_buildIpv4Udp srcIp dstIp (bswap16 arqCtrlPort) (bswap16 arqCtrlPort) 304 284)).comp
    (overwrites_st32 42 (bswap32 arqMagic))).comp (overwrites_st8 46 type)).comp
    (overwrites_st32 50 (bswap32 qpn))).comp (overwrites_st32 54 (bswap32 psn))).comp
    (overwrites_st32 58 (bswap32 0))).congr fun k => by
      unfold CtrlGap
      omega

/-! ## Buffers -/

/-- The buffer that the next allocation of `len` bytes ends with, if any. -/
def buffer (host : Host) (len : Nat) : Option Mbuf :=
  (host.io.oracle.allocs host.io.allocCount).filter fun b => len ≤ b.room

/-- The same host with other contents in the buffers of its pool: `c n` is what the
`n`-th allocation finds. -/
def refill (c : Nat → ByteMem) (host : Host) : Host :=
  { host with
    io :=
      { host.io with
        oracle :=
          { host.io.oracle with
            allocs := fun n => (host.io.oracle.allocs n).map fun m => m.withData (c n) } } }

theorem buffer_refill (c : Nat → ByteMem) (host : Host) (len : Nat) :
    buffer (refill c host) len =
      (buffer host len).map fun m => m.withData (c host.io.allocCount) := by
  have hallocs : (refill c host).io.oracle.allocs (refill c host).io.allocCount =
      (host.io.oracle.allocs host.io.allocCount).map
        fun m => m.withData (c host.io.allocCount) := rfl
  rw [buffer, buffer, hallocs, Option.filter_map]
  rfl

theorem accepts_refill (c : Nat → ByteMem) (host : Host) (port : Port) :
    Host.accepts (refill c host) port = Host.accepts host port := rfl

/-- The frames that the ports took. -/
def transmitted (trace : List (Event Mbuf)) : List (Port × List UInt8) :=
  trace.filterMap fun
    | .txBurst port m true => some (port, m.data.ldBytes 0 m.dataLen)
    | _ => none

theorem allocAppend_of_buffer {host : Host} {len : Nat} {b : Mbuf} (h : buffer host len = some b) :
    host.allocAppend len =
      (some { b with dataLen := len }, { host with io := (rtePktmbufAlloc host.io).2 }) := by
  obtain ⟨hb, hroom⟩ := Option.filter_eq_some_iff.mp h
  exact allocAppend_of_room hb (of_decide_eq_true hroom)

/-- Without a buffer nothing is built, and nothing sent. -/
theorem allocAppend_of_no_buffer {host : Host} {len : Nat} (h : buffer host len = none) :
    ∃ host' ev, host.allocAppend len = (none, host') ∧ Adds host host' ev ∧
      transmitted ev = [] := by
  cases hb : host.io.oracle.allocs host.io.allocCount with
  | none =>
    have halloc : host.allocAppend len =
        (none, { host with io := (rtePktmbufAlloc host.io).2 }) := by
      simp [Host.allocAppend, pktmbufAlloc, rtePktmbufAlloc, hb]
    refine ⟨_, [], halloc, adds_withIo ?_ (rtePktmbufAlloc_oracle host.io), rfl⟩
    simp [rtePktmbufAlloc, hb]
  | some b =>
    have hroom : ¬ len ≤ b.room := by simpa [buffer, hb] using h
    have halloc : host.allocAppend len = (none, Host.free
        { host with io := (rtePktmbufAlloc host.io).2 } { b with dataLen := 0 }) := by
      simp [Host.allocAppend, pktmbufAlloc, rtePktmbufAlloc, hb, rtePktmbufAppend, hroom]
    exact ⟨_, [.alloc b] ++ [.free { b with dataLen := 0 }], halloc,
      (rtePktmbufAlloc_adds hb).trans (free_adds _ _), rfl⟩

/-! ## Builders -/

/-- A frame in the making: its port, its length, and what is written over the buffer. -/
structure Draft where
  port : Port
  len : Nat
  fill : ByteMem → ByteMem

/-- Allocate, fill and send. -/
def Draft.run (d : Draft) (host : Host) : Host :=
  match host.allocAppend d.len with
  | (none, host) => host
  | (some m, host) => (host.txOrFree d.port (m.withData (d.fill m.data))).2

/-- The frame that leaves. -/
def Draft.sends (d : Draft) (host : Host) : List (Port × List UInt8) :=
  if Host.accepts host d.port then
    (buffer host d.len).toList.map fun b => (d.port, (d.fill b.data).ldBytes 0 d.len)
  else []

theorem Draft.run_adds (d : Draft) (host : Host) :
    ∃ ev, Adds host (d.run host) ev ∧ transmitted ev = d.sends host := by
  unfold Draft.run Draft.sends
  cases hb : buffer host d.len with
  | none =>
    obtain ⟨host', ev, halloc, hadds, hnone⟩ := allocAppend_of_no_buffer hb
    rw [halloc]
    exact ⟨ev, hadds, by simp [hnone]⟩
  | some b =>
    rw [allocAppend_of_buffer hb]
    obtain ⟨hb', -⟩ := Option.filter_eq_some_iff.mp hb
    have hcount : (rtePktmbufAlloc host.io).2.txCount = host.io.txCount := by
      simp [rtePktmbufAlloc, hb', Io.record]
    have haccepts : Host.accepts { host with io := (rtePktmbufAlloc host.io).2 } d.port =
        Host.accepts host d.port := by
      rw [Host.accepts, Host.accepts, rtePktmbufAlloc_oracle, hcount]
    refine ⟨_, (rtePktmbufAlloc_adds hb').trans (txOrFree_adds _ d.port _), ?_⟩
    rw [haccepts]
    cases Host.accepts host d.port with
    | true => rfl
    | false => rfl

/-- The calls that build a frame in a buffer of their own and send it. -/
inductive Builder where
  | forgeAndSendAck (orig : Mbuf)
  | cnpEmit (proc : ProcessorContext) (i : Fin maxQpCtx) (now : Nat)
  | wanSendCtrl (proc : ProcessorContext) (qpn type psn : Nat) (m : Mbuf) (counter : StatCounter)
  | sendArpRequest (targetIp : Nat) (port : Port)

/-- The call. -/
def Builder.run : Builder → Host → Host
  | .forgeAndSendAck orig, host => (Processor.forgeAndSendAck host orig).2
  | .cnpEmit proc i now, host => (Processor.cnpEmit proc i now host).2
  | .wanSendCtrl proc qpn type psn m counter, host =>
    (Processor.wanSendCtrl proc qpn type psn m counter host).2
  | .sendArpRequest targetIp port, host => (Tunnel.sendArpRequest host targetIp port).2

/-- The frames it transmits. -/
def Builder.sends (B : Builder) (host : Host) : List (Port × List UInt8) :=
  transmitted ((B.run host).io.trace.drop host.io.trace.length)

/-- The frame it makes, unless it is a CNP that is not due. -/
def Builder.draft : Builder → Host → Option Draft
  | .forgeAndSendAck orig, _ => some ⟨.lan, 62, fun b => ackFrame b orig⟩
  | .cnpEmit proc i now, _ =>
    let qp := proc.qpMgr.qps i
    if qp.notifyIp = 0 then none
    else if !ccCnpDue proc.congestionCtrl qp.lastCnpTsc now then none
    else some ⟨.lan, 74, fun b =>
      stMac (stMac (cnpFrame b proc.congestionCtrl.cnpSrcIp qp.notifyIp qp.qpn qp.pkey)
        0 qp.notifyMac) 6 qp.gwMac⟩
  | .wanSendCtrl _ qpn type psn m _, host =>
    let peerIp := wanGetPeerIp host (bswap32 m.ipDstAddr)
    some ⟨.wan, 318, fun b =>
      ctrlFrame b ((arpCacheLookup host peerIp).getD (.fill 0xFF)) host.wanTunnelSrcIp peerIp
        qpn type psn none 0⟩
  | .sendArpRequest targetIp port, host =>
    some ⟨port, 42, fun b => arpFrame b (host.macaddr port) host.wanTunnelSrcIp targetIp⟩

/-- What an allocation returns is as long as it was asked to be, and the allocation
reconfigures nothing. -/
theorem allocAppend_obtains {host host' : Host} {len : Nat} {m : Mbuf}
    (h : host.allocAppend len = (some m, host')) :
    m.dataLen = len ∧ host'.wanTunnelSrcIp = host.wanTunnelSrcIp ∧
      host'.arpCache = host.arpCache ∧ host'.macaddr = host.macaddr := by
  cases hb : buffer host len with
  | none =>
    obtain ⟨_, _, halloc, -⟩ := allocAppend_of_no_buffer hb
    rw [h] at halloc
    cases halloc
  | some b =>
    rw [allocAppend_of_buffer hb] at h
    obtain ⟨rfl, rfl⟩ := Prod.mk.inj h |>.imp_left Option.some.inj
    exact ⟨rfl, rfl, rfl, rfl⟩

/-- A builder makes its frame and nothing else. -/
theorem Builder.run_eq (B : Builder) (host : Host) :
    B.run host = (B.draft host).elim host fun d => d.run host := by
  cases B with
  | forgeAndSendAck orig =>
    simp only [Builder.run, Builder.draft, Option.elim, Draft.run, Processor.forgeAndSendAck]
    cases host.allocAppend 62 with | mk m host' => cases m <;> rfl
  | cnpEmit proc i now =>
    simp only [Builder.run, Builder.draft, Processor.cnpEmit]
    by_cases hip : (proc.qpMgr.qps i).notifyIp = 0
    · rw [if_pos hip, if_pos hip]
      rfl
    · rw [if_neg hip, if_neg hip]
      by_cases hdue : (!ccCnpDue proc.congestionCtrl (proc.qpMgr.qps i).lastCnpTsc now) = true
      · rw [if_pos hdue, if_pos hdue]
        rfl
      · rw [if_neg hdue, if_neg hdue]
        simp only [ccBuildCnp, Option.elim, Draft.run]
        cases halloc : host.allocAppend 74 with
        | mk m host' =>
          cases m with
          | none => rfl
          | some m =>
            have hlen := (allocAppend_obtains halloc).1
            dsimp only
            rw [apply_ite Prod.snd, ite_self, Mbuf.withData, Mbuf.withData, hlen]
  | wanSendCtrl proc qpn type psn m counter =>
    simp only [Builder.run, Builder.draft, Option.elim, Draft.run, Processor.wanSendCtrl,
      arqBuildCtrlMsg]
    cases halloc : host.allocAppend 318 with
    | mk b host' =>
      cases b with
      | none => rfl
      | some b =>
        obtain ⟨hlen, hsrc, harp, -⟩ := allocAppend_obtains halloc
        dsimp only
        rw [Mbuf.withData, hlen, hsrc, arpCacheLookup, arpCacheLookup, harp]
  | sendArpRequest targetIp port =>
    simp only [Builder.run, Builder.draft, Option.elim, Draft.run, Tunnel.sendArpRequest]
    cases halloc : host.allocAppend 42 with
    | mk b host' =>
      cases b with
      | none => rfl
      | some b =>
        obtain ⟨-, hsrc, -, hmac⟩ := allocAppend_obtains halloc
        dsimp only
        rw [hsrc, hmac]

theorem Builder.sends_eq (B : Builder) (host : Host) :
    B.sends host = (B.draft host).elim [] fun d => d.sends host := by
  rw [Builder.sends, Builder.run_eq]
  cases B.draft host with
  | none => simp [transmitted]
  | some d =>
    obtain ⟨ev, hadds, hsends⟩ := d.run_adds host
    rw [Option.elim_some, Option.elim_some, hadds.trace, List.drop_left, hsends]

theorem Builder.draft_refill (B : Builder) (c : Nat → ByteMem) (host : Host) :
    B.draft (refill c host) = B.draft host := by
  cases B <;> rfl

/-! ## Two runs -/

/-- Two runs send the same frame exactly when the bytes of it that are not written were
the same before. -/
theorem Draft.sends_refill_iff {d : Draft} {W : Nat → Prop} (hW : Overwrites W d.fill)
    (host : Host) (c c' : Nat → ByteMem) :
    d.sends (refill c host) = d.sends (refill c' host) ↔
      ((buffer host d.len).isSome → Host.accepts host d.port = true →
        ∀ k, k < d.len → ¬ W k → c host.io.allocCount k = c' host.io.allocCount k) := by
  simp only [Draft.sends, accepts_refill, buffer_refill]
  cases Host.accepts host d.port with
  | false => simp
  | true =>
    cases buffer host d.len with
    | none => simp
    | some b =>
      have hbytes : ∀ x x' : ByteMem, x.ldBytes 0 d.len = x'.ldBytes 0 d.len ↔
          ∀ k, k < d.len → x k = x' k := by
        intro x x'
        simp [ByteMem.ldBytes]
      simp only [if_true, Option.map_some, Option.toList_some, List.map_cons, List.map_nil,
        List.cons.injEq, Prod.mk.injEq, true_and, and_true, Mbuf.withData_data, hbytes,
        Option.isSome_some, forall_const]
      exact forall₂_congr fun k _ => hW.eq_iff _ _ k

/-- The bytes of its frame that a builder leaves as they were. -/
def Builder.Leaves : Builder → Nat → Prop
  | .wanSendCtrl .., k => k < 318 ∧ CtrlGap k
  | _, _ => False

/-- A builder and a frame all of whose bytes it writes. -/
theorem sends_eq_of_overwrites {B : Builder} {d : Draft} {host : Host}
    (hdraft : B.draft host = some d)
    (hW : Overwrites (fun k => k < d.len) d.fill) (c c' : Nat → ByteMem) :
    B.sends (refill c host) = B.sends (refill c' host) := by
  rw [B.sends_eq, B.sends_eq, B.draft_refill, B.draft_refill, hdraft]
  exact (Draft.sends_refill_iff hW host c c').mpr fun _ _ k hk hnot => absurd hk hnot

/-- A control message leaves the bytes of `CtrlGap`. -/
theorem wanSendCtrl_sends_iff (proc : ProcessorContext) (qpn type psn : Nat) (m : Mbuf)
    (counter : StatCounter) (host : Host) (c c' : Nat → ByteMem) :
    (Builder.wanSendCtrl proc qpn type psn m counter).sends (refill c host) =
        (Builder.wanSendCtrl proc qpn type psn m counter).sends (refill c' host) ↔
      ((buffer host 318).isSome → Host.accepts host .wan = true →
        ∀ k, k < 318 → CtrlGap k → c host.io.allocCount k = c' host.io.allocCount k) := by
  rw [Builder.sends_eq, Builder.sends_eq, Builder.draft_refill, Builder.draft_refill]
  refine (Draft.sends_refill_iff (overwrites_ctrlFrame _ _ _ _ _ _) host c c').trans ?_
  simp only [not_not]

/-- Two runs of a builder over recycled buffers with different contents transmit the
same bytes, but for a control message: it goes out with what its buffer held in the
source MAC address, the padding and the list. -/
theorem frames_leak_nothing_iff (B : Builder) (host : Host) (c c' : Nat → ByteMem) :
    B.sends (refill c host) = B.sends (refill c' host) ↔
      ((buffer host 318).isSome → Host.accepts host .wan = true →
        ∀ k, B.Leaves k → c host.io.allocCount k = c' host.io.allocCount k) := by
  cases B with
  | forgeAndSendAck orig =>
    exact iff_of_true (sends_eq_of_overwrites rfl (overwrites_ackFrame orig) c c')
      fun _ _ _ hk => hk.elim
  | cnpEmit proc i now =>
    refine iff_of_true ?_ fun _ _ _ hk => hk.elim
    cases hdraft : (Builder.cnpEmit proc i now).draft host with
    | none =>
      rw [Builder.sends_eq, Builder.sends_eq, Builder.draft_refill, Builder.draft_refill, hdraft]
      rfl
    | some d =>
      have hd : Overwrites (fun k => k < d.len) d.fill := by
        dsimp only [Builder.draft] at hdraft
        split at hdraft
        · cases hdraft
        · split at hdraft
          · cases hdraft
          · obtain rfl := Option.some.inj hdraft
            exact overwrites_cnpFrame _ _ _ _ _ _
      exact sends_eq_of_overwrites hdraft hd c c'
  | wanSendCtrl proc qpn type psn m counter =>
    refine (wanSendCtrl_sends_iff proc qpn type psn m counter host c c').trans ?_
    simp only [Builder.Leaves, and_imp]
  | sendArpRequest targetIp port =>
    exact iff_of_true (sends_eq_of_overwrites rfl (overwrites_arpFrame _ _ _) c c')
      fun _ _ _ hk => hk.elim

/-- The acknowledgement of a WRITE, sent from a cleared buffer and from one full of
`0xAA`: the source MAC address tells them apart. -/
theorem ctrl_leaks :
    ¬ ∀ (B : Builder) (host : Host) (c c' : Nat → ByteMem),
      B.sends (refill c host) = B.sends (refill c' host) := by
  intro h
  have hsame := (wanSendCtrl_sends_iff (procInit Host.unloaded 0 false) 7 arqMsgAck 1
    (writeFrame 0 roceOpcodeWriteOnly 7 1) .arqAckSent Host.unloaded (fun _ _ => 0)
    fun _ _ => 0xAA).mp (h _ _ _ _)
  have hbyte : (0 : UInt8) = 0xAA :=
    hsame (by decide) (by decide) 6 (by decide) (Or.inl (by decide))
  exact absurd hbyte (by decide)

end RdmaGateway.Processor
