/-
  Gateway/SourceAddress.lean --- the gateway's own address on the wire.

  `-s` gives the gateway its address; `wan_tunnel_src_ip` keeps it in network order.
  Five emitters write it.  `arq_build_ctrl_msg` and `cc_build_cnp` store the word as
  it is.  `wan_fwd_roce`, `wan_prepare_for_lan` and `send_arp_request` apply
  `rte_cpu_to_be_32` to it once more, and the four octets come out backwards
  (`own_frame_bytes`).  The emitters agree exactly on the addresses that read the
  same in both directions.
-/
import RdmaGateway.Gateway.Replies
import RdmaGateway.Processor.Frames
import RdmaGateway.Wire.Ipv4

set_option autoImplicit false

namespace RdmaGateway.Gateway

open RdmaGateway.Foundation
open RdmaGateway.Dpdk
open RdmaGateway.Wire
open RdmaGateway.Tunnel
open RdmaGateway.Arq
open RdmaGateway.Processor

/-! ## Frames that carry the address -/

/-- The functions that write the address. -/
inductive Emitter where
  | wanFwdRoce
  | wanPrepareForLan
  | arqBuildCtrlMsg
  | ccBuildCnp
  | sendArpRequest
  deriving DecidableEq

/-- Where the field is: the IPv4 source, or the sender of an ARP request. -/
def Emitter.offset : Emitter → Nat
  | .sendArpRequest => 28
  | _ => 26

/-- The emitter swaps the configured word before it stores it. -/
def Emitter.swaps : Emitter → Bool
  | .wanFwdRoce => true
  | .wanPrepareForLan => true
  | .arqBuildCtrlMsg => false
  | .ccBuildCnp => false
  | .sendArpRequest => true

variable {L W : Nat}

/-- Which emitter wrote the address into a frame that a call passes to a port.  What
a LAN core sends to the WAN is an ARP request, a WRITE for a known peer, or a packet
passed on; what it sends to the LAN is a CNP or a forged acknowledgement, and the
latter has the address of the host that was written to.  What a WAN core sends to the
LAN is delivered data, what it sends to the WAN is feedback. -/
def WrittenBy (g : Cores L W) (port : Port) (f : Mbuf) : Emitter → CoreCall L W → Prop
  | .wanFwdRoce, .lanRx _ m =>
    port = .wan ∧ f.isRoceWrite ∧ wanGetPeerIp g.host (bswap32 m.ipDstAddr) ≠ 0
  | .sendArpRequest, .lanRx _ _ => port = .wan ∧ f.etherType = rteEtherTypeArp
  | .ccBuildCnp, .lanRx _ _ => port = .lan ∧ f.bthOpcode = roceOpcodeCnp
  | .wanPrepareForLan, .wanRx _ _ => port = .lan
  | .arqBuildCtrlMsg, .wanRx _ _ => port = .wan
  | _, _ => False

/-- In every run of a gateway started with the address, a frame into which `e` wrote
it carries the four bytes `bytes e` in its address field. -/
def AddressOnWire (addr : Ipv4) (bytes : Emitter → List UInt8) : Prop :=
  ∀ (L W : Nat) (host : Host) (calls : List (CoreCall L W)) (c : CoreCall L W) (port : Port)
    (f : Mbuf) (accepted : Bool) (e : Emitter),
    host.wanTunnelSrcIp = inetAddr addr →
    .txBurst port f accepted ∈ (run Cores.step (Cores.init L W host) calls).events c →
    WrittenBy (run Cores.step (Cores.init L W host) calls) port f e c →
    f.data.ldBytes e.offset 4 = bytes e

/-! ## What each emitter writes -/

/-- The address in a frame, by the emitter that wrote it. -/
def Emitter.bytes (e : Emitter) (addr : Ipv4) : List UInt8 :=
  if e.swaps then addr.bytes.reverse else addr.bytes

/-- The gateway is configured with the address, and so are the CNPs of its LAN
cores. -/
structure Configured (addr : Ipv4) (g : Cores L W) : Prop where
  srcIp : g.host.wanTunnelSrcIp = inetAddr addr
  cnpSrcIp : ∀ i : Fin L, (g.procs (lanIndex i)).congestionCtrl.cnpSrcIp = inetAddr addr
  windows : WanWindowsEmpty g

section Configured

variable {addr : Ipv4} {g : Cores L W}

theorem ldBytes_of_swapped {f : Mbuf} {srcIp off : Nat} (hsrc : srcIp = inetAddr addr)
    (h : f.data.ld32 off = bswap32 srcIp) : f.data.ldBytes off 4 = addr.bytes.reverse := by
  rw [hsrc] at h
  exact ldBytes_bswap32_inetAddr h

theorem ldBytes_of_stored {f : Mbuf} {srcIp off : Nat} (hsrc : srcIp = inetAddr addr)
    (h : f.data.ld32 off = srcIp % 4294967296) : f.data.ldBytes off 4 = addr.bytes := by
  rw [hsrc, Nat.mod_eq_of_lt (inetAddr_lt addr)] at h
  exact ldBytes_inetAddr h

theorem IsCnp.ldBytes {srcIp : Nat} {port : Port} {f : Mbuf} (h : IsCnp srcIp port f)
    (hsrc : srcIp = inetAddr addr) : f.data.ldBytes 26 4 = addr.bytes := by
  obtain ⟨-, -, b, dstIp, qpn, pkey, dstMac, srcMac, hdata⟩ := h
  refine ldBytes_of_stored hsrc ?_
  rw [hdata, stMac_ld32 _ _ (by decide), stMac_ld32 _ _ (by decide), cnpFrame_src]

theorem IsArpRequest.ldBytes {srcIp : Nat} {port : Port} {f : Mbuf} (h : IsArpRequest srcIp port f)
    (hsrc : srcIp = inetAddr addr) : f.data.ldBytes 28 4 = addr.bytes.reverse := by
  obtain ⟨-, b, srcMac, targetIp, hdata⟩ := h
  refine ldBytes_of_swapped hsrc ?_
  rw [hdata, arpFrame_sender]

theorem ldBytes_setSrcAddr {srcIp : Nat} (m : Mbuf) (hsrc : srcIp = inetAddr addr) :
    (setSrcAddr srcIp m).data.ldBytes 26 4 = addr.bytes.reverse :=
  ldBytes_of_swapped hsrc (setSrcAddr_ipSrcAddr srcIp m)

/-- The frames of a LAN core, kind by kind: each kind has one emitter, and the port
and the headers rule out the others. -/
theorem Configured.lanFrame_bytes (h : Configured addr g) {i : Fin L} {m : Mbuf} {port : Port}
    {f : Mbuf} {e : Emitter} (hframe : LanFrame (g.procs (lanIndex i)) g.host m port f)
    (hby : WrittenBy g port f e (.lanRx i m)) : f.data.ldBytes e.offset 4 = e.bytes addr := by
  cases hframe with
  | arp harp =>
    cases e with
    | sendArpRequest => exact IsArpRequest.ldBytes harp h.srcIp
    | wanFwdRoce => exact absurd hby.2.1 harp.not_isRoceWrite
    | ccBuildCnp => cases hby.1
    | _ => exact hby.elim
  | cnp hcnp =>
    cases e with
    | ccBuildCnp => exact IsCnp.ldBytes hcnp (h.cnpSrcIp i)
    | sendArpRequest => cases hby.1
    | wanFwdRoce => cases hby.1
    | _ => exact hby.elim
  | ack _ hack =>
    cases e with
    | ccBuildCnp =>
      obtain ⟨-, -, b, hdata⟩ := hack
      have hop := hby.2
      rw [(ackFrame_bth f hdata).1] at hop
      exact absurd hop (by decide)
    | sendArpRequest => cases hby.1
    | wanFwdRoce => cases hby.1
    | _ => exact hby.elim
  | passed htype hwhy hm =>
    cases e with
    | wanFwdRoce =>
      rcases hwhy with hpeer | hno
      · exact absurd hpeer hby.2.2
      · exact absurd (hm.headers.2.mp hby.2.1) hno
    | sendArpRequest =>
      have harp := hby.2
      rw [hm.headers.1, htype] at harp
      exact absurd harp (by decide)
    | ccBuildCnp => cases hby.1
    | _ => exact hby.elim
  | forwarded hwrite _ hm =>
    cases e with
    | wanFwdRoce =>
      refine Eq.trans ?_ (ldBytes_setSrcAddr m h.srcIp)
      exact List.map_congr_left fun k _ => hm.2.2 (26 + k) (by omega)
    | sendArpRequest =>
      have harp := hby.2
      rw [hm.headers.1, (setSrcAddr_headers _ _).1, hwrite.1] at harp
      exact absurd harp (by decide)
    | ccBuildCnp => cases hby.1
    | _ => exact hby.elim

/-- The frames of a WAN core. -/
theorem Configured.wanFrame_bytes (h : Configured addr g) {j : Fin W} {m : Mbuf} {port : Port}
    {f : Mbuf} {e : Emitter} (hframe : WanFrame (g.procs (wanIndex j)) g.host m port f)
    (hby : WrittenBy g port f e (.wanRx j m)) : f.data.ldBytes e.offset 4 = e.bytes addr := by
  cases hframe with
  | @delivered seg _ _ =>
    cases e with
    | wanPrepareForLan => exact ldBytes_setSrcAddr seg h.srcIp
    | arqBuildCtrlMsg => cases hby
    | _ => exact hby.elim
  | feedback _ hctrl =>
    obtain ⟨psn, hmsg⟩ := hctrl
    cases e with
    | arqBuildCtrlMsg => exact ldBytes_of_stored h.srcIp hmsg.addrs.1
    | wanPrepareForLan => cases hby
    | _ => exact hby.elim

/-- The step: every frame of a call carries what its emitter writes. -/
theorem Configured.frame_bytes (h : Configured addr g) {c : CoreCall L W} {port : Port} {f : Mbuf}
    {accepted : Bool} {e : Emitter} (hf : .txBurst port f accepted ∈ g.events c)
    (hby : WrittenBy g port f e c) : f.data.ldBytes e.offset 4 = e.bytes addr := by
  cases c with
  | lanRx i m =>
    obtain ⟨ev, hadds, hframes⟩ := lan_frames (g.procs (lanIndex i)) m g.host
    rw [Cores.events_of_adds hadds] at hf
    exact h.lanFrame_bytes (hframes _ _ _ hf) hby
  | wanRx j m =>
    obtain ⟨ev, hadds, hframes⟩ := wan_frames (h.windows j) m g.host
    rw [Cores.events_of_adds hadds] at hf
    exact h.wanFrame_bytes (hframes _ _ _ hf) hby
  | timer j => cases e <;> exact hby.elim

theorem Configured.step (h : Configured addr g) (c : CoreCall L W) :
    Configured addr (g.step c) := by
  have hwan : ∀ (j : Fin W) (r : ProcessorContext × Host), r.1.arqMgr = arqMgrInit →
      r.2.wanTunnelSrcIp = g.host.wanTunnelSrcIp → Configured addr (g.update (wanIndex j) r) := by
    intro j r harq hsrc
    refine ⟨hsrc.trans h.srcIp, fun i => ?_, h.windows.update j harq⟩
    rw [Cores.update]
    simpa [lanIndex_ne_wanIndex i j] using h.cnpSrcIp i
  cases c with
  | lanRx i m =>
    obtain ⟨ev, hadds, -⟩ := lan_frames (g.procs (lanIndex i)) m g.host
    refine ⟨hadds.wanTunnelSrcIp.trans h.srcIp, fun i' => ?_, h.windows.step (.lanRx i m)⟩
    have hkeep : (procProcessLanRx (g.procs (lanIndex i)) m g.host).1.congestionCtrl.cnpSrcIp =
        (g.procs (lanIndex i)).congestionCtrl.cnpSrcIp := by
      cases lan_outcome (g.procs (lanIndex i)) m g.host with
      | freed _ hkeep _ => exact hkeep.cnpSrcIp
      | passed _ hkeep _ _ _ => exact hkeep.cnpSrcIp
      | forwarded _ _ _ hfwd => exact hfwd.keeps.cnpSrcIp
    by_cases hi : (lanIndex i' : Fin (L + W)) = lanIndex i
    · rw [Cores.step, Cores.update, hi]
      simpa using hkeep.trans (h.cnpSrcIp i)
    · simpa [Cores.step, Cores.update, hi] using h.cnpSrcIp i'
  | wanRx j m =>
    obtain ⟨ev, hadds, -⟩ := wan_frames (h.windows j) m g.host
    exact hwan j _ (procProcessWanRx_arqMgr_init (h.windows j) m g.host) hadds.wanTunnelSrcIp
  | timer j =>
    exact hwan j _ (procTimerCallback_arqMgr_init (h.windows j) g.host)
      (procTimerCallback_keeps (h.windows j) g.host).2

theorem Configured.run (h : Configured addr g) (calls : List (CoreCall L W)) :
    Configured addr (Foundation.run Cores.step g calls) := by
  induction calls generalizing g with
  | nil => exact h
  | cons c calls ih => exact ih (h.step c)

end Configured

/-- Control messages and CNPs carry the configured address, the other three emitters
write it backwards. -/
theorem emitters_write (addr : Ipv4) : AddressOnWire addr fun e => e.bytes addr := by
  intro L W host calls c port f accepted e hsrc hf hby
  have hinit : Configured addr (Cores.init L W host) := ⟨hsrc, fun _ => hsrc, fun _ => rfl⟩
  exact (hinit.run calls).frame_bytes hf hby

/-- A QP table that is not used yet has a slot. -/
theorem qpGetOrCreate_init (qpn : Nat) : (qpGetOrCreate qpMgrInit qpn).1 = some 0 := by
  have hused : qpMgrInit.qps.findSlot (fun qp => qp.active && qp.qpn == qpn) = none :=
    Table.findSlot_eq_none.mpr fun _ => rfl
  have hfree : qpMgrInit.qps.findSlot (fun qp => !qp.active) = some 0 := Table.findSlot_zero rfl
  rw [qpGetOrCreate, hused, hfree]

/-- A gateway with a default peer forwards any WRITE. -/
theorem exists_forwarded (srcIp : Nat) {m : Mbuf} (hwrite : m.isRoceWrite) :
    ∃ (host : Host) (f : Mbuf) (accepted : Bool), host.wanTunnelSrcIp = srcIp ∧
      wanGetPeerIp host (bswap32 m.ipDstAddr) ≠ 0 ∧
      .txBurst .wan f accepted ∈ (Cores.init 1 0 host).events (.lanRx 0 m) ∧
      IsReaddressed (setSrcAddr srcIp m) f := by
  let host : Host := { Host.unloaded with
    wanTunnelSrcIp := srcIp }
  have hpeer : wanGetPeerIp host (bswap32 m.ipDstAddr) ≠ 0 :=
    (by decide : (0x0200000A : Nat) ≠ 0)
  cases lan_outcome ((Cores.init 1 0 host).procs (lanIndex 0)) m host with
  | freed hwhy _ _ =>
    rcases hwhy with htype | hnone
    · exact absurd hwrite.1 htype
    · rw [show ((Cores.init 1 0 host).procs (lanIndex 0)).qpMgr = qpMgrInit from rfl,
        qpGetOrCreate_init] at hnone
      cases hnone
  | passed hwhy _ _ _ _ =>
    rcases hwhy with hzero | hno
    · exact absurd hzero hpeer
    · exact absurd hwrite hno
  | @forwarded i qpMgr before after w inWindow accepted _ _ _ hfwd =>
    refine ⟨host, w, accepted, rfl, hpeer, ?_, hfwd.readdressed⟩
    rw [Cores.events_of_adds (c := .lanRx 0 m) hfwd.adds]
    refine List.mem_append_left _ (List.mem_append_right _ ?_)
    unfold forwardEvents keepEvents txEvents
    split <;> simp

/-- The five emitters put the configured address on the wire exactly when it reads the
same in both directions. -/
theorem one_address_iff_palindrome (addr : Ipv4) :
    (AddressOnWire addr fun _ => addr.bytes) ↔ addr.Palindrome := by
  rw [← Ipv4.bytes_reverse_eq_iff]
  constructor
  · intro hall
    have hwrite : (writeFrame 1 roceOpcodeWriteOnly 7 0).isRoceWrite := by decide +kernel
    obtain ⟨host, f, accepted, hsrc, hpeer, hf, hm⟩ := exists_forwarded (inetAddr addr) hwrite
    have hby : WrittenBy (Cores.init 1 0 host) .wan f .wanFwdRoce
        (.lanRx 0 (writeFrame 1 roceOpcodeWriteOnly 7 0)) :=
      ⟨rfl, hm.headers.2.mpr ((setSrcAddr_headers _ _).2.mpr hwrite), hpeer⟩
    have hbytes := emitters_write addr 1 0 host [] _ .wan f accepted _ hsrc hf hby
    exact hbytes.symm.trans (hall 1 0 host [] _ .wan f accepted _ hsrc hf hby)
  · intro hpal L W host calls c port f accepted e hsrc hf hby
    have hbytes := emitters_write addr L W host calls c port f accepted e hsrc hf hby
    have hsame : e.bytes addr = addr.bytes := by rw [Emitter.bytes, hpal, ite_self]
    exact hbytes.trans hsame

/-- A gateway started with 10.0.0.1 forwards a WRITE from 1.0.0.10, and answers one from
10.0.0.1. -/
theorem two_addresses_on_wire :
    Host.unloaded.wanTunnelSrcIp = inetAddr ⟨10, 0, 0, 1⟩ ∧
      ((Cores.init 1 1 .unloaded).sends (.lanRx 0 writePacket)).map
        (fun f => f.data.ldBytes 26 4) = [[1, 0, 0, 10]] ∧
      ((Cores.init 1 1 .unloaded).sends (.wanRx 0 writePacket)).map
        (fun f => f.data.ldBytes 26 4) = [[10, 0, 0, 1], [10, 0, 0, 1]] ∧
      ¬ AddressOnWire ⟨10, 0, 0, 1⟩ fun _ => [10, 0, 0, 1] := by
  have hsent : ((Cores.init 1 1 .unloaded).sends (.lanRx 0 writePacket)).map
      (fun f => f.data.ldBytes 26 4) = [[1, 0, 0, 10]] := by
    decide +kernel
  refine ⟨rfl, hsent, by decide +kernel, fun hall => ?_⟩
  obtain ⟨f, hf, hbytes⟩ := List.map_eq_singleton_iff.mp hsent
  have hwrite : ∀ f ∈ (Cores.init 1 1 .unloaded).sends (.lanRx 0 writePacket), f.isRoceWrite := by
    decide +kernel
  rw [hf] at hwrite
  have hmem : f ∈ (Cores.init 1 1 .unloaded).sends (.lanRx 0 writePacket) := by
    rw [hf]
    exact List.mem_singleton_self f
  obtain ⟨accepted, hev⟩ := mem_wanFrames.mp hmem
  have hclaim := hall 1 1 .unloaded [] (.lanRx 0 writePacket) .wan f accepted .wanFwdRoce rfl hev
    ⟨rfl, hwrite f (List.mem_singleton_self f), by decide +kernel⟩
  rw [show Emitter.wanFwdRoce.offset = 26 from rfl, hbytes] at hclaim
  exact absurd hclaim (by decide)

end RdmaGateway.Gateway
