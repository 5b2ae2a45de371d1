/-
  Gateway/Icrc.lean --- the ICRC of the RoCE frames that leave the gateway.

  The forged acknowledgement and the CNP are summed after their last header field is
  written, so they are always valid.  `wan_fwd_roce` and `wan_prepare_for_lan` replace
  the source address of a frame and leave its ICRC alone, and the source address is
  among what the ICRC covers: such a frame is valid exactly when it had the gateway's
  address before (`icrc_kept_iff`).
-/
import RdmaGateway.Gateway.SourceAddress
import RdmaGateway.Processor.Isolation
import RdmaGateway.Wire.Icrc

set_option autoImplicit false

namespace RdmaGateway.Gateway

open RdmaGateway.Foundation
open RdmaGateway.Dpdk
open RdmaGateway.Wire
open RdmaGateway.Roce
open RdmaGateway.Tunnel
open RdmaGateway.Arq
open RdmaGateway.Reassembly
open RdmaGateway.Processor

variable {L W : Nat}

/-! ## What a frame is sent for -/

/-- The packets a run hands to WAN core `j`. -/
def wanReceived (j : Fin W) (calls : List (CoreCall L W)) : List Mbuf :=
  calls.filterMap fun
    | .wanRx j' m => if j' = j then some m else none
    | _ => none

/-- Frame `f` of the call after a run is sent because of packet `m`: a LAN core sends
what it sends for the packet it processes, a WAN core delivers a packet it received. -/
def CausedBy (calls : List (CoreCall L W)) (g : Cores L W) (m : Mbuf) (port : Port) (f : Mbuf) :
    CoreCall L W → Prop
  | .lanRx _ m' => m' = m
  | .wanRx j m' =>
    port = .lan ∧ m ∈ wanReceived j calls ++ [m'] ∧ f = wanPrepareForLan g.host m
  | .timer _ => False

/-- In every run of a gateway with this address, the RoCE frames sent because of packet
`m` carry a valid ICRC. -/
def IcrcKept (srcIp : Nat) (m : Mbuf) : Prop :=
  ∀ (L W : Nat) (host : Host) (calls : List (CoreCall L W)) (c : CoreCall L W) (port : Port)
    (f : Mbuf) (accepted : Bool),
    host.wanTunnelSrcIp = srcIp →
    .txBurst port f accepted ∈ (run Cores.step (Cores.init L W host) calls).events c →
    CausedBy calls (run Cores.step (Cores.init L W host) calls) m port f c →
    f.isRoce → f.icrcValid

/-! ## Every RoCE frame has a cause -/

/-- A control message is no RoCE frame. -/
theorem IsCtrlMsg.not_isRoce {srcIp dstIp qpn type psn : Nat} {port : Port} {f : Mbuf}
    (h : IsCtrlMsg srcIp dstIp qpn type psn port f) : ¬ f.isRoce := by
  obtain ⟨-, b, dstMac, hdata⟩ := h
  rintro ⟨-, -, hport⟩
  have hctrl := (ctrlFrame_headers b dstMac srcIp dstIp qpn type psn none 0 f).2.2
  rw [Mbuf.udpDstPort, Mbuf.withData_data, ← hdata] at hctrl
  rw [Mbuf.udpDstPort, hctrl] at hport
  exact absurd hport (by decide)

theorem wanReceived_append (j : Fin W) (calls : List (CoreCall L W)) (c : CoreCall L W) :
    wanReceived j (calls ++ [c]) = wanReceived j calls ++ wanReceived j [c] := by
  rw [wanReceived, List.filterMap_append]
  rfl

/-- A WAN core buffers only what it received. -/
def HoldsReceived (calls : List (CoreCall L W)) (g : Cores L W) : Prop :=
  ∀ j, Holds (fun _ m => m ∈ wanReceived j calls) (g.procs (wanIndex j)).jitterBuffer

/-- A call of another core leaves the buffer of WAN core `j` alone. -/
theorem update_jitterBuffer_of_ne (g : Cores L W) {j : Fin W} {k : Fin (L + W)}
    (hk : wanIndex j ≠ k) (r : ProcessorContext × Host) :
    ((g.update k r).procs (wanIndex j)).jitterBuffer = (g.procs (wanIndex j)).jitterBuffer := by
  simp [Cores.update, hk]

theorem update_jitterBuffer_self (g : Cores L W) (j : Fin W) (r : ProcessorContext × Host) :
    ((g.update (wanIndex j) r).procs (wanIndex j)).jitterBuffer = r.1.jitterBuffer := by
  simp [Cores.update]

theorem wanIndex_ne {j j' : Fin W} (h : j' ≠ j) : (wanIndex j : Fin (L + W)) ≠ wanIndex j' :=
  fun heq => h (Fin.natAdd_injective _ _ heq).symm

/-- A packet from the WAN is buffered or not. -/
theorem holds_wanStep {P : Mbuf → Prop} {s : ProcessorContext × Host} {m : Mbuf} (hm : P m)
    (h : Holds (fun _ m => P m) s.1.jitterBuffer) :
    Holds (fun _ m => P m) (wanStep s m).1.jitterBuffer := by
  have hadd : Holds (fun _ m => P m) (addSegOf s.1 s.2 m).2.1 := Holds.addSeg h _ _ hm _
  exact wanStep_keeps h hadd fun io => hadd.removeWrite _ io

theorem HoldsReceived.step {calls : List (CoreCall L W)} {g : Cores L W}
    (hwindows : WanWindowsEmpty g) (h : HoldsReceived calls g) (c : CoreCall L W) :
    HoldsReceived (calls ++ [c]) (g.step c) := by
  intro j
  rw [wanReceived_append]
  have hmore : Holds (fun _ m => m ∈ wanReceived j calls ++ wanReceived j [c])
      (g.procs (wanIndex j)).jitterBuffer :=
    fun i k m hm => List.mem_append_left _ (h j i k m hm)
  cases c with
  | lanRx i m =>
    rw [Cores.step, update_jitterBuffer_of_ne g (lanIndex_ne_wanIndex i j).symm]
    exact hmore
  | wanRx j' m =>
    by_cases hj : j' = j
    · subst hj
      rw [Cores.step, update_jitterBuffer_self]
      refine holds_wanStep (s := (g.procs (wanIndex j'), g.host)) ?_ hmore
      simp [wanReceived]
    · rw [Cores.step, update_jitterBuffer_of_ne g (wanIndex_ne hj)]
      exact hmore
  | timer j' =>
    by_cases hj : j' = j
    · subst hj
      rw [Cores.step, update_jitterBuffer_self, (procTimerCallback_idle (hwindows j') g.host).2]
      exact hmore
    · rw [Cores.step, update_jitterBuffer_of_ne g (wanIndex_ne hj)]
      exact hmore

theorem HoldsReceived.run {before : List (CoreCall L W)} {g : Cores L W}
    (hwindows : WanWindowsEmpty g) (h : HoldsReceived before g) (calls : List (CoreCall L W)) :
    HoldsReceived (before ++ calls) (Foundation.run Cores.step g calls) := by
  induction calls generalizing before g with
  | nil => rwa [List.append_nil]
  | cons c calls ih =>
    have hcalls := ih (hwindows.step c) (h.step hwindows c)
    rwa [List.append_assoc] at hcalls

theorem holdsReceived_run (host : Host) (calls : List (CoreCall L W)) :
    HoldsReceived calls (run Cores.step (Cores.init L W host) calls) := by
  have hinit : HoldsReceived [] (Cores.init L W host) := fun _ => holds_jbInit
  exact hinit.run (fun _ => rfl) calls

/-- Every RoCE frame is sent because of the packet at hand or of one that the core
received before. -/
theorem roce_frame_caused (host : Host) (calls : List (CoreCall L W)) {c : CoreCall L W}
    {port : Port} {f : Mbuf} {accepted : Bool}
    (hf : .txBurst port f accepted ∈ (run Cores.step (Cores.init L W host) calls).events c)
    (hroce : f.isRoce) :
    ∃ m, CausedBy calls (run Cores.step (Cores.init L W host) calls) m port f c := by
  have hwindows := wan_windows_empty host calls
  have hholds := holdsReceived_run host calls
  generalize run Cores.step (Cores.init L W host) calls = g at hf hwindows hholds ⊢
  cases c with
  | lanRx i m => exact ⟨m, rfl⟩
  | wanRx j m =>
    obtain ⟨ev, hadds, hframes⟩ := wan_frames (hwindows j) m g.host
    rw [Cores.events_of_adds hadds] at hf
    cases hframes _ _ _ hf with
    | @delivered seg _ hseg =>
      obtain ⟨i, k, -, -, hmbuf⟩ := jbGetOrderedSegs_subset hseg
      have hmore : Holds (fun _ x => x ∈ wanReceived j calls ++ [m])
          (g.procs (wanIndex j)).jitterBuffer :=
        fun i k x hx => List.mem_append_left _ (hholds j i k x hx)
      have hadd : Holds (fun _ x => x ∈ wanReceived j calls ++ [m])
          (addSegOf (g.procs (wanIndex j)) g.host m).2.1 :=
        hmore.addSeg _ _ (List.mem_append_right _ (List.mem_singleton_self m)) _
      exact ⟨seg, rfl, hadd i k seg hmbuf, rfl⟩
    | feedback _ hctrl =>
      obtain ⟨psn, hmsg⟩ := hctrl
      exact absurd hroce (IsCtrlMsg.not_isRoce hmsg)
  | timer j =>
    have hupdate : ∀ r : ProcessorContext × Host,
        (g.update (wanIndex j) r).host.io.trace = r.2.io.trace := fun _ => rfl
    rw [Cores.events, Cores.step, hupdate, (procTimerCallback_idle (hwindows j) g.host).1,
      List.drop_length] at hf
    cases hf

/-! ## Frames and their ICRC -/

theorem IsForgedAck.icrcValid {m : Mbuf} {port : Port} {f : Mbuf} (h : IsForgedAck m port f) :
    f.icrcValid := by
  obtain ⟨-, hlen, b, hdata⟩ := h
  refine icrcValid_of_stored (b := ackHeaders b m) (by decide : 12 ≤ 16) hlen fun i _ => ?_
  rw [hdata, ackFrame_eq]

theorem IsCnp.icrcValid {srcIp : Nat} {port : Port} {f : Mbuf} (h : IsCnp srcIp port f) :
    f.icrcValid := by
  obtain ⟨-, hlen, b, dstIp, qpn, pkey, dstMac, srcMac, hdata⟩ := h
  refine icrcValid_of_stored (b := cnpHeaders b srcIp dstIp qpn pkey) (by decide : 12 ≤ 28) hlen
    fun i hi => ?_
  rw [hdata, stMac_of_ge _ _ (by omega), stMac_of_ge _ _ (by omega), cnpFrame_eq]

/-- A packet that is passed on as it is. -/
theorem icrcValid_of_readdressed {m f : Mbuf} (h : IsReaddressed m f) (hm : m.icrcValid) :
    f.icrcValid := by
  refine (icrcValid_iff_src hm h.2.1 fun i hi _ _ => h.2.2 i (by omega)).mpr ?_
  exact ByteMem.ld32_congr fun k hk => h.2.2 k (by omega)

/-- A packet whose source address is replaced. -/
theorem icrcValid_setSrcAddr_iff {srcIp : Nat} {m : Mbuf} (hm : m.icrcValid) :
    (setSrcAddr srcIp m).icrcValid ↔ m.ipSrcAddr = bswap32 srcIp := by
  have hbytes : ∀ i, 14 ≤ i → ¬ IsMasked i → ¬ (26 ≤ i ∧ i < 30) →
      (setSrcAddr srcIp m).data i = m.data i := by
    intro i _ hmask hsrc
    refine UInt8.toNat_inj.mp (setSrcAddr_ld8 srcIp m ?_)
    unfold IsMasked at hmask
    omega
  have hsrc : (setSrcAddr srcIp m).data.ld32 26 = bswap32 srcIp := setSrcAddr_ipSrcAddr srcIp m
  have hiff := icrcValid_iff_src (f := setSrcAddr srcIp m) hm rfl hbytes
  rw [hsrc, eq_comm] at hiff
  exact hiff

theorem icrcValid_forwarded_iff {srcIp : Nat} {m f : Mbuf} (hm : m.icrcValid)
    (hf : IsReaddressed (setSrcAddr srcIp m) f) : f.icrcValid ↔ m.ipSrcAddr = bswap32 srcIp := by
  rw [← icrcValid_setSrcAddr_iff hm]
  refine ⟨fun h => ?_, icrcValid_of_readdressed hf⟩
  exact icrcValid_of_readdressed
    ⟨hf.1.symm, hf.2.1.symm, fun i hi => (hf.2.2 i hi).symm⟩ h

/-- The RoCE frames sent because of a WRITE with a valid ICRC all carry a valid ICRC
exactly when the WRITE comes from the gateway's own address, as the gateway writes it. -/
theorem icrc_kept_iff (srcIp : Nat) (m : Mbuf) (hwrite : m.isRoceWrite) (hvalid : m.icrcValid) :
    IcrcKept srcIp m ↔ m.ipSrcAddr = bswap32 srcIp := by
  constructor
  · intro hkept
    obtain ⟨host, f, accepted, hsrc, -, hf, hm⟩ := exists_forwarded srcIp hwrite
    have hroce : f.isRoce := by
      obtain ⟨htype, hproto, hport, -⟩ := hm.headers.2.mpr ((setSrcAddr_headers _ _).2.mpr hwrite)
      exact ⟨htype, hproto, hport⟩
    exact (icrcValid_forwarded_iff hvalid hm).mp
      (hkept 1 0 host [] (.lanRx 0 m) .wan f accepted hsrc hf rfl hroce)
  · intro hown L W host calls c port f accepted hsrc hf hcause hroce
    have hconfig := (run_config (g := Cores.init L W host) (fun _ => rfl) calls).2.trans hsrc
    generalize run Cores.step (Cores.init L W host) calls = g at hf hcause hconfig
    cases c with
    | lanRx i m' =>
      obtain rfl : m' = m := hcause
      obtain ⟨ev, hadds, hframes⟩ := lan_frames (g.procs (lanIndex i)) m' g.host
      rw [Cores.events_of_adds hadds] at hf
      cases hframes _ _ _ hf with
      | arp harp =>
        have htype := hroce.1
        rw [harp.etherType] at htype
        exact absurd htype (by decide)
      | cnp hcnp => exact IsCnp.icrcValid hcnp
      | ack _ hack => exact IsForgedAck.icrcValid hack
      | passed _ _ hm => exact icrcValid_of_readdressed hm hvalid
      | forwarded _ _ hm =>
        rw [hconfig] at hm
        exact (icrcValid_forwarded_iff hvalid hm).mpr hown
    | wanRx j m' =>
      obtain ⟨-, -, rfl⟩ := hcause
      rw [wanPrepareForLan, hconfig]
      exact (icrcValid_setSrcAddr_iff hvalid).mpr hown
    | timer j => exact hcause.elim

/-- The headers of a WRITE for QP 7 from address `src` to 10.2.0.2. -/
def writeHeaders (src : Nat) : ByteMem :=
  buildIpv4Udp (writeFrame 1 roceOpcodeWriteOnly 7 0).data src 0x0200020A (bswap16 49152)
    (bswap16 wanUdpPort) 60 40

/-- The WRITE with its ICRC. -/
def summedWrite (src : Nat) : Mbuf :=
  ⟨1, 2048, 74, (writeHeaders src).st32 70 (bswap32 (roceIcrc (writeHeaders src) 28).1)⟩

theorem summedWrite_icrcValid (src : Nat) : (summedWrite src).icrcValid :=
  icrcValid_of_stored (b := writeHeaders src) (by decide : 12 ≤ 28) rfl fun _ _ => rfl

/-- A gateway with address 10.0.0.1 keeps the ICRC of a WRITE from 1.0.0.10. -/
theorem icrc_kept_iff_own : IcrcKept 0x0100000A (summedWrite 0x0A000001) :=
  (icrc_kept_iff 0x0100000A (summedWrite 0x0A000001) (by decide +kernel)
    (summedWrite_icrcValid _)).mpr (by decide +kernel)

/-- The same gateway forwards a WRITE from 10.0.0.2 with an ICRC that is not that of the
frame. -/
theorem forwarded_icrc_invalid :
    Host.unloaded.wanTunnelSrcIp = 0x0100000A ∧ (summedWrite 0x0200000A).isRoceWrite ∧
      (summedWrite 0x0200000A).icrcValid ∧
      ((Cores.init 1 1 .unloaded).sends (.lanRx 0 (summedWrite 0x0200000A))).map
        (fun f => decide f.icrcValid) = [false] ∧
      ¬ IcrcKept 0x0100000A (summedWrite 0x0200000A) := by
  have hsent : ((Cores.init 1 1 .unloaded).sends (.lanRx 0 (summedWrite 0x0200000A))).map
      (fun f => decide f.icrcValid) = [false] := by
    decide +kernel
  have hroce : ∀ f ∈ (Cores.init 1 1 .unloaded).sends (.lanRx 0 (summedWrite 0x0200000A)),
      f.etherType = rteEtherTypeIpv4 ∧ f.ipProto = ipprotoUdp ∧ f.udpDstPort = wanUdpPort := by
    decide +kernel
  refine ⟨rfl, by decide +kernel, summedWrite_icrcValid _, hsent, fun hkept => ?_⟩
  obtain ⟨f, hf, hinvalid⟩ := List.map_eq_singleton_iff.mp hsent
  have hmem : f ∈ (Cores.init 1 1 .unloaded).sends (.lanRx 0 (summedWrite 0x0200000A)) := by
    rw [hf]
    exact List.mem_singleton_self f
  obtain ⟨accepted, hev⟩ := mem_wanFrames.mp hmem
  exact of_decide_eq_false hinvalid
    (hkept 1 1 .unloaded [] (.lanRx 0 (summedWrite 0x0200000A)) .wan f accepted rfl hev rfl
      (hroce f hmem))

end RdmaGateway.Gateway
