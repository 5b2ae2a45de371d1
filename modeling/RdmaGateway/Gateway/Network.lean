/-
  Gateway/Network.lean --- gateways on a network that loses, repeats and reorders.

  Any number of gateways exchange frames.  What a WAN port has taken may be delivered to
  any WAN core of any gateway, never, once or many times, late or early; the network
  invents nothing and changes no byte.  The gateways trust it: they keep no record of
  what they delivered, and check no ICRC.  They are safe all the same in one respect:
  whatever a gateway hands to its LAN for a packet from the WAN is a packet that some
  gateway received from its own LAN before, unchanged but for the MAC addresses, the
  header checksum and the source address, and it is a WRITE if it is long enough to carry
  an opcode (`delivered_was_received`).
-/
import RdmaGateway.Gateway.Frames

set_option autoImplicit false

namespace RdmaGateway.Gateway

open RdmaGateway.Foundation
open RdmaGateway.Dpdk
open RdmaGateway.Wire
open RdmaGateway.Roce
open RdmaGateway.Tunnel
open RdmaGateway.Arq
open RdmaGateway.Reassembly
open RdmaGateway.Processor

/-! ## Frames across the network -/

/-- Buffer `m` holds the frame `f`: the bytes of the frame are the same, what lies behind
them in the buffer is not transmitted. -/
def SameFrame (f m : Mbuf) : Prop := m.dataLen = f.dataLen ∧ ∀ i < f.dataLen, m.data i = f.data i

/-- Frame `f` is packet `p` as a gateway passes it on. -/
def IsImage (p f : Mbuf) : Prop :=
  f.dataLen = p.dataLen ∧
    ∀ i < p.dataLen, 12 ≤ i → ¬ (24 ≤ i ∧ i < 30) → f.data i = p.data i

theorem IsRelayed.isImage {p f : Mbuf} (h : IsRelayed p f) : IsImage p f :=
  ⟨h.1, fun i _ hge hi => h.2 i hge hi⟩

theorem IsImage.sameFrame {p f m : Mbuf} (h : IsImage p f) (hm : SameFrame f m) : IsImage p m :=
  ⟨hm.1.trans h.1, fun i hlt hge hi => (hm.2 i (by rw [h.1]; exact hlt)).trans (h.2 i hlt hge hi)⟩

theorem IsImage.isRelayed {p f m : Mbuf} (h : IsImage p f) (hm : IsRelayed f m) : IsImage p m :=
  ⟨hm.1.trans h.1, fun i hlt hge hi => (hm.2 i hge hi).trans (h.2 i hlt hge hi)⟩

/-- What makes a frame a WRITE crosses with it, if the frame reaches to its opcode. -/
theorem IsImage.isRoceWrite {p f : Mbuf} (h : IsImage p f) (hlen : 42 < p.dataLen)
    (hwrite : f.isRoceWrite) : p.isRoceWrite := by
  have hbyte : ∀ i ≤ 42, 12 ≤ i → ¬ (24 ≤ i ∧ i < 30) → f.data.ld8 i = p.data.ld8 i :=
    fun i hle hge hi => congrArg UInt8.toNat (h.2 i (by omega) hge hi)
  simpa only [Mbuf.isRoceWrite, Mbuf.etherType, Mbuf.ipProto, Mbuf.udpDstPort, Mbuf.bthOpcode,
    ByteMem.ld16, hbyte 12 (by decide) (by decide) (by decide),
    hbyte 13 (by decide) (by decide) (by decide), hbyte 23 (by decide) (by decide) (by decide),
    hbyte 36 (by decide) (by decide) (by decide), hbyte 37 (by decide) (by decide) (by decide),
    hbyte 42 (by decide) (by decide) (by decide)] using hwrite

/-- No buffer that holds the frame is taken for a WRITE. -/
def NoWrite (f : Mbuf) : Prop := ∀ m, SameFrame f m → ¬ m.isRoceWrite

theorem SameFrame.ld8 {f m : Mbuf} (h : SameFrame f m) {i : Nat} (hi : i < f.dataLen) :
    m.data.ld8 i = f.data.ld8 i :=
  congrArg UInt8.toNat (h.2 i hi)

theorem IsArp.noWrite {f : Mbuf} (h : IsArp f) : NoWrite f := by
  intro m hm hwrite
  have hlen := h.length
  have htype := hwrite.1
  rw [Mbuf.etherType, ByteMem.ld16, hm.ld8 (by omega), hm.ld8 (by omega), ← ByteMem.ld16,
    ← Mbuf.etherType, h.etherType] at htype
  exact absurd htype (by decide)

theorem noWrite_of_ctrl {f : Mbuf} (hlen : f.dataLen = 318) (hport : f.udpDstPort = arqCtrlPort) :
    NoWrite f := by
  intro m hm hwrite
  have hroce := hwrite.2.2.1
  rw [Mbuf.udpDstPort, ByteMem.ld16, hm.ld8 (by omega), hm.ld8 (by omega), ← ByteMem.ld16,
    ← Mbuf.udpDstPort, hport] at hroce
  exact absurd hroce (by decide)

/-! ## The network -/

variable {ι : Type} {L W : ι → Nat}

/-- The gateways, and every frame that a WAN port has taken so far. -/
structure Network (L W : ι → Nat) where
  gateway : (k : ι) → Cores (L k) (W k)
  wire : List Mbuf

/-- One call of one core of one gateway. -/
structure NetCall (L W : ι → Nat) where
  k : ι
  call : CoreCall (L k) (W k)

def Network.init (L W : ι → Nat) (host : ι → Host) : Network L W :=
  ⟨fun k => Cores.init (L k) (W k) (host k), []⟩

/-- The frames the WAN port took. -/
def wanTaken (trace : List (Event Mbuf)) : List Mbuf :=
  trace.filterMap fun
    | .txBurst .wan f true => some f
    | _ => none

/-- The packet that a WAN core receives. -/
def NetCall.fromWan (x : NetCall L W) : Option Mbuf :=
  match x.call with
  | .wanRx _ m => some m
  | _ => none

/-- What a WAN core receives has been sent. -/
def FromWire (n : Network L W) (x : NetCall L W) : Prop :=
  ∀ m, x.fromWan = some m → ∃ f ∈ n.wire, SameFrame f m

/-- The packets that LAN cores receive, of all gateways. -/
def lanReceived (xs : List (NetCall L W)) : List Mbuf :=
  xs.filterMap fun x =>
    match x.call with
    | .lanRx _ m => some m
    | _ => none

theorem mem_wanTaken {trace : List (Event Mbuf)} {f : Mbuf} :
    f ∈ wanTaken trace ↔ .txBurst .wan f true ∈ trace := by
  rw [wanTaken, List.mem_filterMap]
  constructor
  · rintro ⟨e, he, hsome⟩
    split at hsome
    · cases hsome
      exact he
    · cases hsome
  · exact fun he => ⟨_, he, rfl⟩

theorem lanReceived_append (xs ys : List (NetCall L W)) :
    lanReceived (xs ++ ys) = lanReceived xs ++ lanReceived ys :=
  List.filterMap_append

/-! ## Nothing is invented -/

/-- A segment in a reassembly buffer: a WRITE, and the image of a packet of some LAN. -/
def FromLan (xs : List (NetCall L W)) (m : Mbuf) : Prop :=
  m.isRoceWrite ∧ ∃ p ∈ lanReceived xs, IsImage p m

/-- Everything that can still reach a LAN has come from one: the frames on the network
and the segments in the reassembly buffers. -/
structure Genuine (xs : List (NetCall L W)) (n : Network L W) : Prop where
  windows : ∀ k, WanWindowsEmpty (n.gateway k)
  wire : ∀ f ∈ n.wire, NoWrite f ∨ ∃ p ∈ lanReceived xs, IsImage p f
  buffers : ∀ k (j : Fin (W k)), Holds (fun _ m => FromLan xs m)
    ((n.gateway k).procs (wanIndex j)).jitterBuffer

theorem genuine_init (host : ι → Host) : Genuine [] (Network.init L W host) :=
  ⟨fun _ _ => rfl, fun _ hf => absurd hf List.not_mem_nil, fun _ _ => holds_jbInit⟩

/-- A WRITE that the network delivers is the image of a packet of some LAN. -/
theorem Genuine.delivered {xs : List (NetCall L W)} {n : Network L W} (h : Genuine xs n)
    {x : NetCall L W} (hx : FromWire n x) {m : Mbuf} (hm : x.fromWan = some m)
    (hwrite : m.isRoceWrite) : FromLan xs m := by
  obtain ⟨f, hf, hsame⟩ := hx m hm
  rcases h.wire f hf with hno | ⟨p, hp, himage⟩
  · exact absurd hwrite (hno m hsame)
  · exact ⟨hwrite, p, hp, himage.sameFrame hsame⟩

/-- What a call leaves in the reassembly buffers of its gateway. -/
theorem step_buffers {l w : Nat} {g : Cores l w} (hwindows : WanWindowsEmpty g) {P : Mbuf → Prop}
    (hbuffers : ∀ j : Fin w, Holds (fun _ m => P m) (g.procs (wanIndex j)).jitterBuffer)
    (c : CoreCall l w) (hc : ∀ j m, c = .wanRx j m → m.isRoceWrite → P m) (j : Fin w) :
    Holds (fun _ m => P m) ((g.step c).procs (wanIndex j)).jitterBuffer := by
  cases c with
  | lanRx i m =>
    rw [Cores.step, update_jitterBuffer_of_ne g (lanIndex_ne_wanIndex i j).symm]
    exact hbuffers j
  | wanRx j' m =>
    by_cases hj : j' = j
    · subst hj
      rw [Cores.step, update_jitterBuffer_self]
      by_cases hwrite : m.isRoceWrite
      · exact holds_wanStep (s := (g.procs (wanIndex j'), g.host)) (hc j' m rfl hwrite)
          (hbuffers j')
      · cases wan_outcome (g.procs (wanIndex j')) m g.host with
        | freed _ hjb _ =>
          rw [hjb]
          exact hbuffers j'
        | wrote hyes _ => exact absurd hyes hwrite
    · rw [Cores.step, update_jitterBuffer_of_ne g (wanIndex_ne hj)]
      exact hbuffers j
  | timer j' =>
    by_cases hj : j' = j
    · subst hj
      rw [Cores.step, update_jitterBuffer_self, (procTimerCallback_idle (hwindows j') g.host).2]
      exact hbuffers j'
    · rw [Cores.step, update_jitterBuffer_of_ne g (wanIndex_ne hj)]
      exact hbuffers j

variable [DecidableEq ι]

/-- The call is made, and what its WAN port takes is on the network. -/
def Network.step (n : Network L W) (x : NetCall L W) : Network L W :=
  ⟨Function.update n.gateway x.k ((n.gateway x.k).step x.call),
    n.wire ++ wanTaken ((n.gateway x.k).events x.call)⟩

@[simp] theorem step_gateway_self (n : Network L W) (k : ι) (c : CoreCall (L k) (W k)) :
    (n.step ⟨k, c⟩).gateway k = (n.gateway k).step c :=
  Function.update_self ..

theorem step_gateway_of_ne (n : Network L W) {k k' : ι} (hk : k' ≠ k) (c : CoreCall (L k) (W k)) :
    (n.step ⟨k, c⟩).gateway k' = n.gateway k' :=
  Function.update_of_ne hk ..

theorem Genuine.step {xs : List (NetCall L W)} {n : Network L W} (h : Genuine xs n)
    {x : NetCall L W} (hx : FromWire n x) : Genuine (xs ++ [x]) (n.step x) := by
  have hmore : ∀ {m : Mbuf}, (∃ p ∈ lanReceived xs, IsImage p m) →
      ∃ p ∈ lanReceived (xs ++ [x]), IsImage p m := by
    rintro m ⟨p, hp, himage⟩
    exact ⟨p, by rw [lanReceived_append]; exact List.mem_append_left _ hp, himage⟩
  have hbuffers : ∀ k (j : Fin (W k)),
      Holds (fun _ m => FromLan (xs ++ [x]) m) ((n.gateway k).procs (wanIndex j)).jitterBuffer :=
    fun k j i l m hm => (h.buffers k j i l m hm).imp_right hmore
  obtain ⟨k, c⟩ := x
  refine ⟨fun k' => ?_, fun f hf => ?_, fun k' j => ?_⟩
  · by_cases hk : k' = k
    · subst hk
      rw [step_gateway_self]
      exact (h.windows k').step c
    · rw [step_gateway_of_ne n hk]
      exact h.windows k'
  · rcases List.mem_append.mp hf with hf | hf
    · exact (h.wire f hf).imp_right hmore
    · have hframe : WanFrame (Host.settings (n.gateway k).host) f c :=
        (callSends_of_mem (h.windows k) (mem_wanTaken.mp hf)).wanFrame
      cases hframe with
      | relayed i m hrelayed =>
        have hself : m ∈ lanReceived (xs ++ [⟨k, .lanRx i m⟩]) := by
          rw [lanReceived_append]
          exact List.mem_append_right _ (List.mem_singleton_self m)
        exact Or.inr ⟨m, hself, hrelayed.isImage⟩
      | asked i m harp => exact Or.inl harp.noWrite
      | feedback j m _ hfeedback =>
        exact Or.inl (noWrite_of_ctrl hfeedback.length hfeedback.ports.2)
  · by_cases hk : k' = k
    · subst hk
      rw [step_gateway_self]
      refine step_buffers (h.windows k') (hbuffers k') c (fun j' m hc hwrite => ?_) j
      subst hc
      exact (h.delivered hx rfl hwrite).imp_right hmore
    · rw [step_gateway_of_ne n hk]
      exact hbuffers k' j

theorem genuine_run (host : ι → Host) {xs : List (NetCall L W)}
    (hwire : StepsMeet Network.step FromWire (Network.init L W host) xs) :
    Genuine xs (run Network.step (Network.init L W host) xs) := by
  have hgeneral : ∀ (ys : List (NetCall L W)) (before : List (NetCall L W)) (n : Network L W),
      Genuine before n → StepsMeet Network.step FromWire n ys →
      Genuine (before ++ ys) (run Network.step n ys) := by
    intro ys
    induction ys with
    | nil => intro before n h _; rwa [List.append_nil]
    | cons y ys ih =>
      intro before n h hmeet
      have hnext := ih (before ++ [y]) (n.step y) (h.step hmeet.1) hmeet.2
      rwa [List.append_assoc] at hnext
  exact hgeneral xs [] _ (genuine_init host) hwire

/-- Over every run of every network of gateways, whatever it loses, repeats and reorders:
what a gateway hands to its LAN for a packet from the WAN is a packet that a gateway
received from its LAN before, with the same length and the same bytes outside the MAC
addresses, the header checksum and the source address, and a WRITE if it reaches to its
opcode. -/
theorem delivered_was_received (host : ι → Host) (xs : List (NetCall L W))
    (hwire : StepsMeet Network.step FromWire (Network.init L W host) xs) (k : ι) (j : Fin (W k))
    (m f : Mbuf) (accepted : Bool)
    (hm : FromWire (run Network.step (Network.init L W host) xs) ⟨k, .wanRx j m⟩)
    (hf : .txBurst .lan f accepted ∈
      ((run Network.step (Network.init L W host) xs).gateway k).events (.wanRx j m)) :
    ∃ p ∈ lanReceived xs, IsImage p f ∧ (42 < p.dataLen → p.isRoceWrite) := by
  have hgenuine := genuine_run host hwire
  generalize run Network.step (Network.init L W host) xs = n at hgenuine hm hf
  have hsends := callSends_of_mem (hgenuine.windows k) hf
  cases hsends with
  | @delivered seg hwrite hseg =>
    obtain ⟨i, l, -, -, hmbuf⟩ := jbGetOrderedSegs_subset hseg
    have hadd : Holds (fun _ x => FromLan xs x)
        (addSegOf ((n.gateway k).procs (wanIndex j)) (n.gateway k).host m).2.1 :=
      (hgenuine.buffers k j).addSeg _ _ (hgenuine.delivered hm rfl hwrite) _
    obtain ⟨hseg, p, hp, himage⟩ := hadd i l seg hmbuf
    exact ⟨p, hp, himage.isRelayed (isRelayed_setSrcAddr _ seg),
      fun hlen => himage.isRoceWrite hlen hseg⟩

/-- Two gateways with one core on each side, after the first has processed a WRITE of its
LAN. -/
def oneSent : Network (fun _ : Bool => 1) fun _ => 1 :=
  run Network.step (Network.init (fun _ => 1) (fun _ => 1) fun _ => .unloaded)
    [⟨true, .lanRx (0 : Fin 1) siteWrite⟩]

/-- The frame on the network. -/
def sentFrame : Mbuf := oneSent.wire.headD siteWrite

/-- The second gateway delivers it. -/
theorem delivered_was_received_once :
    ∃ f ∈ lanHanded ((oneSent.gateway false).events (.wanRx (0 : Fin 1) sentFrame)),
      ∃ p ∈ [siteWrite], IsImage p f ∧ (42 < p.dataLen → p.isRoceWrite) := by
  have hhanded : 0 < (lanHanded
      ((oneSent.gateway false).events (.wanRx (0 : Fin 1) sentFrame))).length := by
    decide +kernel
  obtain ⟨f, hf⟩ := List.exists_mem_of_length_pos hhanded
  obtain ⟨accepted, he⟩ := mem_lanHanded.mp hf
  have hlen : oneSent.wire.length = 1 := by decide +kernel
  obtain ⟨w, hw⟩ := List.length_eq_one_iff.mp hlen
  have hsent : sentFrame = w := by rw [sentFrame, hw, List.headD_cons]
  have hwire : FromWire oneSent ⟨false, .wanRx (0 : Fin 1) sentFrame⟩ := by
    intro m hm
    obtain rfl : sentFrame = m := Option.some.inj hm
    exact ⟨w, by rw [hw]; exact List.mem_singleton_self w, by rw [hsent]; exact
      ⟨rfl, fun _ _ => rfl⟩⟩
  have hlan : FromWire (Network.init (fun _ : Bool => 1) (fun _ => 1) fun _ => .unloaded)
      ⟨true, .lanRx (0 : Fin 1) siteWrite⟩ := fun m hm => by cases hm
  have hsafe := delivered_was_received (L := fun _ : Bool => 1) (W := fun _ => 1)
    (fun _ => .unloaded) [⟨true, .lanRx (0 : Fin 1) siteWrite⟩] ⟨hlan, trivial⟩ false (0 : Fin 1)
    sentFrame f accepted
  rw [← oneSent] at hsafe
  exact ⟨f, hf, hsafe hwire he⟩

end RdmaGateway.Gateway
