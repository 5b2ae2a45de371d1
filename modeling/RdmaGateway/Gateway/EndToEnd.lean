/-
  Gateway/EndToEnd.lean --- two gateways on a WAN without faults.

  The first passes every WRITE of its LAN on exactly once and in order (`Gateway.Egress`),
  the second hands on exactly the whole messages that reach it in order
  (`Gateway.InOrder`).  So the tunnel is transparent: behind the second gateway each queue
  pair's messages come out as they went in at the first.
-/
import RdmaGateway.Gateway.Egress
import RdmaGateway.Gateway.InOrder
import RdmaGateway.Gateway.Network

set_option autoImplicit false

namespace RdmaGateway.Gateway

open RdmaGateway.Foundation
open RdmaGateway.Dpdk
open RdmaGateway.Wire
open RdmaGateway.Roce
open RdmaGateway.Tunnel
open RdmaGateway.Processor

/-- The length of the headers up to the end of the BTH. -/
abbrev bthEnd : Nat := 54

theorem IsRelayed.bthGetQpn {p f : Mbuf} (h : IsRelayed p f) : p.bthGetQpn = f.bthGetQpn := by
  have hbyte : ∀ i, 30 ≤ i → f.data.ld8 i = p.data.ld8 i := fun i hi =>
    congrArg UInt8.toNat (h.2 i (by omega) (by omega))
  simp only [Mbuf.bthGetQpn, hbyte 47 (by decide), hbyte 48 (by decide), hbyte 49 (by decide)]

/-- A copy of a packet with complete headers ends a message if the packet does. -/
theorem IsImage.endsMessage {p f : Mbuf} (h : IsImage p f) (hlen : bthEnd ≤ p.dataLen) :
    Processor.endsMessage p = Processor.endsMessage f := by
  have hbyte : f.data.ld8 42 = p.data.ld8 42 :=
    congrArg UInt8.toNat (h.2 42 (Nat.lt_of_lt_of_le (by decide) hlen) (by decide) (by decide))
  simp only [Processor.endsMessage, Mbuf.bthOpcode, hbyte]

variable {L W L' W' : Nat}

/-- LAN core `i` of one gateway sends the WRITEs of queue pair `q` over the WAN to WAN core
`j` of another, which receives them as they were sent: none is lost, repeated or overtaken.
If the packets have complete headers and the WRITEs that reach core `j`, of whatever queue
pairs and senders, are in order, then the second gateway hands to its LAN, for `q`, exactly
the whole messages that the first received from its own, in order and unchanged but for the
MAC addresses, the source address and the header checksum. -/
theorem messages_cross_unchanged (host host' : Host) (calls : List (CoreCall L W))
    (calls' : List (CoreCall L' W')) (i : Fin L) (j : Fin W') (q : Nat)
    (hlen : ∀ m ∈ passedOn host.peerManager i calls, bthEnd ≤ m.dataLen)
    (hwire : List.Forall₂ SameFrame (ofQpn q (sentWrites i (Cores.init L W host) calls))
      (ofQpn q (receivedWrites j calls')))
    (horder : InOrder (receivedWrites j calls')) :
    List.Forall₂ IsImage (wholeMessages q (passedOn host.peerManager i calls))
      (ofQpn q (handedBy j (Cores.init L' W' host') calls')) := by
  have hsent : List.Forall₂ IsRelayed (ofQpn q (passedOn host.peerManager i calls))
      (ofQpn q (sentWrites i (Cores.init L W host) calls)) :=
    forall₂_ofKey (fun _ _ h => h.bthGetQpn) (sent_relayed host calls i) q
  have harrived : List.Forall₂ (fun p m => bthEnd ≤ p.dataLen ∧ IsImage p m)
      (ofQpn q (passedOn host.peerManager i calls)) (ofQpn q (receivedWrites j calls')) := by
    refine (List.forall₂_and_left _ _).mpr ⟨fun p hp => ?_, ?_⟩
    · exact hlen p (List.mem_filter.mp hp).1
    · exact forall₂_comp (fun _ _ _ hf hm => hf.isImage.sameFrame hm) hsent hwire
  have hwhole := forall₂_wholeGroups (fun _ _ h => h.2.endsMessage h.1) harrived
  rw [(reassembles_run host' calls' j horder).handed_eq q]
  refine List.forall₂_map_right_iff.mpr (hwhole.imp fun p m h => ?_)
  exact h.2.isRelayed (isRelayed_setSrcAddr _ m)

/-- What the first gateway sends when its LAN core receives one WRITE of QPN 7. -/
def crossing : Mbuf :=
  (sentWrites 0 (Cores.init 1 1 .unloaded) [.lanRx 0 writePacket]).headD writePacket

/-- The second gateway hands the WRITE to its LAN. -/
theorem messages_cross_unchanged_once :
    ∃ f, ofQpn 7 (handedBy 0 (Cores.init 1 1 .unloaded) [.wanRx 0 crossing]) = [f] ∧
      IsImage writePacket f := by
  have hwrite : crossing.isRoceWrite := by decide +kernel
  have hqpn : writePacket.bthGetQpn = 7 ∧ crossing.bthGetQpn = 7 := by decide +kernel
  have hpassed : passedOn Host.unloaded.peerManager 0
      ([.lanRx 0 writePacket] : List (CoreCall 1 1)) = [writePacket] :=
    List.filter_eq_self.mpr fun m hm => by
      obtain rfl : m = writePacket := List.mem_singleton.mp hm
      decide +kernel
  have hrelayed := sent_relayed .unloaded ([.lanRx 0 writePacket] : List (CoreCall 1 1)) 0
  rw [hpassed] at hrelayed
  obtain ⟨f, rest, -, hrest, hsent⟩ := List.forall₂_cons_left_iff.mp hrelayed
  obtain rfl := List.forall₂_nil_left_iff.mp hrest
  have hf : crossing = f := by rw [crossing, hsent, List.headD_cons]
  have hreceived : receivedWrites 0 ([.wanRx 0 crossing] : List (CoreCall 1 1)) =
      [] ++ [crossing] := by
    simp [receivedWrites, wanReceived, hwrite]
  have horder : InOrder ([] ++ [crossing]) := by
    refine inOrder_nil.concat ⟨?_, ?_, ?_⟩
    · rw [hqpn.2]; decide
    · intro first rest h
      cases h
    · intro _; decide
  have hcross := messages_cross_unchanged .unloaded .unloaded
    ([.lanRx 0 writePacket] : List (CoreCall 1 1)) ([.wanRx 0 crossing] : List (CoreCall 1 1))
    0 0 7 (fun m hm => ?_) ?_ ?_
  · rw [hpassed] at hcross
    have hwhole : wholeMessages 7 [writePacket] = [writePacket] := by
      have hends : endsMessage writePacket = true := by decide +kernel
      have hconcat : wholeMessages 7 ([] ++ [writePacket]) =
          wholeMessages 7 [] ++ if writePacket.bthGetQpn = 7 then completes [] writePacket else [] :=
        wholeMessages_concat
      rw [if_pos hqpn.1, completes, if_pos hends] at hconcat
      exact hconcat
    rw [hwhole] at hcross
    obtain ⟨g, rest, himage, hrest, hhanded⟩ := List.forall₂_cons_left_iff.mp hcross
    obtain rfl := List.forall₂_nil_left_iff.mp hrest
    exact ⟨g, hhanded, himage⟩
  · rw [hpassed] at hm
    obtain rfl := List.mem_singleton.mp hm
    decide
  · rw [hsent, hreceived, ← hf]
    exact List.forall₂_same.mpr fun m _ => ⟨rfl, fun _ _ => rfl⟩
  · rw [hreceived]
    exact horder

end RdmaGateway.Gateway
