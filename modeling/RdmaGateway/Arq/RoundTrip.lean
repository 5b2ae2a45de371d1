/-
  Arq/RoundTrip.lean --- control messages survive the wire.

  `arq_build_ctrl_msg` and `arq_parse_ctrl_msg` are two loops over one C structure.
  The count field carries 32 bits and is not capped; both loops stop at
  `MAX_RETX_BURST` entries.  What is built parses to its arguments, and what is parsed
  builds the same bytes again, the three bytes of padding and the entries behind the
  last one excepted.
-/
import RdmaGateway.Arq.Control
import RdmaGateway.Wire.Icrc

set_option autoImplicit false

namespace RdmaGateway.Arq

open RdmaGateway.Foundation
open RdmaGateway.Dpdk
open RdmaGateway.Wire
open RdmaGateway.Tunnel

/-! ## The list -/

/-- The entries of the list, as many as are stored. -/
theorem stPsnList_entry (b : ByteMem) (psns : Nat → Nat) {count i : Nat}
    (hi : i < min count maxRetxBurst) :
    (stPsnList b (some psns) count).ld32 (62 + 4 * i) = bswap32 (psns i) := by
  unfold stPsnList
  dsimp only
  generalize min count maxRetxBurst = k at hi
  induction k with
  | zero => omega
  | succ k ih =>
    rw [List.range_succ, List.foldl_append, List.foldl_cons, List.foldl_nil]
    by_cases hik : i = k
    · subst hik
      rw [ByteMem.ld32_st32, Nat.mod_eq_of_lt (ByteMem.bswap32_lt _)]
    · rw [ByteMem.ld32_st32_of_disjoint _ _ (Or.inl (by omega)), ih (by omega)]

/-- What `arq_build_ctrl_msg` returns when the pool has a buffer. -/
theorem arqBuildCtrlMsg_some {host host' : Host} {qpn type psn dstIp count : Nat}
    {psnList : Option (Nat → Nat)} {f : Mbuf}
    (h : arqBuildCtrlMsg host qpn type psn dstIp psnList count = (some f, host')) :
    f.dataLen = 318 ∧ ∃ b dstMac srcIp,
      f.data = ctrlFrame b dstMac srcIp dstIp qpn type psn psnList count := by
  unfold arqBuildCtrlMsg at h
  split at h
  · cases h
  · simp only [Prod.mk.injEq, Option.some.injEq] at h
    rw [← h.1]
    exact ⟨rfl, _, _, _, rfl⟩

/-! ## From arguments to bytes and back -/

/-- The fields that `arq_parse_ctrl_msg` finds in a built frame. -/
theorem arqParseCtrlMsg_ctrlFrame {f : Mbuf} {b : ByteMem} {dstMac : EtherAddr}
    {srcIp dstIp qpn type psn count : Nat} {psnList : Option (Nat → Nat)}
    (hf : f.data = ctrlFrame b dstMac srcIp dstIp qpn type psn psnList count)
    (hcount : count < 4294967296) (hlist : psnList.isSome ∨ count = 0) :
    arqParseCtrlMsg f = some
      ⟨arqMagic, type % 256, qpn % 4294967296, psn % 4294967296, count,
        (List.range (min count maxRetxBurst)).map fun i =>
          (psnList.getD fun _ => 0) i % 4294967296⟩ := by
  obtain ⟨hmagic, htype, hqpn, hpsn, hcnt⟩ :=
    ctrlFrame_fields b dstMac srcIp dstIp qpn type psn psnList count
  rw [← hf] at hmagic htype hqpn hpsn hcnt
  rw [Nat.mod_eq_of_lt hcount] at hcnt
  have hentries : (List.range (min count maxRetxBurst)).map
      (fun i => bswap32 (f.data.ld32 (62 + 4 * i))) =
        (List.range (min count maxRetxBurst)).map fun i =>
          (psnList.getD fun _ => 0) i % 4294967296 := by
    refine List.map_congr_left fun i hi => ?_
    have hi := List.mem_range.mp hi
    cases psnList with
    | none =>
      have hzero : count = 0 := by simpa using hlist
      omega
    | some psns =>
      rw [hf, ctrlFrame, stPsnList_entry _ _ hi, ByteMem.bswap32_bswap32]
      rfl
  simp only [arqParseCtrlMsg, hmagic, htype, hqpn, hpsn, hcnt, hentries, ne_eq, not_true,
    if_false]

/-! ## From bytes to fields and back -/

/-- The bytes of the fields of `arq_control_msg_t`, without padding and list. -/
def CtrlFieldByte (i : Nat) : Prop := 42 ≤ i ∧ i < 47 ∨ 50 ≤ i ∧ i < 62

/-- The bytes of the list entries that `count` announces, as far as they are read. -/
def CtrlListByte (count i : Nat) : Prop := 62 ≤ i ∧ i < 62 + 4 * min count maxRetxBurst

theorem ld32_lt (b : ByteMem) (off : Nat) : b.ld32 off < 4294967296 := by
  have h₀ := b.ld8_lt off
  have h₁ := b.ld8_lt (off + 1)
  have h₂ := b.ld8_lt (off + 2)
  have h₃ := b.ld8_lt (off + 3)
  unfold ByteMem.ld32
  omega

/-- A field in network order holds the same bytes when it holds the same value. -/
theorem apply_eq_of_field {b b' : ByteMem} {off i : Nat}
    (h : bswap32 (b.ld32 off) = bswap32 (b'.ld32 off)) (hi : off ≤ i) (hi' : i < off + 4) :
    b i = b' i := by
  have hword := (bswap32_inj (ld32_lt b off) (ld32_lt b' off)).mp h
  exact ByteMem.apply_eq_of_ldBytes_eq (ByteMem.ldBytes_four_eq_iff.mpr hword) hi hi'

/-- What `arq_parse_ctrl_msg` found out about the bytes. -/
theorem arqParseCtrlMsg_some {m : Mbuf} {msg : ArqControlMsg} (h : arqParseCtrlMsg m = some msg) :
    bswap32 (m.data.ld32 42) = arqMagic ∧ msg.type = m.data.ld8 46 ∧
      msg.qpn = bswap32 (m.data.ld32 50) ∧ msg.psn = bswap32 (m.data.ld32 54) ∧
      msg.count = bswap32 (m.data.ld32 58) ∧
      ∀ i < min msg.count maxRetxBurst,
        msg.psnList.getD i 0 = bswap32 (m.data.ld32 (62 + 4 * i)) := by
  unfold arqParseCtrlMsg at h
  dsimp only at h
  split at h
  · cases h
  · rename_i hmagic
    simp only [Option.some.injEq] at h
    subst h
    refine ⟨not_not.mp hmagic, rfl, rfl, rfl, rfl, fun i hi => ?_⟩
    have hi : i < min (bswap32 (m.data.ld32 58)) maxRetxBurst := hi
    simp [List.getD_eq_getElem?_getD, List.getElem?_range hi]

/-- A frame built from parsed fields has the bytes they were parsed from. -/
theorem rebuilt_apply {m f : Mbuf} {msg : ArqControlMsg} {b : ByteMem} {dstMac : EtherAddr}
    {srcIp dstIp : Nat} (hmsg : arqParseCtrlMsg m = some msg)
    (hf : f.data = ctrlFrame b dstMac srcIp dstIp msg.qpn msg.type msg.psn
      (some fun i => msg.psnList.getD i 0) msg.count)
    {i : Nat} (hi : CtrlFieldByte i ∨ CtrlListByte msg.count i) : f.data i = m.data i := by
  obtain ⟨hmagic, htype, hqpn, hpsn, hcount, hlist⟩ := arqParseCtrlMsg_some hmsg
  obtain ⟨hmagic', htype', hqpn', hpsn', hcount'⟩ :=
    ctrlFrame_fields b dstMac srcIp dstIp msg.qpn msg.type msg.psn
      (some fun i => msg.psnList.getD i 0) msg.count
  rw [← hf] at hmagic' htype' hqpn' hpsn' hcount'
  rw [hqpn, Nat.mod_eq_of_lt (ByteMem.bswap32_lt _)] at hqpn'
  rw [hpsn, Nat.mod_eq_of_lt (ByteMem.bswap32_lt _)] at hpsn'
  rw [hcount, Nat.mod_eq_of_lt (ByteMem.bswap32_lt _)] at hcount'
  rw [htype, Nat.mod_eq_of_lt (m.data.ld8_lt 46)] at htype'
  rcases hi with hi | ⟨hi, hi'⟩
  · -- one case per field
    obtain h | h | h | h | h : (42 ≤ i ∧ i < 46) ∨ i = 46 ∨ (50 ≤ i ∧ i < 54) ∨
        (54 ≤ i ∧ i < 58) ∨ (58 ≤ i ∧ i < 62) := by
      unfold CtrlFieldByte at hi
      omega
    · exact apply_eq_of_field (hmagic'.trans hmagic.symm) h.1 h.2
    · rw [h]
      exact UInt8.toNat_inj.mp htype'
    · exact apply_eq_of_field hqpn' h.1 h.2
    · exact apply_eq_of_field hpsn' h.1 h.2
    · exact apply_eq_of_field hcount' h.1 h.2
  · obtain ⟨k, hk, hk'⟩ : ∃ k, 62 + 4 * k ≤ i ∧ i < 62 + 4 * k + 4 :=
      ⟨(i - 62) / 4, by omega, by omega⟩
    have hentry : k < min msg.count maxRetxBurst := by omega
    refine apply_eq_of_field ?_ hk hk'
    rw [hf, ctrlFrame, stPsnList_entry _ _ hentry, hlist k hentry, ByteMem.bswap32_bswap32,
      Nat.mod_eq_of_lt (ByteMem.bswap32_lt _)]

/-! ## The round trips -/

/-- What is built parses to its arguments, with the first `MAX_RETX_BURST` entries of the
list at most; what is parsed builds the bytes it was parsed from; and only a magic that
differs is rejected. -/
theorem ctrlMsg_roundTrips :
    (∀ (host host' : Host) (qpn type psn dstIp count : Nat) (psnList : Option (Nat → Nat))
        (f : Mbuf), type < 256 → qpn < 4294967296 → psn < 4294967296 → count < 4294967296 →
      (psnList.isSome ∨ count = 0) →
      (∀ psns, psnList = some psns → ∀ i < count, psns i < 4294967296) →
      arqBuildCtrlMsg host qpn type psn dstIp psnList count = (some f, host') →
      f.dataLen = 318 ∧
      arqParseCtrlMsg f = some ⟨arqMagic, type, qpn, psn, count,
        (List.range (min count maxRetxBurst)).map (psnList.getD fun _ => 0)⟩) ∧
    (∀ (m : Mbuf) (msg : ArqControlMsg), arqParseCtrlMsg m = some msg →
      ∀ (host host' : Host) (dstIp : Nat) (f : Mbuf),
        arqBuildCtrlMsg host msg.qpn msg.type msg.psn dstIp
          (some fun i => msg.psnList.getD i 0) msg.count = (some f, host') →
        ∀ i, CtrlFieldByte i ∨ CtrlListByte msg.count i → f.data i = m.data i) ∧
    ∀ m : Mbuf, arqParseCtrlMsg m = none ↔ bswap32 (m.data.ld32 42) ≠ arqMagic := by
  refine ⟨?_, ?_, fun m => ?_⟩
  · intro host host' qpn type psn dstIp count psnList f htype hqpn hpsn hcount hlist hentries hbuilt
    obtain ⟨hlen, b, dstMac, srcIp, hf⟩ := arqBuildCtrlMsg_some hbuilt
    refine ⟨hlen, ?_⟩
    rw [arqParseCtrlMsg_ctrlFrame hf hcount hlist, Nat.mod_eq_of_lt htype, Nat.mod_eq_of_lt hqpn,
      Nat.mod_eq_of_lt hpsn]
    have hcut : (List.range (min count maxRetxBurst)).map
        (fun i => (psnList.getD fun _ => 0) i % 4294967296) =
          (List.range (min count maxRetxBurst)).map (psnList.getD fun _ => 0) := by
      refine List.map_congr_left fun i hi => Nat.mod_eq_of_lt ?_
      have hi := List.mem_range.mp hi
      cases psnList with
      | none => exact Nat.zero_lt_succ _
      | some psns => exact hentries psns rfl i (by omega)
    rw [hcut]
  · intro m msg hmsg host host' dstIp f hbuilt i hi
    obtain ⟨-, b, dstMac, srcIp, hf⟩ := arqBuildCtrlMsg_some hbuilt
    exact rebuilt_apply hmsg hf hi
  · unfold arqParseCtrlMsg
    dsimp only
    split
    · simp [*]
    · simp [*]

/-- A NACK that announces `2^32 - 1` PSNs carries the first 64, and the frame built from
what it parses to has the same bytes up to the last of them. -/
theorem ctrlMsg_roundTrips_past_cap :
    ∃ f host', arqBuildCtrlMsg .unloaded 7 arqMsgNack 5 0 (some fun i => i) 4294967295 =
        (some f, host') ∧
      arqParseCtrlMsg f = some ⟨arqMagic, arqMsgNack, 7, 5, 4294967295, List.range 64⟩ ∧
      ∃ f' host'', arqBuildCtrlMsg host' 7 arqMsgNack 5 1
          (some fun i => (List.range 64).getD i 0) 4294967295 = (some f', host'') ∧
        ∀ i, CtrlFieldByte i ∨ CtrlListByte 4294967295 i → f'.data i = f.data i := by
  obtain ⟨hforth, hback, -⟩ := ctrlMsg_roundTrips
  obtain ⟨f, host', hbuilt⟩ : ∃ f host', arqBuildCtrlMsg .unloaded 7 arqMsgNack 5 0
      (some fun i => i) 4294967295 = (some f, host') := ⟨_, _, rfl⟩
  obtain ⟨f', host'', hrebuilt⟩ : ∃ f' host'', arqBuildCtrlMsg host' 7 arqMsgNack 5 1
      (some fun i => (List.range 64).getD i 0) 4294967295 = (some f', host'') := by
    cases hbuilt
    exact ⟨_, _, rfl⟩
  have hentries : ∀ psns, some (fun i : Nat => i) = some psns → ∀ i < 4294967295,
      psns i < 4294967296 := by
    intro psns h i hi
    rw [← Option.some.inj h]
    exact Nat.lt_succ_of_lt hi
  have hparsed := (hforth _ _ 7 arqMsgNack 5 0 4294967295 (some fun i => i) f (by decide) (by decide)
    (by decide) (by decide) (Or.inl rfl) hentries hbuilt).2
  refine ⟨f, host', hbuilt, hparsed, f', host'', hrebuilt, ?_⟩
  exact hback f _ hparsed _ _ 1 f' hrebuilt

end RdmaGateway.Arq
