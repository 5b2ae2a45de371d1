/-
  Wire/Corruption.lean --- what the RoCEv2 ICRC covers and what it detects.

  `roce_icrc` is the complement of the bit-serial CRC-32 over the packet with TOS, TTL,
  the two checksums and byte 4 of the BTH set to `0xff`.  Routers may change those
  bytes; two packets that differ elsewhere, within four bytes next to each other, have
  different ICRCs, because four bytes fit into the register.
-/
import RdmaGateway.Wire.BitSerial
import RdmaGateway.Wire.Icrc

set_option autoImplicit false

namespace RdmaGateway.Wire

open RdmaGateway.Foundation

/-! ## What is covered -/

/-- The ICRC is the complement of the bit-serial CRC-32, with seed `0xdebb20e3`, of the
packet whose masked bytes are `0xff`; it does not depend on what they were, and they
are what they were when `roce_icrc` returns. -/
theorem roceIcrc_covers (b : ByteMem) (len : Nat) :
    ((∀ i, IsMasked i → masked b i = 0xff) ∧ ∀ i, ¬ IsMasked i → masked b i = b i) ∧
    (roceIcrc b len).1 =
      (~~~ bitSerialCrc 0xdebb20e3 ((masked b).ldBytes 14 (28 + len))).toNat ∧
    (∀ b' : ByteMem, (∀ i, 14 ≤ i → i < 42 + len → ¬ IsMasked i → b' i = b i) →
      (roceIcrc b' len).1 = (roceIcrc b len).1) ∧
    (roceIcrc b len).2 = b := by
  refine ⟨⟨fun i hi => masked_apply_of_isMasked b hi, fun i hi => masked_apply_of_not b hi⟩,
    ?_, fun b' h => roceIcrc_congr h, roceIcrc_mem b len⟩
  rw [roceIcrc_fst, crc32LeSlice8_feed, bitSerialCrc_feed]

/-- A packet that a router passed on, with TTL, TOS and header checksum changed. -/
theorem roceIcrc_covers_routed :
    (roceIcrc (((ByteMem.st8 (fun _ => 7) 15 2).st8 22 63).st16 24 0xabcd) 12).1 =
      (roceIcrc (fun _ => 7) 12).1 ∧
    (roceIcrc (fun _ => 7) 12).2 = fun _ => 7 := by
  obtain ⟨-, -, hcongr, hmem⟩ := roceIcrc_covers (fun _ => 7) 12
  refine ⟨hcongr _ fun i _ _ hi => ?_, hmem⟩
  simp only [IsMasked, not_or] at hi
  simp [ByteMem.st8, ByteMem.st16, hi]

/-! ## What is detected -/

/-- Different masked packets that differ within four bytes only have different ICRCs. -/
theorem roceIcrc_ne_of_window {b b' : ByteMem} {len p : Nat}
    (hwindow : ∀ i, 14 ≤ i → i < 42 + len → ¬ (p ≤ i ∧ i < p + 4) → masked b i = masked b' i)
    (hdiff : ∃ i, 14 ≤ i ∧ i < 42 + len ∧ masked b i ≠ masked b' i) :
    (roceIcrc b len).1 ≠ (roceIcrc b' len).1 := by
  -- a window that sticks out of the packet is moved into it
  have hinside : ∃ q, 14 ≤ q ∧ q + 4 ≤ 42 + len ∧
      ∀ i, 14 ≤ i → i < 42 + len → p ≤ i ∧ i < p + 4 → q ≤ i ∧ i < q + 4 :=
    ⟨max 14 (min p (38 + len)), by omega, by omega, fun i _ _ _ => by omega⟩
  obtain ⟨q, hq, hq', hsub⟩ := hinside
  have hwindow' : ∀ i, 14 ≤ i → i < 42 + len → ¬ (q ≤ i ∧ i < q + 4) →
      masked b i = masked b' i :=
    fun i h₀ h₁ hi => hwindow i h₀ h₁ fun hp => hi (hsub i h₀ h₁ hp)
  intro hsame
  have hbytes := (roceIcrc_eq_iff_window hq hq' hwindow').mp hsame
  obtain ⟨i, h₀, h₁, hne⟩ := hdiff
  by_cases hi : q ≤ i ∧ i < q + 4
  · exact hne (ByteMem.apply_eq_of_ldBytes_eq hbytes hi.1 hi.2)
  · exact hne (hwindow' i h₀ h₁ hi)

/-- Of the bytes that are summed and not masked, the packets differ in a field of at most
four bytes only. -/
def DifferInField (m m' : Mbuf) (len lo hi : Nat) : Prop :=
  ∀ i, 14 ≤ i → i < 42 + len → ¬ IsMasked i → ¬ (lo ≤ i ∧ i < hi) → m.data i = m'.data i

/-- A field that changes changes the ICRC. -/
theorem roceIcrc_ne_of_field {m m' : Mbuf} {len lo hi : Nat} (hlo : 14 ≤ lo)
    (hhi : hi ≤ 42 + len) (hwidth : hi ≤ lo + 4)
    (hfield : ∀ i, lo ≤ i → i < hi → ¬ IsMasked i) (honly : DifferInField m m' len lo hi)
    (hne : ∃ i, lo ≤ i ∧ i < hi ∧ m.data i ≠ m'.data i) :
    (roceIcrc m.data len).1 ≠ (roceIcrc m'.data len).1 := by
  refine roceIcrc_ne_of_window (p := lo) (fun i h₀ h₁ hi => masked_congr fun hm => ?_) ?_
  · exact honly i h₀ h₁ hm fun h => hi ⟨h.1, by omega⟩
  · obtain ⟨i, h₀, h₁, hi⟩ := hne
    refine ⟨i, by omega, by omega, ?_⟩
    rwa [masked_apply_of_not _ (hfield i h₀ h₁), masked_apply_of_not _ (hfield i h₀ h₁)]

/-- A 32-bit field that differs differs in a byte. -/
theorem exists_ne_of_ld32_ne {b b' : ByteMem} {off : Nat} (h : b.ld32 off ≠ b'.ld32 off) :
    ∃ i, off ≤ i ∧ i < off + 4 ∧ b i ≠ b' i := by
  by_contra hall
  simp only [not_exists, not_and, ne_eq, not_not] at hall
  refine h (ByteMem.ldBytes_four_eq_iff.mp (ByteMem.ldBytes_congr fun i h₀ h₁ => ?_))
  exact hall i h₀ h₁

/-- A 24-bit field that differs differs in a byte. -/
theorem exists_ne_of_ld24_ne {b b' : ByteMem} {off : Nat}
    (h : 65536 * b.ld8 off + 256 * b.ld8 (off + 1) + b.ld8 (off + 2) ≠
      65536 * b'.ld8 off + 256 * b'.ld8 (off + 1) + b'.ld8 (off + 2)) :
    ∃ i, off ≤ i ∧ i < off + 3 ∧ b i ≠ b' i := by
  by_contra hall
  simp only [not_exists, not_and, ne_eq, not_not] at hall
  refine h ?_
  simp only [ByteMem.ld8]
  rw [hall off le_rfl (by omega), hall (off + 1) (by omega) (by omega),
    hall (off + 2) (by omega) (by omega)]

/-- Packets of one length whose masked images are different, but differ only within four
bytes next to each other, have different ICRCs.  So the ICRC changes with either
address, with the QPN and with the PSN. -/
theorem roceIcrc_detects_window (len : Nat) :
    (∀ (b b' : ByteMem) (p : Nat),
      (∀ i, 14 ≤ i → i < 42 + len → ¬ (p ≤ i ∧ i < p + 4) → masked b i = masked b' i) →
      (∃ i, 14 ≤ i ∧ i < 42 + len ∧ masked b i ≠ masked b' i) →
      (roceIcrc b len).1 ≠ (roceIcrc b' len).1) ∧
    ∀ m m' : Mbuf, 12 ≤ len →
      DifferInField m m' len 26 30 ∧ m.ipSrcAddr ≠ m'.ipSrcAddr ∨
        DifferInField m m' len 30 34 ∧ m.ipDstAddr ≠ m'.ipDstAddr ∨
        DifferInField m m' len 47 50 ∧ m.bthGetQpn ≠ m'.bthGetQpn ∨
        DifferInField m m' len 51 54 ∧ m.bthGetPsn ≠ m'.bthGetPsn →
      (roceIcrc m.data len).1 ≠ (roceIcrc m'.data len).1 := by
  refine ⟨fun b b' p => roceIcrc_ne_of_window, fun m m' hlen h => ?_⟩
  rcases h with ⟨honly, hne⟩ | ⟨honly, hne⟩ | ⟨honly, hne⟩ | ⟨honly, hne⟩
  · exact roceIcrc_ne_of_field (by decide) (by omega) (by decide)
      (fun i _ _ => by unfold IsMasked; omega) honly (exists_ne_of_ld32_ne hne)
  · exact roceIcrc_ne_of_field (by decide) (by omega) (by decide)
      (fun i _ _ => by unfold IsMasked; omega) honly (exists_ne_of_ld32_ne hne)
  · exact roceIcrc_ne_of_field (by decide) (by omega) (by decide)
      (fun i _ _ => by unfold IsMasked; omega) honly (exists_ne_of_ld24_ne hne)
  · exact roceIcrc_ne_of_field (by decide) (by omega) (by decide)
      (fun i _ _ => by unfold IsMasked; omega) honly (exists_ne_of_ld24_ne hne)

/-- The last byte of a packet of any length is flipped, and a PSN is changed. -/
theorem roceIcrc_detects_window_flipped (len : Nat) :
    (roceIcrc (fun _ => 0) (len + 12)).1 ≠
      (roceIcrc (ByteMem.st8 (fun _ => 0) (53 + len) 1) (len + 12)).1 ∧
    (roceIcrc (fun _ => 0) (len + 12)).1 ≠ (roceIcrc (bthSetPsn (fun _ => 0) 5) (len + 12)).1 := by
  obtain ⟨hwindow, hfield⟩ := roceIcrc_detects_window (len + 12)
  have hlast : ¬ IsMasked (53 + len) := by
    unfold IsMasked
    omega
  constructor
  · refine hwindow _ _ (53 + len) (fun i _ _ hi => masked_congr fun _ => ?_) ?_
    · simp [ByteMem.st8, show i ≠ 53 + len by omega]
    · refine ⟨53 + len, by omega, by omega, ?_⟩
      rw [masked_apply_of_not _ hlast, masked_apply_of_not _ hlast]
      simp [ByteMem.st8]
  · refine hfield ⟨0, 0, 0, fun _ => 0⟩ ⟨0, 0, 0, bthSetPsn (fun _ => 0) 5⟩ (by omega)
      (Or.inr (Or.inr (Or.inr ⟨fun i _ _ _ hi => ?_, by decide⟩)))
    simp [bthSetPsn, ByteMem.st8, show i ≠ 53 by omega]

end RdmaGateway.Wire
