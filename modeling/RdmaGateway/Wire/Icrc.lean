/-
  Wire/Icrc.lean --- which bytes the RoCEv2 ICRC depends on.

  `roce_icrc` overwrites TOS, TTL, the two checksums and one byte of the BTH before it
  sums; `masked` is the packet it sums.  Every other byte counts: frames that differ in
  their source address alone have different ICRCs (`roceIcrc_eq_iff_src`).
-/
import RdmaGateway.Wire.Crc32

set_option autoImplicit false

namespace RdmaGateway.Foundation.ByteMem

theorem ldBytes_add (b : ByteMem) (off n k : Nat) :
    b.ldBytes off (n + k) = b.ldBytes off n ++ b.ldBytes (off + n) k := by
  simp [ldBytes, List.range_add, Nat.add_assoc]

theorem ldBytes_congr {b b' : ByteMem} {off n : Nat} (h : ∀ i, off ≤ i → i < off + n → b i = b' i) :
    b.ldBytes off n = b'.ldBytes off n := by
  refine List.map_congr_left fun k hk => ?_
  have hk := List.mem_range.mp hk
  exact h (off + k) (by omega) (by omega)

/-- Equal ranges are equal byte by byte. -/
theorem apply_eq_of_ldBytes_eq {b b' : ByteMem} {off n i : Nat}
    (h : b.ldBytes off n = b'.ldBytes off n) (hi : off ≤ i) (hi' : i < off + n) : b i = b' i := by
  have hget := congrArg (fun bytes => bytes[i - off]?) h
  simpa [ldBytes, show i - off < n by omega, Nat.add_sub_cancel' hi] using hget

theorem length_ldBytes (b : ByteMem) (off n : Nat) : (b.ldBytes off n).length = n := by
  simp [ldBytes]

/-- Four bytes are the same when the word that reads there is. -/
theorem ldBytes_four_eq_iff {b b' : ByteMem} {off : Nat} :
    b.ldBytes off 4 = b'.ldBytes off 4 ↔ b.ld32 off = b'.ld32 off := by
  have h : ∀ i, b i = b' i ↔ b.ld8 i = b'.ld8 i := fun i => UInt8.toNat_inj.symm
  have hlt : ∀ i, b.ld8 i < 256 ∧ b'.ld8 i < 256 := fun i => ⟨b.ld8_lt i, b'.ld8_lt i⟩
  have h₀ := hlt off
  have h₁ := hlt (off + 1)
  have h₂ := hlt (off + 2)
  have h₃ := hlt (off + 3)
  simp only [ldBytes, List.range, List.range.loop, List.map_cons, List.map_nil, List.cons.injEq,
    and_true, h, ld32, Nat.add_zero]
  omega

end RdmaGateway.Foundation.ByteMem

namespace RdmaGateway.Wire

open RdmaGateway.Foundation

/-! ## The bytes that are summed -/

/-- The packet while `roce_icrc` sums it. -/
def masked (b : ByteMem) : ByteMem :=
  ((((b.st8 15 0xff).st8 22 0xff).st16 24 0xffff).st16 40 0xffff).st8 46 0xff

/-- The bytes that are overwritten. -/
def IsMasked (i : Nat) : Prop :=
  i = 15 ∨ i = 22 ∨ i = 24 ∨ i = 25 ∨ i = 40 ∨ i = 41 ∨ i = 46

theorem masked_apply_of_isMasked (b : ByteMem) {i : Nat} (hi : IsMasked i) : masked b i = 0xff := by
  apply UInt8.toNat_inj.mp
  change (masked b).ld8 i = 255
  simp only [masked, ByteMem.ld8_st8, ByteMem.ld8_st16]
  rcases hi with rfl | rfl | rfl | rfl | rfl | rfl | rfl <;> simp

theorem masked_apply_of_not (b : ByteMem) {i : Nat} (hi : ¬ IsMasked i) : masked b i = b i := by
  apply UInt8.toNat_inj.mp
  change (masked b).ld8 i = b.ld8 i
  simp only [IsMasked, not_or] at hi
  simp [masked, ByteMem.ld8_st8, ByteMem.ld8_st16, hi]

theorem masked_congr {b b' : ByteMem} {i : Nat} (h : ¬ IsMasked i → b i = b' i) :
    masked b i = masked b' i := by
  by_cases hi : IsMasked i
  · rw [masked_apply_of_isMasked b hi, masked_apply_of_isMasked b' hi]
  · rw [masked_apply_of_not b hi, masked_apply_of_not b' hi, h hi]

theorem roceIcrc_fst (b : ByteMem) (len : Nat) :
    (roceIcrc b len).1 =
      (~~~ crc32LeSlice8 0xdebb20e3 ((masked b).ldBytes 14 (28 + len))).toNat := rfl

theorem roceIcrc_lt (b : ByteMem) (len : Nat) : (roceIcrc b len).1 < 4294967296 :=
  BitVec.isLt _

/-- The ICRC is a function of the bytes that are not overwritten. -/
theorem roceIcrc_congr {b b' : ByteMem} {len : Nat}
    (h : ∀ i, 14 ≤ i → i < 42 + len → ¬ IsMasked i → b i = b' i) :
    (roceIcrc b len).1 = (roceIcrc b' len).1 := by
  rw [roceIcrc_fst, roceIcrc_fst]
  congr 3
  exact ByteMem.ldBytes_congr fun i h₀ h₁ => masked_congr (h i h₀ (by omega))

/-- Packets that differ within four bytes only have one ICRC only if they do not differ
there. -/
theorem roceIcrc_eq_iff_window {b b' : ByteMem} {len p : Nat} (hp : 14 ≤ p)
    (hp' : p + 4 ≤ 42 + len)
    (h : ∀ i, 14 ≤ i → i < 42 + len → ¬ (p ≤ i ∧ i < p + 4) → masked b i = masked b' i) :
    (roceIcrc b len).1 = (roceIcrc b' len).1 ↔ (masked b).ldBytes p 4 = (masked b').ldBytes p 4 := by
  have hsplit : ∀ c : ByteMem, c.ldBytes 14 (28 + len) =
      c.ldBytes 14 (p - 14) ++ c.ldBytes p 4 ++ c.ldBytes (p + 4) (38 + len - p) := by
    intro c
    rw [show 28 + len = p - 14 + 4 + (38 + len - p) by omega, ByteMem.ldBytes_add,
      ByteMem.ldBytes_add, ← Nat.add_assoc, Nat.add_sub_cancel' hp]
  have hbefore : (masked b').ldBytes 14 (p - 14) = (masked b).ldBytes 14 (p - 14) :=
    ByteMem.ldBytes_congr fun i h₀ h₁ => (h i h₀ (by omega) (by omega)).symm
  have hafter : (masked b').ldBytes (p + 4) (38 + len - p) =
      (masked b).ldBytes (p + 4) (38 + len - p) :=
    ByteMem.ldBytes_congr fun i h₀ h₁ => (h i (by omega) (by omega) (by omega)).symm
  rw [roceIcrc_fst, roceIcrc_fst, BitVec.toNat_inj, BitVec.not_inj, hsplit (masked b),
    hsplit (masked b'), hbefore, hafter,
    crc32LeSlice8_window _ _ _ (ByteMem.length_ldBytes _ _ _) (ByteMem.length_ldBytes _ _ _)]

/-- Packets that differ in the source address alone have one ICRC only if they do not
differ. -/
theorem roceIcrc_eq_iff_src {b b' : ByteMem} {len : Nat}
    (h : ∀ i, 14 ≤ i → i < 42 + len → ¬ IsMasked i → ¬ (26 ≤ i ∧ i < 30) → b i = b' i) :
    (roceIcrc b len).1 = (roceIcrc b' len).1 ↔ b.ld32 26 = b'.ld32 26 := by
  have hsrc : ∀ c : ByteMem, (masked c).ldBytes 26 4 = c.ldBytes 26 4 := fun c =>
    ByteMem.ldBytes_congr fun i h₀ h₁ => masked_apply_of_not c (by unfold IsMasked; omega)
  rw [roceIcrc_eq_iff_window (by decide) (by omega) fun i h₀ h₁ hi =>
    masked_congr fun hm => h i h₀ h₁ hm hi, hsrc b, hsrc b', ByteMem.ldBytes_four_eq_iff]

/-! ## Frames -/

namespace Mbuf

/-- A RoCEv2 frame. -/
def isRoce (m : Mbuf) : Prop :=
  m.etherType = rteEtherTypeIpv4 ∧ m.ipProto = ipprotoUdp ∧ m.udpDstPort = wanUdpPort

/-- The last four bytes of the frame are the ICRC of the headers and the payload before
them, in network order. -/
def icrcValid (m : Mbuf) : Prop :=
  58 ≤ m.dataLen ∧
    m.data.ld32 (m.dataLen - 4) = bswap32 (roceIcrc m.data (m.dataLen - 46)).1

instance (m : Mbuf) : Decidable m.icrcValid := inferInstanceAs (Decidable (_ ∧ _))

end Mbuf

theorem bswap32_inj {v v' : Nat} (hv : v < 4294967296) (hv' : v' < 4294967296) :
    bswap32 v = bswap32 v' ↔ v = v' := by
  refine ⟨fun h => ?_, fun h => by rw [h]⟩
  have hswap := congrArg bswap32 h
  rwa [ByteMem.bswap32_bswap32, ByteMem.bswap32_bswap32, Nat.mod_eq_of_lt hv,
    Nat.mod_eq_of_lt hv'] at hswap

/-- Headers with their ICRC stored behind them. -/
theorem icrcValid_of_stored {f : Mbuf} {b : ByteMem} {len : Nat} (hlen : 12 ≤ len)
    (hdata : f.dataLen = 46 + len)
    (hbytes : ∀ i, 12 ≤ i → f.data i = b.st32 (42 + len) (bswap32 (roceIcrc b len).1) i) :
    f.icrcValid := by
  have hoff : f.dataLen - 4 = 42 + len := by omega
  have hpayload : f.dataLen - 46 = len := by omega
  refine ⟨by omega, ?_⟩
  rw [hoff, hpayload]
  have hword : f.data.ld32 (42 + len) =
      (b.st32 (42 + len) (bswap32 (roceIcrc b len).1)).ld32 (42 + len) :=
    ByteMem.ld32_congr fun k hk => hbytes k (by omega)
  have hsum : (roceIcrc f.data len).1 = (roceIcrc b len).1 := by
    refine roceIcrc_congr fun i h₀ h₁ _ => ?_
    rw [hbytes i (by omega)]
    apply UInt8.toNat_inj.mp
    change (b.st32 (42 + len) _).ld8 i = b.ld8 i
    rw [ByteMem.ld8_st32]
    repeat rw [if_neg (by omega)]
  rw [hword, hsum, ByteMem.ld32_st32, Nat.mod_eq_of_lt (ByteMem.bswap32_lt _)]

/-- A valid frame that gets another source address, and nothing else that counts, is
valid only if the address was the same. -/
theorem icrcValid_iff_src {m f : Mbuf} (hm : m.icrcValid) (hlen : f.dataLen = m.dataLen)
    (hbytes : ∀ i, 14 ≤ i → ¬ IsMasked i → ¬ (26 ≤ i ∧ i < 30) → f.data i = m.data i) :
    f.icrcValid ↔ f.data.ld32 26 = m.data.ld32 26 := by
  obtain ⟨hmin, hsum⟩ := hm
  have hword : f.data.ld32 (f.dataLen - 4) = m.data.ld32 (m.dataLen - 4) := by
    rw [hlen]
    exact ByteMem.ld32_congr fun k hk => hbytes k (by omega) (by unfold IsMasked; omega) (by omega)
  rw [Mbuf.icrcValid, hword, hsum, hlen, and_iff_right hmin,
    bswap32_inj (roceIcrc_lt _ _) (roceIcrc_lt _ _), eq_comm]
  exact roceIcrc_eq_iff_src fun i h₀ _ hi hsrc => hbytes i h₀ hi hsrc

end RdmaGateway.Wire
