/-
  Wire/Crc32.lean --- the CRC-32 of `src/crc32c.c` and the RoCEv2 ICRC of
  `src/wan_tunnel.c`.

  The tables are functions of their index here: entry `i` is what
  `init_crc32_table` and `init_crc32_slice` store at `i`.  `roce_icrc` writes into
  the packet it reads and puts the old values back, so it returns the memory it
  leaves next to its value; `roceIcrc_mem` says that this is the memory it got.
-/
import RdmaGateway.Foundation.Crc
import RdmaGateway.Wire.Mbuf

set_option autoImplicit false

namespace RdmaGateway.Wire

open RdmaGateway.Foundation

/-- One round of the table loop: shift out a bit, xor the polynomial if it was set. -/
def crcRound (c : BitVec 32) : BitVec 32 :=
  if c &&& 1 ≠ 0 then 0xEDB88320 ^^^ (c >>> 1) else c >>> 1

/-- `init_crc32_table`, entry `i`. -/
def initCrc32Table (i : Nat) : BitVec 32 :=
  (List.range 8).foldl (fun c _ => crcRound c) (BitVec.ofNat 32 i)

/-- The low byte of a word as a table index. -/
def lowByte (c : BitVec 32) : Nat := (c &&& 0xFF).toNat

/-- A byte of the data as a 32-bit word. -/
def crcByte (d : UInt8) : BitVec 32 := BitVec.ofNat 32 d.toNat

/-- `crc32_le`. -/
def crc32Le (crc : BitVec 32) (data : List UInt8) : BitVec 32 :=
  data.foldl (fun crc d => initCrc32Table (lowByte (crc ^^^ crcByte d)) ^^^ (crc >>> 8)) crc

/-- `init_crc32_slice`, entry `i` of row `n`. -/
def initCrc32Slice : Nat → Nat → BitVec 32
  | 0, i => initCrc32Table i
  | n + 1, i =>
    let c := initCrc32Slice n i
    initCrc32Table (lowByte c) ^^^ (c >>> 8)

/-- Four bytes as a little-endian word. -/
def crcWord (d₀ d₁ d₂ d₃ : UInt8) : BitVec 32 :=
  crcByte d₀ ||| (crcByte d₁ <<< 8) ||| (crcByte d₂ <<< 16) ||| (crcByte d₃ <<< 24)

/-- `crc32_le_slice8`. -/
def crc32LeSlice8 (crc : BitVec 32) : List UInt8 → BitVec 32
  | d₀ :: d₁ :: d₂ :: d₃ :: d₄ :: d₅ :: d₆ :: d₇ :: data =>
    let crc := crc ^^^ crcWord d₀ d₁ d₂ d₃
    let t := crcWord d₄ d₅ d₆ d₇
    crc32LeSlice8
      (initCrc32Slice 7 (lowByte crc) ^^^ initCrc32Slice 6 (lowByte (crc >>> 8)) ^^^
        initCrc32Slice 5 (lowByte (crc >>> 16)) ^^^ initCrc32Slice 4 (lowByte (crc >>> 24)) ^^^
        initCrc32Slice 3 (lowByte t) ^^^ initCrc32Slice 2 (lowByte (t >>> 8)) ^^^
        initCrc32Slice 1 (lowByte (t >>> 16)) ^^^ initCrc32Slice 0 (lowByte (t >>> 24)))
      data
  | data =>
    data.foldl (fun crc d => initCrc32Slice 0 (lowByte (crc ^^^ crcByte d)) ^^^ (crc >>> 8)) crc

/-- `roce_icrc` on the headers at bytes 14, 34 and 42: the value and the memory
it leaves. -/
def roceIcrc (b : ByteMem) (bthPayloadLen : Nat) : Nat × ByteMem :=
  let tos := b.ld8 15
  let ttl := b.ld8 22
  let b4 := b.ld8 46
  let ipck := b.ld16 24
  let udpck := b.ld16 40
  let b := b.st8 15 0xff
  let b := b.st8 22 0xff
  let b := b.st16 24 0xffff
  let b := b.st16 40 0xffff
  let b := b.st8 46 0xff
  let crc := crc32LeSlice8 0xdebb20e3 (b.ldBytes 14 (28 + bthPayloadLen))
  let b := b.st8 15 tos
  let b := b.st8 22 ttl
  let b := b.st16 24 ipck
  let b := b.st16 40 udpck
  let b := b.st8 46 b4
  ((~~~ crc).toNat, b)

/-- Two memories that agree on every load of a byte are equal. -/
theorem byteMem_ext {b b' : ByteMem} (h : ∀ i, b.ld8 i = b'.ld8 i) : b = b' := by
  funext i
  exact UInt8.toNat_inj.mp (h i)

/-- `roce_icrc` puts back every byte it overwrites. -/
theorem roceIcrc_mem (b : ByteMem) (len : Nat) : (roceIcrc b len).2 = b := by
  refine byteMem_ext fun i => ?_
  have h₀ := b.ld8_lt 15
  have h₁ := b.ld8_lt 22
  have h₂ := b.ld8_lt 46
  have h₃ := b.ld8_lt 24
  have h₄ := b.ld8_lt 25
  have h₅ := b.ld8_lt 40
  have h₆ := b.ld8_lt 41
  simp only [roceIcrc, ByteMem.ld8_st8, ByteMem.ld8_st16, ByteMem.ld16, Nat.reduceAdd]
  split_ifs <;> subst_vars <;> omega

/-! ## The tables as shifts of a register -/

/-- The polynomial of IEEE CRC-32, reflected. -/
def crcPoly : BitVec 32 := 0xEDB88320

theorem crcPoly_top : crcPoly.getLsbD 31 = true := by decide

theorem crcRound_eq (c : BitVec 32) : crcRound c = crcShift crcPoly c := by
  have hlow : c &&& 1 ≠ 0 ↔ c.getLsbD 0 = true := by
    rw [BitVec.ofNat_eq_ofNat, BitVec.and_one_eq_setWidth_ofBool_getLsbD]
    cases c.getLsbD 0 <;> decide
  unfold crcRound crcShift
  by_cases h : c.getLsbD 0 = true
  · rw [if_pos (hlow.mpr h), h, cond_true, BitVec.xor_comm]
    rfl
  · rw [if_neg (hlow.not.mpr h), Bool.eq_false_iff.mpr h, cond_false, BitVec.ofNat_eq_ofNat,
      BitVec.xor_zero]

theorem initCrc32Table_eq (i : Nat) :
    initCrc32Table i = crcOctet crcPoly (BitVec.ofNat 32 i) := by
  rw [initCrc32Table, List.foldl_const, crcOctet, funext crcRound_eq]
  rfl

theorem ofNat_lowByte (c : BitVec 32) : BitVec.ofNat 32 (lowByte c) = c &&& 255#32 := by
  rw [lowByte, BitVec.ofNat_toNat, BitVec.setWidth_eq]
  rfl

/-- A table lookup and a shift are eight shifts. -/
theorem table_step (c : BitVec 32) :
    initCrc32Table (lowByte c) ^^^ (c >>> 8) = crcOctet crcPoly c := by
  rw [initCrc32Table_eq, ofNat_lowByte, ← crcOctet_low]

theorem initCrc32Slice_eq (n i : Nat) :
    initCrc32Slice n i = (crcOctet crcPoly)^[n + 1] (BitVec.ofNat 32 i) := by
  induction n with
  | zero => exact initCrc32Table_eq i
  | succ n ih =>
    rw [initCrc32Slice, table_step, ih, Function.iterate_succ_apply' _ (n + 1)]

theorem crcByte_lt (d : UInt8) : (crcByte d).toNat < 256 := by
  have hlt := d.toNat_lt
  rw [crcByte, BitVec.toNat_ofNat]
  omega

/-- One byte of the data. -/
theorem byte_step (crc : BitVec 32) (d : UInt8) :
    initCrc32Table (lowByte (crc ^^^ crcByte d)) ^^^ (crc >>> 8) =
      crcOctet crcPoly (crc ^^^ crcByte d) := by
  have hout : crcByte d >>> 8 = 0#32 := by
    apply BitVec.eq_of_toNat_eq
    rw [BitVec.toNat_ushiftRight, Nat.shiftRight_eq_div_pow]
    exact Nat.div_eq_of_lt (crcByte_lt d)
  rw [← table_step, BitVec.ushiftRight_xor_distrib, hout, BitVec.xor_zero]

/-- `crc32_le` feeds the bytes one after the other. -/
theorem crc32Le_feed (crc : BitVec 32) (data : List UInt8) :
    crc32Le crc data = crcFeed crcPoly crc (data.map crcByte) := by
  rw [crc32Le, crcFeed, List.foldl_map]
  simp only [byte_step]

theorem crcByte_getLsbD (d : UInt8) (i : Nat) : (crcByte d).getLsbD i = d.toNat.testBit i := by
  have hnat : (crcByte d).toNat = d.toNat :=
    Nat.mod_eq_of_lt (Nat.lt_of_lt_of_le d.toNat_lt (by decide))
  rw [← BitVec.testBit_toNat, hnat]

theorem testBit_octet (d : UInt8) {i : Nat} (hi : 8 ≤ i) : d.toNat.testBit i = false :=
  Nat.testBit_lt_two_pow
    (Nat.lt_of_lt_of_le d.toNat_lt (Nat.pow_le_pow_right (n := 2) (by decide) hi))

/-- The bits of a word, byte by byte. -/
theorem crcWord_getLsbD (d₀ d₁ d₂ d₃ : UInt8) {i : Nat} (hi : i < 8) :
    (crcWord d₀ d₁ d₂ d₃).getLsbD i = d₀.toNat.testBit i ∧
      (crcWord d₀ d₁ d₂ d₃).getLsbD (8 + i) = d₁.toNat.testBit i ∧
      (crcWord d₀ d₁ d₂ d₃).getLsbD (16 + i) = d₂.toNat.testBit i ∧
      (crcWord d₀ d₁ d₂ d₃).getLsbD (24 + i) = d₃.toNat.testBit i := by
  simp only [crcWord, BitVec.getLsbD_or, BitVec.getLsbD_shiftLeft, crcByte_getLsbD]
  refine ⟨?_, ?_, ?_, ?_⟩
  · simp [hi, show i < 16 by omega, show i < 24 by omega]
  · simp [testBit_octet d₀ (show 8 ≤ 8 + i by omega), show 8 + i < 32 by omega,
      show 8 + i < 16 by omega, show 8 + i < 24 by omega]
  · simp [testBit_octet d₀ (show 8 ≤ 16 + i by omega),
      testBit_octet d₁ (show 8 ≤ 16 + i - 8 by omega), show 16 + i < 32 by omega,
      show 16 + i < 24 by omega]
  · simp [testBit_octet d₀ (show 8 ≤ 24 + i by omega),
      testBit_octet d₁ (show 8 ≤ 24 + i - 8 by omega),
      testBit_octet d₂ (show 8 ≤ 24 + i - 16 by omega), show 24 + i < 32 by omega]

theorem octet_ext {d d' : UInt8} (h : ∀ i < 8, d.toNat.testBit i = d'.toNat.testBit i) :
    d = d' := by
  refine UInt8.toNat_inj.mp (Nat.eq_of_testBit_eq fun i => ?_)
  by_cases hi : i < 8
  · exact h i hi
  · rw [testBit_octet d (by omega), testBit_octet d' (by omega)]

theorem crcWord_injective {d₀ d₁ d₂ d₃ d₀' d₁' d₂' d₃' : UInt8}
    (h : crcWord d₀ d₁ d₂ d₃ = crcWord d₀' d₁' d₂' d₃') :
    [d₀, d₁, d₂, d₃] = [d₀', d₁', d₂', d₃'] := by
  have hbits : ∀ i < 8, d₀.toNat.testBit i = d₀'.toNat.testBit i ∧
      d₁.toNat.testBit i = d₁'.toNat.testBit i ∧ d₂.toNat.testBit i = d₂'.toNat.testBit i ∧
      d₃.toNat.testBit i = d₃'.toNat.testBit i := by
    intro i hi
    obtain ⟨e₀, e₁, e₂, e₃⟩ := crcWord_getLsbD d₀ d₁ d₂ d₃ hi
    obtain ⟨e₀', e₁', e₂', e₃'⟩ := crcWord_getLsbD d₀' d₁' d₂' d₃' hi
    rw [h] at e₀ e₁ e₂ e₃
    exact ⟨e₀.symm.trans e₀', e₁.symm.trans e₁', e₂.symm.trans e₂', e₃.symm.trans e₃'⟩
  rw [octet_ext fun i hi => (hbits i hi).1, octet_ext fun i hi => (hbits i hi).2.1,
    octet_ext fun i hi => (hbits i hi).2.2.1, octet_ext fun i hi => (hbits i hi).2.2.2]

/-- The four bytes of a word do not overlap. -/
theorem crcWord_eq (d₀ d₁ d₂ d₃ : UInt8) :
    crcWord d₀ d₁ d₂ d₃ =
      crcByte d₀ ^^^ crcByte d₁ <<< 8 ^^^ crcByte d₂ <<< 16 ^^^ crcByte d₃ <<< 24 := by
  refine BitVec.eq_of_getLsbD_eq fun i hi => ?_
  simp only [crcWord, BitVec.getLsbD_or, BitVec.getLsbD_xor, BitVec.getLsbD_shiftLeft, hi,
    decide_true, Bool.true_and, crcByte_getLsbD]
  obtain h | h | h | h : i < 8 ∨ (8 ≤ i ∧ i < 16) ∨ (16 ≤ i ∧ i < 24) ∨ 24 ≤ i := by omega
  · simp [h, show i < 16 by omega, show i < 24 by omega]
  · simp [testBit_octet d₀ h.1, h.2, show i < 24 by omega]
  · simp [testBit_octet d₀ (show 8 ≤ i by omega), testBit_octet d₁ (show 8 ≤ i - 8 by omega), h.2,
      show ¬ i < 8 by omega]
  · simp [testBit_octet d₀ (show 8 ≤ i by omega), testBit_octet d₁ (show 8 ≤ i - 8 by omega),
      testBit_octet d₂ (show 8 ≤ i - 16 by omega), show ¬ i < 8 by omega, show ¬ i < 16 by omega]

/-- Four bytes at once. -/
theorem crcFeed_crcWord (c : BitVec 32) (d₀ d₁ d₂ d₃ : UInt8) :
    crcFeed crcPoly c [crcByte d₀, crcByte d₁, crcByte d₂, crcByte d₃] =
      (crcOctet crcPoly)^[4] (c ^^^ crcWord d₀ d₁ d₂ d₃) := by
  rw [crcWord_eq, crcFeed_word _ _ (crcByte_lt d₁) (crcByte_lt d₂) (crcByte_lt d₃)]

/-- Eight table lookups feed two words. -/
theorem slice_step (x t : BitVec 32) :
    initCrc32Slice 7 (lowByte x) ^^^ initCrc32Slice 6 (lowByte (x >>> 8)) ^^^
        initCrc32Slice 5 (lowByte (x >>> 16)) ^^^ initCrc32Slice 4 (lowByte (x >>> 24)) ^^^
        initCrc32Slice 3 (lowByte t) ^^^ initCrc32Slice 2 (lowByte (t >>> 8)) ^^^
        initCrc32Slice 1 (lowByte (t >>> 16)) ^^^ initCrc32Slice 0 (lowByte (t >>> 24)) =
      (crcOctet crcPoly)^[4] ((crcOctet crcPoly)^[4] x ^^^ t) := by
  have hx := iterate_crcOctet_octets crcPoly 4 x
  have ht := iterate_crcOctet_octets crcPoly 0 t
  rw [iterate_xor (crcOctet_xor crcPoly), ← Function.iterate_add_apply]
  simp only [initCrc32Slice_eq, ofNat_lowByte, Nat.reduceAdd, Nat.zero_add] at hx ht ⊢
  rw [hx, ht]
  simp only [BitVec.xor_assoc]

/-- `crc32_le_slice8` feeds the bytes one after the other. -/
theorem crc32LeSlice8_feed (crc : BitVec 32) (data : List UInt8) :
    crc32LeSlice8 crc data = crcFeed crcPoly crc (data.map crcByte) := by
  induction crc, data using crc32LeSlice8.induct with
  | case1 crc d₀ d₁ d₂ d₃ d₄ d₅ d₆ d₇ data x t ih =>
    rw [crc32LeSlice8, ih, slice_step]
    have hfirst := crcFeed_crcWord crc d₀ d₁ d₂ d₃
    have hsecond := crcFeed_crcWord (crcFeed crcPoly crc
      [crcByte d₀, crcByte d₁, crcByte d₂, crcByte d₃]) d₄ d₅ d₆ d₇
    rw [hfirst] at hsecond
    rw [← hsecond, ← hfirst]
    rfl
  | case2 crc data hshort =>
    rw [crc32LeSlice8, crcFeed, List.foldl_map]
    · simp only [initCrc32Slice, byte_step]
    · exact hshort

/-- Two messages that differ in four bytes next to each other have different
checksums. -/
theorem crc32LeSlice8_window (crc : BitVec 32) (xs zs : List UInt8) {ys ys' : List UInt8}
    (hlen : ys.length = 4) (hlen' : ys'.length = 4) :
    crc32LeSlice8 crc (xs ++ ys ++ zs) = crc32LeSlice8 crc (xs ++ ys' ++ zs) ↔ ys = ys' := by
  refine ⟨fun h => ?_, fun h => by rw [h]⟩
  obtain ⟨d₀, d₁, d₂, d₃, rfl⟩ := List.length_eq_four.mp hlen
  obtain ⟨d₀', d₁', d₂', d₃', rfl⟩ := List.length_eq_four.mp hlen'
  simp only [crc32LeSlice8_feed, List.map_append, crcFeed, List.foldl_append] at h
  have hstate := crcFeed_injective crcPoly_top (zs.map crcByte) h
  have hword : ∀ c, crcFeed crcPoly c ([d₀, d₁, d₂, d₃].map crcByte) =
      crcFeed crcPoly c ([d₀', d₁', d₂', d₃'].map crcByte) →
      crcWord d₀ d₁ d₂ d₃ = crcWord d₀' d₁' d₂' d₃' := by
    intro c hc
    simp only [List.map_cons, List.map_nil, crcFeed_crcWord] at hc
    exact (BitVec.xor_right_inj c).mp ((crcOctet_injective crcPoly_top).iterate 4 hc)
  exact crcWord_injective (hword _ hstate)

end RdmaGateway.Wire
