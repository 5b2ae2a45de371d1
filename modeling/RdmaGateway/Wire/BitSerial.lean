/-
  Wire/BitSerial.lean --- the CRC-32 of `src/crc32c.c` against its definition.

  `bitSerialCrc` is the reflected CRC-32 one bit at a time; it mentions no table.
  The loops that fill `crc32_table` and `crc32_slice` are here as loops over an
  array, and `Wire.Crc32` reads the arrays by a formula for their entries;
  `crc32TableLoop_apply` and `crc32SliceLoop_apply` say that the loops store it.
-/
import RdmaGateway.Wire.Crc32

set_option autoImplicit false

namespace RdmaGateway.Wire

open RdmaGateway.Foundation

/-! ## One bit at a time -/

/-- Shift the register right and xor the polynomial if a one was shifted out. -/
def bitSerialStep (c : BitVec 32) : BitVec 32 :=
  if c.getLsbD 0 then c >>> 1 ^^^ 0xEDB88320 else c >>> 1

/-- Xor a byte into the low byte of the register, then take eight steps. -/
def bitSerialByte (c : BitVec 32) (d : UInt8) : BitVec 32 :=
  bitSerialStep^[8] (c ^^^ d.toBitVec.setWidth 32)

/-- The bit-serial reflected CRC-32 with polynomial `0xEDB88320`. -/
def bitSerialCrc (seed : BitVec 32) (data : List UInt8) : BitVec 32 :=
  data.foldl bitSerialByte seed

theorem bitSerialStep_eq (c : BitVec 32) : bitSerialStep c = crcShift crcPoly c := by
  unfold bitSerialStep crcShift
  cases c.getLsbD 0 with
  | true => rfl
  | false => simp

theorem crcByte_eq (d : UInt8) : crcByte d = d.toBitVec.setWidth 32 := by
  apply BitVec.eq_of_toNat_eq
  rw [crcByte, BitVec.toNat_ofNat, BitVec.toNat_setWidth]
  rfl

theorem bitSerialCrc_feed (seed : BitVec 32) (data : List UInt8) :
    bitSerialCrc seed data = crcFeed crcPoly seed (data.map crcByte) := by
  have hbyte : ∀ c d, bitSerialByte c d = crcOctet crcPoly (c ^^^ crcByte d) := by
    intro c d
    rw [bitSerialByte, funext bitSerialStep_eq, crcByte_eq]
    rfl
  rw [bitSerialCrc, crcFeed, List.foldl_map, funext fun c => funext (hbyte c)]

/-! ## The loops that fill the tables -/

/-- `init_crc32_table` on the array `crc32_table`; `initCrc32Table i` is the loop of
eight rounds. -/
def crc32TableLoop (crc32Table : Nat → BitVec 32) : Nat → BitVec 32 :=
  (List.range 256).foldl (fun table i => Function.update table i (initCrc32Table i)) crc32Table

/-- Store one entry of `crc32_slice`. -/
def sliceStore (slice : Nat → Nat → BitVec 32) (n i : Nat) (c : BitVec 32) :
    Nat → Nat → BitVec 32 :=
  Function.update slice n (Function.update (slice n) i c)

/-- One round of the inner loop of `init_crc32_slice`, on the array and `c`. -/
def sliceRow (i : Nat) (s : (Nat → Nat → BitVec 32) × BitVec 32) (n : Nat) :
    (Nat → Nat → BitVec 32) × BitVec 32 :=
  let c := s.1 0 (lowByte s.2) ^^^ (s.2 >>> 8)
  (sliceStore s.1 n i c, c)

/-- One round of the second loop: rows 1 to 7 of column `i`. -/
def sliceColumn (slice : Nat → Nat → BitVec 32) (i : Nat) : Nat → Nat → BitVec 32 :=
  ((List.range' 1 7).foldl (sliceRow i) (slice, slice 0 i)).1

/-- `init_crc32_slice` on the array `crc32_slice`. -/
def crc32SliceLoop (crc32Slice : Nat → Nat → BitVec 32) : Nat → Nat → BitVec 32 :=
  let slice := (List.range 256).foldl (fun slice i => sliceStore slice 0 i (initCrc32Table i))
    crc32Slice
  (List.range 256).foldl sliceColumn slice

theorem lowByte_lt (c : BitVec 32) : lowByte c < 256 := by
  rw [lowByte, BitVec.toNat_and]
  exact Nat.lt_succ_of_le Nat.and_le_right

theorem sliceStore_apply (slice : Nat → Nat → BitVec 32) (n i : Nat) (c : BitVec 32) (m j : Nat) :
    sliceStore slice n i c m j = if m = n ∧ j = i then c else slice m j := by
  unfold sliceStore
  by_cases hm : m = n
  · subst hm
    by_cases hj : j = i
    · subst hj
      simp
    · simp [hj]
  · simp [hm]

/-- Row 0 after `k` rounds of the first loop. -/
theorem sliceFirst_foldl (slice : Nat → Nat → BitVec 32) (k m j : Nat) :
    (List.range k).foldl (fun slice i => sliceStore slice 0 i (initCrc32Table i)) slice m j =
      if m = 0 ∧ j < k then initCrc32Table j else slice m j := by
  induction k with
  | zero => simp
  | succ k ih =>
    rw [List.range_succ, List.foldl_append, List.foldl_cons, List.foldl_nil, sliceStore_apply, ih]
    by_cases hj : j = k
    · subst hj
      by_cases hm : m = 0
      · simp [hm]
      · simp [hm]
    · simp only [hj, and_false, if_false, show j < k + 1 ↔ j < k by omega]

/-- Entry `i` of `crc32_table`. -/
theorem crc32TableLoop_apply (table : Nat → BitVec 32) {i : Nat} (hi : i < 256) :
    crc32TableLoop table i = initCrc32Table i := by
  have hfill : ∀ k, (List.range k).foldl
      (fun table i => Function.update table i (initCrc32Table i)) table i =
        if i < k then initCrc32Table i else table i := by
    intro k
    induction k with
    | zero => simp
    | succ k ih =>
      rw [List.range_succ, List.foldl_append, List.foldl_cons, List.foldl_nil]
      by_cases hik : i = k
      · subst hik
        simp
      · rw [Function.update_of_ne hik, ih]
        simp only [show i < k + 1 ↔ i < k by omega]
  rw [crc32TableLoop, hfill, if_pos hi]

/-- After `k` rounds of the inner loop rows `1` to `k` of column `i` are filled, and
nothing else has changed. -/
theorem sliceRow_foldl {slice : Nat → Nat → BitVec 32}
    (hrow : ∀ j < 256, slice 0 j = initCrc32Table j) (i k : Nat) :
    let s := (List.range' 1 k).foldl (sliceRow i) (slice, initCrc32Table i)
    s.2 = initCrc32Slice k i ∧
      ∀ m j, s.1 m j = if (1 ≤ m ∧ m ≤ k) ∧ j = i then initCrc32Slice m j else slice m j := by
  induction k with
  | zero =>
    refine ⟨rfl, fun m j => ?_⟩
    rw [if_neg (by omega)]
    rfl
  | succ k ih =>
    obtain ⟨hc, hslice⟩ := ih
    rw [List.range'_concat, List.foldl_append, List.foldl_cons, List.foldl_nil]
    generalize (List.range' 1 k).foldl (sliceRow i) (slice, initCrc32Table i) = s at hc hslice ⊢
    have hnext : s.1 0 (lowByte s.2) ^^^ (s.2 >>> 8) = initCrc32Slice (k + 1) i := by
      rw [hslice, if_neg (by omega), hrow _ (lowByte_lt _), hc]
      rfl
    refine ⟨hnext, fun m j => ?_⟩
    have hstore : (sliceRow i s (1 + 1 * k)).1 m j =
        if m = k + 1 ∧ j = i then initCrc32Slice (k + 1) i else s.1 m j := by
      change sliceStore s.1 (1 + 1 * k) i (s.1 0 (lowByte s.2) ^^^ (s.2 >>> 8)) m j = _
      rw [hnext, sliceStore_apply, Nat.one_mul, Nat.add_comm]
    rw [hstore, hslice]
    by_cases hj : j = i
    · subst hj
      by_cases hm : m = k + 1
      · subst hm
        rw [if_pos ⟨rfl, rfl⟩, if_pos (by omega)]
      · simp only [hm, false_and, if_false, show m ≤ k + 1 ↔ m ≤ k by omega]
    · simp [hj]

/-- After `k` rounds of the second loop the first `k` columns are filled. -/
theorem sliceColumn_foldl {slice : Nat → Nat → BitVec 32}
    (hrow : ∀ j < 256, slice 0 j = initCrc32Table j) {k : Nat} (hk : k ≤ 256) (m j : Nat) :
    (List.range k).foldl sliceColumn slice m j =
      if (1 ≤ m ∧ m ≤ 7) ∧ j < k then initCrc32Slice m j else slice m j := by
  induction k generalizing m j with
  | zero => simp
  | succ k ih =>
    rw [List.range_succ, List.foldl_append, List.foldl_cons, List.foldl_nil]
    generalize (List.range k).foldl sliceColumn slice = t at ih ⊢
    have ht := ih (by omega)
    have hrow' : ∀ j < 256, t 0 j = initCrc32Table j := by
      intro j hj
      rw [ht, if_neg (by omega), hrow j hj]
    rw [sliceColumn, hrow' k (by omega), (sliceRow_foldl hrow' k 7).2 m j, ht]
    by_cases hj : j = k
    · subst hj
      simp
    · simp only [hj, and_false, if_false, show j < k + 1 ↔ j < k by omega]

/-- Entry `i` of row `n` of `crc32_slice`. -/
theorem crc32SliceLoop_apply (slice : Nat → Nat → BitVec 32) {n i : Nat} (hn : n < 8)
    (hi : i < 256) : crc32SliceLoop slice n i = initCrc32Slice n i := by
  have hrow : ∀ j < 256, (List.range 256).foldl
      (fun slice i => sliceStore slice 0 i (initCrc32Table i)) slice 0 j = initCrc32Table j := by
    intro j hj
    rw [sliceFirst_foldl, if_pos ⟨rfl, hj⟩]
  rw [crc32SliceLoop, sliceColumn_foldl hrow le_rfl, sliceFirst_foldl]
  cases n with
  | zero =>
    rw [if_neg (by omega), if_pos ⟨rfl, hi⟩]
    rfl
  | succ n => rw [if_pos (by omega)]

/-! ## The three are one function -/

/-- The loops store the entries that `crc32_le` and `crc32_le_slice8` are read with, and
both functions compute the bit-serial CRC-32, for every seed and every string of bytes. -/
theorem crc32_is_bitSerial :
    (∀ table i, i < 256 → crc32TableLoop table i = initCrc32Table i) ∧
    (∀ slice n i, n < 8 → i < 256 → crc32SliceLoop slice n i = initCrc32Slice n i) ∧
    ∀ (seed : BitVec 32) (data : List UInt8),
      crc32LeSlice8 seed data = crc32Le seed data ∧
        crc32Le seed data = bitSerialCrc seed data := by
  refine ⟨fun table i hi => crc32TableLoop_apply table hi,
    fun slice n i hn hi => crc32SliceLoop_apply slice hn hi, fun seed data => ⟨?_, ?_⟩⟩
  · rw [crc32LeSlice8_feed, crc32Le_feed]
  · rw [crc32Le_feed, bitSerialCrc_feed]

/-- The last entries of the tables, and the check value of CRC-32: the sum over the
digits 1 to 9 in ASCII. -/
theorem crc32_is_bitSerial_check :
    crc32TableLoop (fun _ => 0) 255 = 0x2D02EF8D ∧
    crc32SliceLoop (fun _ _ => 0) 7 255 = 0x264B06E6 ∧
    ~~~ crc32LeSlice8 0xFFFFFFFF [0x31, 0x32, 0x33, 0x34, 0x35, 0x36, 0x37, 0x38, 0x39] =
      0xCBF43926 ∧
    bitSerialCrc 0xFFFFFFFF [0x31, 0x32, 0x33, 0x34, 0x35, 0x36, 0x37, 0x38, 0x39] =
      ~~~ 0xCBF43926 := by
  obtain ⟨htable, hslice, hsum⟩ := crc32_is_bitSerial
  obtain ⟨hplain, hserial⟩ := hsum 0xFFFFFFFF
    [0x31, 0x32, 0x33, 0x34, 0x35, 0x36, 0x37, 0x38, 0x39]
  refine ⟨?_, ?_, ?_, ?_⟩
  · rw [htable _ 255 (by decide)]
    decide +kernel
  · rw [hslice _ 7 255 (by decide) (by decide)]
    decide +kernel
  · rw [hplain]
    decide +kernel
  · rw [← hserial]
    decide +kernel

end RdmaGateway.Wire
