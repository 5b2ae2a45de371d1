/-
  Roce/Psn.lean --- packet sequence numbers and WRITE segment types
  (`include/qp_ctx.h`, `include/common.h`, `get_segment_type` of
  `src/processor.c`).

  A PSN is a point on a circle of `2^24`.  `psnForwardDist` is transcribed from
  the source with its masks; `psnForwardDist_eq` hands it over to
  `Foundation.Circle`, and every later argument about PSN order goes through the
  lemmas there.
-/
import RdmaGateway.Foundation.Circle
import RdmaGateway.Wire.Mbuf

set_option autoImplicit false

namespace RdmaGateway.Roce

open RdmaGateway.Foundation

/-- `PSN_MASK` -/
def psnMask : Nat := 0x00FFFFFF
/-- `MAX_PSN` -/
def maxPsn : Nat := 0x01000000
/-- `0x800000`, the half range every comparison of the source uses. -/
def psnHalf : Nat := 0x800000

/-- `psn_forward_dist`. -/
def psnForwardDist (src dst : Nat) : Nat :=
  let src := src &&& psnMask
  let dst := dst &&& psnMask
  if dst ≥ src then dst - src else maxPsn - src + dst

/-- `(psn + k) & 0x00FFFFFF`. -/
def psnAdd (psn k : Nat) : Nat := (psn + k) &&& psnMask

theorem and_psnMask (x : Nat) : x &&& psnMask = x % maxPsn :=
  Nat.and_two_pow_sub_one_eq_mod x 24

theorem maxPsn_eq : maxPsn = 2 * psnHalf := rfl

/-- The distance of the source is the distance on the circle of `2^24` points. -/
theorem psnForwardDist_eq (src dst : Nat) :
    psnForwardDist src dst = Circle.dist maxPsn (src % maxPsn) (dst % maxPsn) := by
  simp only [psnForwardDist, and_psnMask, Circle.dist, ge_iff_le]

theorem psnAdd_eq (psn k : Nat) : psnAdd psn k = (psn + k) % maxPsn :=
  and_psnMask _

theorem psnAdd_lt (psn k : Nat) : psnAdd psn k < maxPsn := by
  rw [psnAdd_eq]
  exact Nat.mod_lt _ (by decide)

theorem psnForwardDist_zero_left {psn : Nat} (h : psn < maxPsn) : psnForwardDist 0 psn = psn := by
  have hzero : 0 % maxPsn = 0 := rfl
  rw [psnForwardDist, and_psnMask, and_psnMask, Nat.mod_eq_of_lt h, hzero, if_pos (Nat.zero_le _),
    Nat.sub_zero]

/-- Distance from a PSN to the one `k` after it. -/
theorem psnForwardDist_psnAdd (psn : Nat) {k : Nat} (hk : k < maxPsn) :
    psnForwardDist psn (psnAdd psn k) = k := by
  have hpos : 0 < maxPsn := by decide
  rw [psnForwardDist_eq, psnAdd_eq, Nat.mod_mod, ← Nat.mod_add_mod]
  exact Circle.dist_advance (Nat.mod_lt _ hpos) hk

/-- Distance between two PSNs of one run of consecutive PSNs. -/
theorem psnForwardDist_psnAdd_psnAdd (psn : Nat) {i k : Nat} (hi : i < maxPsn)
    (hk : k < maxPsn) :
    psnForwardDist (psnAdd psn i) (psnAdd psn k) =
      if i ≤ k then k - i else maxPsn - i + k := by
  have hpos : 0 < maxPsn := by decide
  rw [psnForwardDist_eq, psnAdd_eq, psnAdd_eq, Nat.mod_mod, Nat.mod_mod,
    ← Nat.mod_add_mod psn, ← Nat.mod_add_mod psn]
  exact Circle.dist_advance_advance (Nat.mod_lt _ hpos) hi hk

/-- Within one run of fewer than `2^23` consecutive PSNs, a PSN is acknowledged
by the PSN of position `k` exactly when its position is at most `k`. -/
theorem psnForwardDist_psnAdd_lt_half_iff (psn : Nat) {i k : Nat} (hi : i < psnHalf)
    (hk : k < psnHalf) :
    psnForwardDist (psnAdd psn i) (psnAdd psn k) < psnHalf ↔ i ≤ k := by
  have hhalf : maxPsn = 2 * psnHalf := maxPsn_eq
  rw [psnForwardDist_psnAdd_psnAdd psn (by omega) (by omega)]
  split <;> omega

theorem psnAdd_psnAdd (psn i k : Nat) : psnAdd (psnAdd psn i) k = psnAdd psn (i + k) := by
  rw [psnAdd_eq, psnAdd_eq, psnAdd_eq, Nat.mod_add_mod, Nat.add_assoc]

/-! ## WRITE segments -/

/-- `write_segment_type_t`, with the value `0` that `memset` leaves in an unused
slot and that `get_segment_type` returns for an opcode outside the WRITE range. -/
inductive WriteSegmentType where
  | none
  | first
  | middle
  | last
  | only
  deriving DecidableEq, Repr, Inhabited

/-- `WRITE_SEG_LAST` or `WRITE_SEG_ONLY`: the segment ends its message. -/
def WriteSegmentType.isFinal : WriteSegmentType → Bool
  | .last => true
  | .only => true
  | _ => false

/-- `WRITE_SEG_FIRST` or `WRITE_SEG_ONLY`: the segment opens its message. -/
def WriteSegmentType.isLeading : WriteSegmentType → Bool
  | .first => true
  | .only => true
  | _ => false

/-- `get_segment_type`. -/
def getSegmentType (opcode : Nat) : WriteSegmentType :=
  if opcode = Wire.roceOpcodeWriteFirst then .first
  else if opcode = Wire.roceOpcodeWriteMiddle then .middle
  else if opcode = Wire.roceOpcodeWriteLast then .last
  else if opcode = Wire.roceOpcodeWriteOnly then .only
  else if opcode = Wire.roceOpcodeWriteLastImm then .last
  else .none

end RdmaGateway.Roce
