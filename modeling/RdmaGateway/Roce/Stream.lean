/-
  Roce/Stream.lean --- what a sender puts on the wire for one QPN.

  A well-formed WRITE of `n` segments is ONLY when `n = 1` and otherwise FIRST,
  then MIDDLEs, then LAST.  A sender stream is a sequence of such messages whose
  segments carry consecutive PSNs modulo `2^24`.  The stream may be longer than
  the PSN circle, so a packet is named by its position in the stream and not by
  its PSN.
-/
import RdmaGateway.Roce.Psn
import Mathlib.Algebra.BigOperators.Group.List.Basic

set_option autoImplicit false

namespace RdmaGateway.Roce

/-- The type of segment `i` of a message of `n` segments. -/
def msgSegType (n i : Nat) : WriteSegmentType :=
  if n = 1 then .only
  else if i = 0 then .first
  else if i + 1 = n then .last
  else .middle

theorem msgSegType_isFinal {n i : Nat} (hi : i < n) :
    (msgSegType n i).isFinal = true ↔ i + 1 = n := by
  unfold msgSegType
  split_ifs <;> simp [WriteSegmentType.isFinal] <;> omega

theorem msgSegType_isLeading {n i : Nat} (hi : i < n) :
    (msgSegType n i).isLeading = true ↔ i = 0 := by
  unfold msgSegType
  split_ifs <;> simp [WriteSegmentType.isLeading] <;> omega

/-- A list of PSNs and segment types is one complete WRITE: consecutive PSNs,
and the types of a whole message. -/
def IsCompleteWrite (segs : List (Nat × WriteSegmentType)) : Prop :=
  ∃ psn n, 0 < n ∧ segs = (List.range n).map fun i => (psnAdd psn i, msgSegType n i)

/-- A complete WRITE starts with a leading segment. -/
theorem IsCompleteWrite.head_isLeading {psn : Nat} {ty : WriteSegmentType}
    {segs : List (Nat × WriteSegmentType)} (h : IsCompleteWrite ((psn, ty) :: segs)) :
    ty.isLeading = true := by
  obtain ⟨start, n, hn, heq⟩ := h
  have hhead := congrArg List.head? heq
  cases n with
  | zero => omega
  | succ n =>
    simp only [List.head?_cons, List.range_succ_eq_map, List.map_cons, Option.some.injEq,
      Prod.mk.injEq] at hhead
    rw [hhead.2]
    exact (msgSegType_isLeading (by omega)).mpr rfl

/-- A sender stream: the PSN of its first packet and the lengths of its
messages, none of them empty. -/
structure SenderStream where
  base : Nat
  lens : List Nat
  lens_pos : ∀ n ∈ lens, 0 < n

namespace SenderStream

variable (st : SenderStream)

/-- The number of packets of the stream. -/
def length : Nat := st.lens.sum

/-- The PSN of the packet at a position. -/
def psn (k : Nat) : Nat := psnAdd st.base k

/-- The segment type at position `k` of a concatenation of messages. -/
def segTypeIn : List Nat → Nat → WriteSegmentType
  | [], _ => .none
  | n :: ns, k => if k < n then msgSegType n k else segTypeIn ns (k - n)

/-- The segment type of the packet at a position. -/
def segType (k : Nat) : WriteSegmentType := segTypeIn st.lens k

/-- A message of `n` segments starts at position `s`. -/
def Message (s n : Nat) : Prop :=
  ∃ before after, st.lens = before ++ n :: after ∧ s = before.sum

theorem segTypeIn_append (before : List Nat) (n : Nat) (after : List Nat) {i : Nat}
    (hi : i < n) : segTypeIn (before ++ n :: after) (before.sum + i) = msgSegType n i := by
  induction before with
  | nil => simp [segTypeIn, hi]
  | cons b bs ih =>
    have hge : ¬ b + bs.sum + i < b := by omega
    have hsub : b + bs.sum + i - b = bs.sum + i := by omega
    simp only [List.cons_append, segTypeIn, List.sum_cons, if_neg hge, hsub, ih]

variable {st} {s n : Nat}

theorem Message.pos (h : st.Message s n) : 0 < n := by
  obtain ⟨before, after, hlens, _⟩ := h
  exact st.lens_pos n (by simp [hlens])

theorem Message.le_length (h : st.Message s n) : s + n ≤ st.length := by
  obtain ⟨before, after, hlens, hs⟩ := h
  simp only [length, hlens, List.sum_append, List.sum_cons, hs]
  omega

/-- The types of the positions of a message are those of the message. -/
theorem Message.segType_eq (h : st.Message s n) {i : Nat} (hi : i < n) :
    st.segType (s + i) = msgSegType n i := by
  obtain ⟨before, after, hlens, rfl⟩ := h
  rw [segType, hlens]
  exact segTypeIn_append before n after hi

/-- The `n` positions from `s` on are the rest of one message. -/
def Tail (st : SenderStream) (s n : Nat) : Prop :=
  0 < n ∧ ∃ start k, st.Message start (k + n) ∧ s = start + k

theorem Message.tail (h : st.Message s n) : st.Tail s n :=
  ⟨h.pos, s, 0, by rwa [Nat.zero_add], rfl⟩

theorem Tail.le_length (h : st.Tail s n) : s + n ≤ st.length := by
  obtain ⟨_, start, k, hmsg, rfl⟩ := h
  have hle := hmsg.le_length
  omega

/-- Of the rest of a message only the last position is final. -/
theorem Tail.isFinal (h : st.Tail s n) {i : Nat} (hi : i < n) :
    (st.segType (s + i)).isFinal = true ↔ i + 1 = n := by
  obtain ⟨_, start, k, hmsg, rfl⟩ := h
  rw [Nat.add_assoc, hmsg.segType_eq (by omega), msgSegType_isFinal (by omega)]
  omega

theorem Tail.length_unique {m : Nat} (h : st.Tail s n) (h' : st.Tail s m) : n = m := by
  have hn := h.1
  have hm := h'.1
  rcases Nat.lt_trichotomy n m with hlt | heq | hlt
  · have hfin := (h.isFinal (by omega : n - 1 < n)).mpr (by omega)
    rw [h'.isFinal (by omega)] at hfin
    omega
  · exact heq
  · have hfin := (h'.isFinal (by omega : m - 1 < m)).mpr (by omega)
    rw [h.isFinal (by omega)] at hfin
    omega

end SenderStream

end RdmaGateway.Roce
