/-
  `Foundation.Scan`: the conversions of `scanf` that read text, as step functions.

  A step takes a prefix of the input and returns what it converted and the rest, or
  fails.  The lemmas are the completeness side: text of the form a conversion is
  meant for, followed by a character that ends it, is converted as a whole and the
  rest is handed back.
-/
import Mathlib.Algebra.Order.Ring.Nat
import Mathlib.Data.List.TakeWhile

set_option autoImplicit false

namespace RdmaGateway.Foundation

/-- `isspace`. -/
def isSpace (c : Char) : Bool := c.toNat == 32 || (9 ≤ c.toNat && c.toNat ≤ 13)

/-- The value of a digit, in bases up to 16. -/
def digitValue (c : Char) : Option Nat :=
  if 48 ≤ c.toNat ∧ c.toNat ≤ 57 then some (c.toNat - 48)
  else if 97 ≤ c.toNat ∧ c.toNat ≤ 102 then some (c.toNat - 87)
  else if 65 ≤ c.toNat ∧ c.toNat ≤ 70 then some (c.toNat - 55)
  else none

/-- The value of a non-empty text of digits in the base, and of nothing else. -/
def digitsValue (base : Nat) (cs : List Char) : Option Nat :=
  if cs = [] then none
  else cs.foldl (fun v c =>
    match v, digitValue c with
    | some v, some d => if d < base then some (base * v + d) else none
    | _, _ => none) (some 0)

/-- The decimal digits of a number. -/
def decimal (n : Nat) : List Char := Nat.toDigits 10 n

/-- `%<max>[...]`: from one to `max` characters of the set. -/
def scanSet (set : Char → Bool) (max : Nat) (cs : List Char) : Option (List Char × List Char) :=
  let taken := (cs.takeWhile set).take max
  if taken = [] then none else some (taken, cs.drop taken.length)

/-- A character of the format that has to be matched. -/
def scanChar (c : Char) (cs : List Char) : Option (List Char) :=
  if cs.head? = some c then some cs.tail else none

/-- `%<max>s`: white space is skipped, then up to `max` other characters are read. -/
def scanWord (max : Nat) (cs : List Char) : Option (List Char × List Char) :=
  scanSet (fun c => !isSpace c) max (cs.dropWhile isSpace)

/-- `%d`, for values that an `int` holds. -/
def scanInt (cs : List Char) : Option (Int × List Char) :=
  let cs := cs.dropWhile isSpace
  let neg := cs.head? = some '-'
  let cs := if neg ∨ cs.head? = some '+' then cs.tail else cs
  let digits := cs.takeWhile Char.isDigit
  match digitsValue 10 digits with
  | none => none
  | some v => some (if neg then -Int.ofNat v else Int.ofNat v, cs.drop digits.length)

section Complete

variable {text rest : List Char} {set : Char → Bool}

/-- Text of the set, up to a character that is not in it. -/
theorem takeWhile_append_of_ends (htext : ∀ c ∈ text, set c = true)
    (hrest : ∀ c ∈ rest.head?, set c = false) : (text ++ rest).takeWhile set = text := by
  rw [List.takeWhile_append_of_pos htext]
  cases rest with
  | nil => simp
  | cons c rest =>
    rw [List.takeWhile_cons_of_neg (by simp [hrest c rfl]), List.append_nil]

theorem scanSet_append {max : Nat} (hne : text ≠ []) (hmax : text.length ≤ max)
    (htext : ∀ c ∈ text, set c = true) (hrest : ∀ c ∈ rest.head?, set c = false) :
    scanSet set max (text ++ rest) = some (text, rest) := by
  rw [scanSet, takeWhile_append_of_ends htext hrest, List.take_of_length_le hmax]
  simp [hne]

theorem scanChar_cons (c : Char) (cs : List Char) : scanChar c (c :: cs) = some cs := by
  simp [scanChar]

theorem dropWhile_of_head {p : Char → Bool} {cs : List Char} (h : ∀ c ∈ cs.head?, p c = false) :
    cs.dropWhile p = cs := by
  cases cs with
  | nil => rfl
  | cons c cs => exact List.dropWhile_cons_of_neg (by simp [h c rfl])

theorem scanWord_all {max : Nat} (hne : text ≠ []) (hmax : text.length ≤ max)
    (htext : ∀ c ∈ text, isSpace c = false) : scanWord max text = some (text, []) := by
  have hhead : ∀ c ∈ text.head?, isSpace c = false :=
    fun c hc => htext c (List.mem_of_mem_head? hc)
  rw [scanWord, dropWhile_of_head hhead]
  have hscan : scanSet (fun c => !isSpace c) max (text ++ []) = some (text, []) :=
    scanSet_append hne hmax (fun c hc => by simp [htext c hc]) (by simp)
  rwa [List.append_nil] at hscan

/-- A digit is neither white space nor a sign. -/
theorem isDigit_spec {c : Char} (h : c.isDigit = true) :
    isSpace c = false ∧ c ≠ '-' ∧ c ≠ '+' := by
  have hrange : 48 ≤ c.toNat ∧ c.toNat ≤ 57 := by
    simp only [Char.isDigit, Bool.and_eq_true, decide_eq_true_eq] at h
    exact ⟨h.1, h.2⟩
  refine ⟨?_, ?_, ?_⟩
  · simp only [isSpace, Bool.or_eq_false_iff, beq_eq_false_iff_ne, Bool.and_eq_false_iff,
      decide_eq_false_iff_not]
    omega
  · rintro rfl
    exact absurd hrange.1 (by decide)
  · rintro rfl
    exact absurd hrange.1 (by decide)

theorem scanInt_append {v : Nat} (htext : ∀ c ∈ text, c.isDigit = true)
    (hvalue : digitsValue 10 text = some v) (hrest : ∀ c ∈ rest.head?, c.isDigit = false) :
    scanInt (text ++ rest) = some (Int.ofNat v, rest) := by
  cases text with
  | nil => cases hvalue
  | cons d ds =>
    obtain ⟨hspace, hminus, hplus⟩ := isDigit_spec (htext d List.mem_cons_self)
    have hdrop : (d :: ds ++ rest).dropWhile isSpace = d :: ds ++ rest :=
      dropWhile_of_head fun c hc => by
        rw [List.cons_append, List.head?_cons, Option.mem_some_iff] at hc
        rw [← hc, hspace]
    have hsign : ∀ c, d ≠ c → (d :: ds ++ rest).head? ≠ some c := by
      intro c hc heq
      rw [List.cons_append, List.head?_cons, Option.some.injEq] at heq
      exact hc heq
    rw [scanInt, hdrop]
    simp only [hsign _ hminus, hsign _ hplus, or_self, if_false,
      takeWhile_append_of_ends htext hrest, hvalue, List.drop_left]

end Complete

end RdmaGateway.Foundation
