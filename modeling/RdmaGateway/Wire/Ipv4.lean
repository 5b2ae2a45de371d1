/-
  Wire/Ipv4.lean --- IPv4 addresses as text, as words and as bytes.

  `inet_addr` returns its address in network order: stored, the word lays the four
  octets of the dotted quad out in the order they are written.  On a little-endian
  host the word itself has the first octet lowest, and `rte_cpu_to_be_32` of it is
  the address backwards.
-/
import RdmaGateway.Foundation.ByteMem

set_option autoImplicit false

namespace RdmaGateway.Wire

open RdmaGateway.Foundation

/-- A dotted quad. -/
structure Ipv4 where
  o₀ : UInt8
  o₁ : UInt8
  o₂ : UInt8
  o₃ : UInt8
  deriving DecidableEq

namespace Ipv4

/-- The octets in network order. -/
def bytes (addr : Ipv4) : List UInt8 := [addr.o₀, addr.o₁, addr.o₂, addr.o₃]

/-- The address reads the same backwards. -/
def Palindrome (addr : Ipv4) : Prop := addr.o₀ = addr.o₃ ∧ addr.o₁ = addr.o₂

instance (addr : Ipv4) : Decidable addr.Palindrome := inferInstanceAs (Decidable (_ ∧ _))

theorem bytes_reverse_eq_iff (addr : Ipv4) : addr.bytes.reverse = addr.bytes ↔ addr.Palindrome := by
  simp only [bytes, Palindrome, List.reverse_cons, List.reverse_nil, List.nil_append,
    List.cons_append, List.cons.injEq, and_true]
  constructor
  · rintro ⟨h₀, h₁, -, -⟩
    exact ⟨h₀.symm, h₁.symm⟩
  · rintro ⟨h₀, h₁⟩
    exact ⟨h₀.symm, h₁.symm, h₁, h₀⟩

/-- The address as a number, the first octet highest. -/
def word (addr : Ipv4) : Nat :=
  16777216 * addr.o₀.toNat + 65536 * addr.o₁.toNat + 256 * addr.o₂.toNat + addr.o₃.toNat

/-- The address with a given number. -/
def ofWord (w : Nat) : Ipv4 :=
  ⟨.ofNat (w / 16777216), .ofNat (w / 65536), .ofNat (w / 256), .ofNat w⟩

/-- The first `n` bits are the same. -/
def SamePrefix (n : Nat) (addr addr' : Ipv4) : Prop :=
  addr.word >>> (32 - n) = addr'.word >>> (32 - n)

instance (n : Nat) (addr addr' : Ipv4) : Decidable (SamePrefix n addr addr') :=
  inferInstanceAs (Decidable (_ = _))

theorem word_lt (addr : Ipv4) : addr.word < 4294967296 := by
  have h₀ := addr.o₀.toNat_lt
  have h₁ := addr.o₁.toNat_lt
  have h₂ := addr.o₂.toNat_lt
  have h₃ := addr.o₃.toNat_lt
  unfold word
  omega

theorem word_ofWord {w : Nat} (h : w < 4294967296) : (ofWord w).word = w := by
  simp only [ofWord, word, UInt8.toNat_ofNat']
  omega

end Ipv4

/-- `inet_addr` of a dotted quad, on a little-endian host. -/
def inetAddr (addr : Ipv4) : Nat :=
  addr.o₀.toNat + 256 * addr.o₁.toNat + 65536 * addr.o₂.toNat + 16777216 * addr.o₃.toNat

theorem inetAddr_lt (addr : Ipv4) : inetAddr addr < 4294967296 := by
  have h₀ := addr.o₀.toNat_lt
  have h₁ := addr.o₁.toNat_lt
  have h₂ := addr.o₂.toNat_lt
  have h₃ := addr.o₃.toNat_lt
  unfold inetAddr
  omega

theorem inetAddr_eq_zero_iff {addr : Ipv4} : inetAddr addr = 0 ↔ addr = ⟨0, 0, 0, 0⟩ := by
  obtain ⟨o₀, o₁, o₂, o₃⟩ := addr
  simp only [inetAddr, Ipv4.mk.injEq, ← UInt8.toNat_inj, UInt8.toNat_zero]
  omega

/-- The byte swap of the word, from its octets. -/
theorem bswap32_inetAddr (addr : Ipv4) :
    bswap32 (inetAddr addr) =
      addr.o₃.toNat + 256 * addr.o₂.toNat + 65536 * addr.o₁.toNat + 16777216 * addr.o₀.toNat := by
  have hswap := ByteMem.bswap32_of_bytes addr.o₀.toNat_lt addr.o₁.toNat_lt addr.o₂.toNat_lt
    addr.o₃.toNat_lt
  have hword : inetAddr addr = addr.o₀.toNat + addr.o₁.toNat * 256 + addr.o₂.toNat * 65536 +
      addr.o₃.toNat * 16777216 := by
    unfold inetAddr
    omega
  rw [hword, hswap]
  omega

/-- `inet_addr` returns the number in the other byte order. -/
theorem bswap32_inetAddr_word (addr : Ipv4) : bswap32 (inetAddr addr) = addr.word := by
  rw [bswap32_inetAddr, Ipv4.word]
  omega

theorem inetAddr_eq_word_iff (addr : Ipv4) : inetAddr addr = addr.word ↔ addr.Palindrome := by
  have h₀ := addr.o₀.toNat_lt
  have h₁ := addr.o₁.toNat_lt
  have h₂ := addr.o₂.toNat_lt
  have h₃ := addr.o₃.toNat_lt
  rw [Ipv4.Palindrome, ← UInt8.toNat_inj, ← UInt8.toNat_inj, inetAddr, Ipv4.word]
  omega

/-- Four bytes of memory are those of a word that reads there. -/
theorem ldBytes_of_ld32 {b : ByteMem} {off : Nat} {v₀ v₁ v₂ v₃ : UInt8}
    (h : b.ld32 off =
      v₀.toNat + 256 * v₁.toNat + 65536 * v₂.toNat + 16777216 * v₃.toNat) :
    b.ldBytes off 4 = [v₀, v₁, v₂, v₃] := by
  have b₀ := b.ld8_lt off
  have b₁ := b.ld8_lt (off + 1)
  have b₂ := b.ld8_lt (off + 2)
  have b₃ := b.ld8_lt (off + 3)
  have h₀ := v₀.toNat_lt
  have h₁ := v₁.toNat_lt
  have h₂ := v₂.toNat_lt
  have h₃ := v₃.toNat_lt
  rw [ByteMem.ld32] at h
  have e₀ : b off = v₀ := UInt8.toNat_inj.mp (by rw [ByteMem.ld8] at *; omega)
  have e₁ : b (off + 1) = v₁ := UInt8.toNat_inj.mp (by simp only [ByteMem.ld8] at *; omega)
  have e₂ : b (off + 2) = v₂ := UInt8.toNat_inj.mp (by simp only [ByteMem.ld8] at *; omega)
  have e₃ : b (off + 3) = v₃ := UInt8.toNat_inj.mp (by simp only [ByteMem.ld8] at *; omega)
  simp [ByteMem.ldBytes, List.range, List.range.loop, e₀, e₁, e₂, e₃]

/-- The configured word, stored as it is, lays the octets out in network order. -/
theorem ldBytes_inetAddr {b : ByteMem} {off : Nat} {addr : Ipv4} (h : b.ld32 off = inetAddr addr) :
    b.ldBytes off 4 = addr.bytes :=
  ldBytes_of_ld32 h

/-- Swapped first, it lays them out backwards. -/
theorem ldBytes_bswap32_inetAddr {b : ByteMem} {off : Nat} {addr : Ipv4}
    (h : b.ld32 off = bswap32 (inetAddr addr)) : b.ldBytes off 4 = addr.bytes.reverse := by
  rw [bswap32_inetAddr] at h
  exact ldBytes_of_ld32 h

end RdmaGateway.Wire
