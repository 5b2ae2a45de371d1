/-
  Tunnel/PeerConfig.lean --- peers on the command line (`parse_peer_string` and the
  option `-p` of `src/main.c`).

  `-p a.b.c.d/n:peer` adds a mapping, `-p default:peer` sets the default.  The text is
  read with `sscanf` and `inet_addr`; the latter takes one to four numbers, each in
  decimal, octal or hexadecimal, up to the end of the text or white space.  For a
  prefix length outside 1 to 32 the source shifts by a count that C does not define;
  what the machine makes of it is the parameter `shlUndef`.
-/
import RdmaGateway.Foundation.Scan
import RdmaGateway.Tunnel.WanTunnel
import RdmaGateway.Wire.Ipv4

set_option autoImplicit false

namespace RdmaGateway.Tunnel

open RdmaGateway.Foundation
open RdmaGateway.Wire

/-! ## `inet_addr` -/

/-- One number of an address: octal after `0`, hexadecimal after `0x`. -/
def inetPart (cs : List Char) : Option Nat :=
  if cs.head? = some '0' ∧ 1 < cs.length then
    if cs.tail.head? = some 'x' ∨ cs.tail.head? = some 'X' then digitsValue 16 (cs.drop 2)
    else digitsValue 8 cs.tail
  else digitsValue 10 cs

/-- `INADDR_NONE` -/
def inaddrNone : Nat := 0xFFFFFFFF

/-- `inet_addr` on text. -/
def inetAddrText (text : List Char) : Nat :=
  match ((text.takeWhile fun c => !isSpace c).splitOn '.').mapM inetPart with
  | some [a] => if a < 4294967296 then bswap32 a else inaddrNone
  | some [a, b] =>
    if a < 256 ∧ b < 16777216 then bswap32 (16777216 * a + b) else inaddrNone
  | some [a, b, c] =>
    if a < 256 ∧ b < 256 ∧ c < 65536 then bswap32 (16777216 * a + 65536 * b + c) else inaddrNone
  | some [a, b, c, d] =>
    if a < 256 ∧ b < 256 ∧ c < 256 ∧ d < 256
    then bswap32 (16777216 * a + 65536 * b + 256 * c + d) else inaddrNone
  | _ => inaddrNone

/-! ## `parse_peer_string` -/

/-- What `parse_peer_string` returns: `0` with a mapping, `1` with a default, or
`-1`. -/
inductive PeerString where
  | mapping (subnet mask peerIp : Nat)
  | default (peerIp : Nat)
  | invalid
  deriving DecidableEq

/-- `0xFFFFFFFF << k`. -/
def shlOnes (shlUndef : Int → Nat) (k : Int) : Nat :=
  if 0 ≤ k ∧ k < 32 then 0xFFFFFFFF * 2 ^ k.toNat % 4294967296 else shlUndef k

/-- `sscanf(str, "%31[^/]/%d:%31s", ...) == 3`. -/
def scanPeer (str : List Char) : Option (List Char × Int × List Char) := do
  let (subnet, str) ← scanSet (fun c => c != '/') 31 str
  let str ← scanChar '/' str
  let (prefixLen, str) ← scanInt str
  let str ← scanChar ':' str
  let (peer, _) ← scanWord 31 str
  pure (subnet, prefixLen, peer)

/-- `parse_peer_string`. -/
def parsePeerString (shlUndef : Int → Nat) (str : List Char) : PeerString :=
  if "default:".toList.isPrefixOf str then .default (inetAddrText (str.drop 8))
  else
    match scanPeer str with
    | some (subnet, prefixLen, peer) =>
      .mapping (inetAddrText subnet)
        (bswap32 (shlOnes shlUndef (32 - prefixLen) &&& 0xFFFFFFFF)) (inetAddrText peer)
    | none => .invalid

/-- The option `-p`; `none` when the gateway gives up. -/
def addPeerOption (shlUndef : Int → Nat) (pm : PeerManager) (optarg : List Char) :
    Option PeerManager :=
  match parsePeerString shlUndef optarg with
  | .mapping subnet mask peerIp => some (pmAdd pm subnet mask peerIp).2
  | .default peerIp => some (pmSetDefault pm peerIp)
  | .invalid => none

/-! ## Dotted quads -/

/-- The address as it is written. -/
def quadText (addr : Ipv4) : List Char :=
  ['.'].intercalate (addr.bytes.map fun o => decimal o.toNat)

/-- The text of a number that fits a byte. -/
theorem decimal_octet : ∀ n < 256, inetPart (decimal n) = some n ∧
    digitsValue 10 (decimal n) = some n ∧ 0 < (decimal n).length ∧ (decimal n).length ≤ 3 ∧
    ∀ c ∈ decimal n, c.isDigit = true := by
  have hall : ∀ n < 256, inetPart (decimal n) = some n ∧
      digitsValue 10 (decimal n) = some n ∧ 0 < (decimal n).length ∧ (decimal n).length ≤ 3 ∧
      (decimal n).all Char.isDigit = true := by
    decide +kernel
  intro n hn
  obtain ⟨hpart, hvalue, hpos, hle, hdigits⟩ := hall n hn
  exact ⟨hpart, hvalue, hpos, hle, List.all_eq_true.mp hdigits⟩

/-- A character that an octet's text does not have. -/
theorem not_mem_decimal_octet (o : UInt8) {c : Char} (hc : c.isDigit = false) :
    c ∉ decimal o.toNat := by
  intro hmem
  obtain ⟨-, -, -, -, hdigits⟩ := decimal_octet o.toNat o.toNat_lt
  rw [hdigits c hmem] at hc
  cases hc

/-- The text is four numbers and three dots. -/
theorem quadText_eq (addr : Ipv4) :
    quadText addr = decimal addr.o₀.toNat ++ '.' :: (decimal addr.o₁.toNat ++
      '.' :: (decimal addr.o₂.toNat ++ '.' :: decimal addr.o₃.toNat)) := by
  simp [quadText, Ipv4.bytes]

theorem quadText_chars (addr : Ipv4) : ∀ c ∈ quadText addr, c.isDigit = true ∨ c = '.' := by
  intro c hc
  by_cases hdigit : c.isDigit = true
  · exact .inl hdigit
  · refine .inr ?_
    have hno := fun o => not_mem_decimal_octet o (Bool.not_eq_true _ ▸ hdigit)
    simpa [quadText_eq, hno] using hc

theorem quadText_length (addr : Ipv4) :
    0 < (quadText addr).length ∧ (quadText addr).length ≤ 15 := by
  obtain ⟨-, -, -, h₀, -⟩ := decimal_octet _ addr.o₀.toNat_lt
  obtain ⟨-, -, -, h₁, -⟩ := decimal_octet _ addr.o₁.toNat_lt
  obtain ⟨-, -, -, h₂, -⟩ := decimal_octet _ addr.o₂.toNat_lt
  obtain ⟨-, -, -, h₃, -⟩ := decimal_octet _ addr.o₃.toNat_lt
  simp only [quadText_eq, List.length_append, List.length_cons]
  omega

theorem quadText_ne_nil (addr : Ipv4) : quadText addr ≠ [] :=
  List.ne_nil_of_length_pos (quadText_length addr).1

theorem quadText_not_isSpace (addr : Ipv4) : ∀ c ∈ quadText addr, isSpace c = false := by
  intro c hc
  rcases quadText_chars addr c hc with hdigit | rfl
  · exact (isDigit_spec hdigit).1
  · rfl

theorem quadText_ne_slash (addr : Ipv4) : ∀ c ∈ quadText addr, (c != '/') = true := by
  intro c hc
  rcases quadText_chars addr c hc with hdigit | rfl
  · rw [bne_iff_ne]
    rintro rfl
    exact absurd hdigit (by decide)
  · rfl

/-- A quad that is written out is read back. -/
theorem inetAddrText_quadText (addr : Ipv4) : inetAddrText (quadText addr) = inetAddr addr := by
  have hword : (quadText addr).takeWhile (fun c => !isSpace c) = quadText addr := by
    rw [List.takeWhile_eq_self_iff]
    intro c hc
    rw [quadText_not_isSpace addr c hc, Bool.not_false]
  have hsplit : (quadText addr).splitOn '.' = addr.bytes.map fun o => decimal o.toNat := by
    refine List.splitOn_intercalate _ (fun l hl => ?_) (by simp [Ipv4.bytes])
    obtain ⟨o, -, rfl⟩ := List.mem_map.mp hl
    exact not_mem_decimal_octet o (by decide)
  have hparts : (addr.bytes.map fun o => decimal o.toNat).mapM inetPart =
      some (addr.bytes.map UInt8.toNat) := by
    have hpart : ∀ o : UInt8, inetPart (decimal o.toNat) = some o.toNat :=
      fun o => (decimal_octet _ o.toNat_lt).1
    simp [Ipv4.bytes, hpart]
  rw [inetAddrText, hword, hsplit, hparts]
  have h₀ := addr.o₀.toNat_lt
  have h₁ := addr.o₁.toNat_lt
  have h₂ := addr.o₂.toNat_lt
  have h₃ := addr.o₃.toNat_lt
  simp only [Ipv4.bytes, List.map_cons, List.map_nil]
  rw [if_pos ⟨h₀, h₁, h₂, h₃⟩]
  have hswap := congrArg bswap32 (bswap32_inetAddr_word addr)
  rw [ByteMem.bswap32_bswap32, Nat.mod_eq_of_lt (inetAddr_lt addr)] at hswap
  exact hswap.symm

/-! ## A mapping on the command line -/

/-- `a.b.c.d/n:peer`. -/
def peerText (net : Ipv4) (n : Nat) (peer : Ipv4) : List Char :=
  quadText net ++ '/' :: (decimal n ++ ':' :: quadText peer)

/-- A mapping is accepted, with the mask that the shift gives. -/
theorem parsePeerString_peerText (shlUndef : Int → Nat) (net peer : Ipv4) {n : Nat} (hn : n ≤ 32) :
    parsePeerString shlUndef (peerText net n peer) =
      .mapping (inetAddr net) (bswap32 (shlOnes shlUndef (32 - n) &&& 0xFFFFFFFF))
        (inetAddr peer) := by
  have hdefault : ¬ "default:".toList.isPrefixOf (peerText net n peer) = true := by
    intro h
    obtain ⟨rest, hrest⟩ := List.isPrefixOf_iff_prefix.mp h
    have hmem : 'd' ∈ (quadText net).head? := by
      have hhead := congrArg List.head? hrest
      rw [peerText, List.head?_append_of_ne_nil _ (quadText_ne_nil net)] at hhead
      exact hhead.symm
    rcases quadText_chars net 'd' (List.mem_of_mem_head? hmem) with hdigit | hdot
    · exact absurd hdigit (by decide)
    · exact absurd hdot (by decide)
  have hsubnet : scanSet (fun c => c != '/') 31 (peerText net n peer) =
      some (quadText net, '/' :: (decimal n ++ ':' :: quadText peer)) :=
    scanSet_append (quadText_ne_nil net) (by have := quadText_length net; omega)
      (quadText_ne_slash net) (by simp)
  have hlen : scanInt (decimal n ++ ':' :: quadText peer) =
      some (Int.ofNat n, ':' :: quadText peer) := by
    obtain ⟨-, hvalue, -, -, hdigits⟩ := decimal_octet n (by omega)
    exact scanInt_append hdigits hvalue (by simp)
  have hpeer : scanWord 31 (quadText peer) = some (quadText peer, []) :=
    scanWord_all (quadText_ne_nil peer) (by have := quadText_length peer; omega)
      (quadText_not_isSpace peer)
  have hscan : scanPeer (peerText net n peer) = some (quadText net, Int.ofNat n, quadText peer) := by
    simp [scanPeer, hsubnet, scanChar_cons, hlen, hpeer]
  rw [parsePeerString, if_neg hdefault, hscan]
  simp only [inetAddrText_quadText]
  rfl

/-! ## Selection by prefix -/

/-- The destination address of a packet. -/
def ipDst (m : Mbuf) : Ipv4 := ⟨m.data 30, m.data 31, m.data 32, m.data 33⟩

/-- The key under which `proc_process_lan_rx` looks a packet's peer up is the number of
the destination address. -/
theorem bswap32_ipDstAddr (m : Mbuf) : bswap32 m.ipDstAddr = (ipDst m).word := by
  rw [← bswap32_inetAddr_word]
  rfl

/-- An IPv4 packet to an address. -/
def packetTo (addr : Ipv4) : Mbuf :=
  ⟨0, 2048, 64, fun k => if k = 12 then 8 else if k < 30 then 0 else addr.bytes.getD (k - 30) 0⟩

theorem packetTo_etherType (addr : Ipv4) : (packetTo addr).etherType = rteEtherTypeIpv4 := by
  simp [Mbuf.etherType, ByteMem.ld16, ByteMem.ld8, packetTo, bswap16, rteEtherTypeIpv4]

theorem ipDst_packetTo (addr : Ipv4) : ipDst (packetTo addr) = addr := rfl

/-- The peer is selected for the packets whose destination shares the first `n` bits with
the network, and for no other. -/
def SelectsByPrefix (host : Host) (net : Ipv4) (n : Nat) (peer : Ipv4) : Prop :=
  ∀ m : Mbuf, m.etherType = rteEtherTypeIpv4 →
    wanGetPeerIp host (bswap32 m.ipDstAddr) =
      if (ipDst m).SamePrefix n net then inetAddr peer else 0

section Select

variable {shlUndef : Int → Nat} {host : Host} {net peer : Ipv4} {n : Nat}

/-- The mask that the option stores. -/
def peerMask (shlUndef : Int → Nat) (n : Nat) : Nat :=
  bswap32 (shlOnes shlUndef (32 - n) &&& 0xFFFFFFFF)

theorem addPeerOption_peerText (shlUndef : Int → Nat) (net peer : Ipv4) (hn : n ≤ 32) :
    addPeerOption shlUndef pmInit (peerText net n peer) =
      some ⟨[⟨inetAddr net, peerMask shlUndef n, inetAddr peer⟩], 0⟩ := by
  rw [addPeerOption, parsePeerString_peerText shlUndef net peer hn]
  rfl

/-- With the mapping alone in the table, the lookup compares under the mask. -/
theorem wanGetPeerIp_of_option (hn : n ≤ 32)
    (hpm : addPeerOption shlUndef pmInit (peerText net n peer) = some host.peerManager)
    (key : Nat) :
    wanGetPeerIp host key =
      if key &&& peerMask shlUndef n = inetAddr net then inetAddr peer else 0 := by
  have htable : host.peerManager =
      ⟨[⟨inetAddr net, peerMask shlUndef n, inetAddr peer⟩], 0⟩ := by
    rw [addPeerOption_peerText shlUndef net peer hn] at hpm
    exact (Option.some.inj hpm).symm
  rw [wanGetPeerIp, htable, pmLookup]
  by_cases hkey : key &&& peerMask shlUndef n = inetAddr net
  · simp [hkey]
  · simp [hkey]

/-- Selection by prefix, for a peer other than `0.0.0.0`, as an equivalence over the
numbers of all addresses. -/
theorem selectsByPrefix_iff_keys (hn : n ≤ 32)
    (hpm : addPeerOption shlUndef pmInit (peerText net n peer) = some host.peerManager)
    (hpeer : inetAddr peer ≠ 0) :
    SelectsByPrefix host net n peer ↔
      ∀ w < 4294967296, w &&& peerMask shlUndef n = inetAddr net ↔
        w >>> (32 - n) = net.word >>> (32 - n) := by
  have hsame : ∀ p q : Prop, ∀ (_ : Decidable p) (_ : Decidable q),
      ((if p then inetAddr peer else 0) = if q then inetAddr peer else 0) ↔ (p ↔ q) := by
    intro p q _ _
    by_cases hp : p <;> by_cases hq : q <;> simp [hp, hq, hpeer, Ne.symm hpeer]
  constructor
  · intro hall w hw
    have hm := hall (packetTo (.ofWord w)) (packetTo_etherType _)
    rw [wanGetPeerIp_of_option hn hpm, bswap32_ipDstAddr, hsame, ipDst_packetTo, Ipv4.SamePrefix,
      Ipv4.word_ofWord hw] at hm
    exact hm
  · intro hall m _
    rw [wanGetPeerIp_of_option hn hpm, bswap32_ipDstAddr, hsame]
    exact hall _ (ipDst m).word_lt

/-- A bit of the mask outside the first `n` splits the addresses of a network. -/
theorem not_keys_of_testBit {mask k : Nat} (hbit : mask.testBit k = true) (hk : k < 32 - n)
    (hall : ∀ w < 4294967296, w &&& mask = inetAddr net ↔
      w >>> (32 - n) = net.word >>> (32 - n)) : False := by
  have hflip : net.word ^^^ 2 ^ k < 4294967296 :=
    Nat.xor_lt_two_pow (n := 32) net.word_lt (Nat.pow_lt_pow_right (by decide) (by omega))
  have hin := (hall net.word net.word_lt).mpr rfl
  have hout := (hall _ hflip).mpr (by
    rw [Nat.shiftRight_xor_distrib, Nat.shiftRight_eq_div_pow (2 ^ k),
      Nat.div_eq_of_lt (Nat.pow_lt_pow_right (by decide) hk), Nat.xor_zero])
  have hsame := congrArg (Nat.testBit · k) (hin.trans hout.symm)
  simp [hbit] at hsame

/-- The mask of a shift that C defines, before the bytes are swapped. -/
theorem peerMask_of_pos (hpos : 1 ≤ n) (hn : n ≤ 32) :
    peerMask shlUndef n = bswap32 (0xFFFFFFFF * 2 ^ (32 - n) % 4294967296) := by
  have hshift : (32 - (n : Int)).toNat = 32 - n := by omega
  rw [peerMask, shlOnes, if_pos (by omega), hshift]
  congr 1
  exact Nat.and_two_pow_sub_one_of_lt_two_pow (n := 32) (Nat.mod_lt _ (by decide))

/-- Swapped, the mask of a prefix that is not the whole address has a bit outside the
first `n`: the lowest, or the lowest octet's highest. -/
theorem exists_mask_bit : ∀ n ≤ 31, 1 ≤ n →
    ∃ k ≤ 7, k < 32 - n ∧
      (bswap32 (0xFFFFFFFF * 2 ^ (32 - n) % 4294967296)).testBit k = true := by
  decide +kernel

/-- The exact condition for the whole address. -/
theorem keys_whole_iff :
    (∀ w < 4294967296, w &&& peerMask shlUndef 32 = inetAddr net ↔
      w >>> (32 - 32) = net.word >>> (32 - 32)) ↔ net.Palindrome := by
  have hmask : ∀ w < 4294967296, w &&& peerMask shlUndef 32 = w := by
    intro w hw
    rw [peerMask_of_pos (by decide) (by decide)]
    exact Nat.and_two_pow_sub_one_of_lt_two_pow (n := 32) hw
  rw [← inetAddr_eq_word_iff]
  constructor
  · intro hall
    have hnet := (hall net.word net.word_lt).mpr rfl
    rw [hmask _ net.word_lt] at hnet
    exact hnet.symm
  · intro hword w hw
    rw [hmask w hw, hword]
    rfl

/-- The exact condition for the empty prefix: both what the machine makes of the shift
and the network have to be zero. -/
theorem keys_empty_iff :
    (∀ w < 4294967296, w &&& peerMask shlUndef 0 = inetAddr net ↔
      w >>> (32 - 0) = net.word >>> (32 - 0)) ↔
      inetAddr net = 0 ∧ shlUndef 32 % 4294967296 = 0 := by
  have hmask : peerMask shlUndef 0 = bswap32 (shlUndef 32 % 4294967296) := by
    rw [peerMask]
    congr 1
    exact Nat.and_two_pow_sub_one_eq_mod _ 32
  have hzero : ∀ w < 4294967296, w >>> (32 - 0) = 0 :=
    fun w hw => Nat.shiftRight_eq_zero _ _ hw
  constructor
  · intro hall
    have hall' : ∀ w < 4294967296, w &&& peerMask shlUndef 0 = inetAddr net := fun w hw =>
      (hall w hw).mpr (by rw [hzero w hw, hzero _ net.word_lt])
    have hnet := hall' 0 (by decide)
    rw [Nat.zero_and] at hnet
    have hself := hall' (peerMask shlUndef 0) (by rw [hmask]; exact ByteMem.bswap32_lt _)
    rw [Nat.and_self, ← hnet, hmask] at hself
    have hswap := congrArg bswap32 hself
    rw [ByteMem.bswap32_bswap32, Nat.mod_mod] at hswap
    exact ⟨hnet.symm, hswap⟩
  · rintro ⟨hnet, hshift⟩ w hw
    rw [hmask, hshift, hnet, hzero w hw, hzero _ net.word_lt]
    exact iff_of_true (Nat.and_zero w) rfl

end Select

/-- One mapping in the table selects by prefix exactly when the peer is `0.0.0.0`, when
it is for one host whose address reads the same in both directions, or when it is
`0.0.0.0/0` on a machine whose shift by 32 gives zero. -/
theorem selects_by_prefix_iff (shlUndef : Int → Nat) (host : Host) (net peer : Ipv4) (n : Nat)
    (hn : n ≤ 32)
    (hpm : addPeerOption shlUndef pmInit (peerText net n peer) = some host.peerManager) :
    SelectsByPrefix host net n peer ↔
      peer = ⟨0, 0, 0, 0⟩ ∨ (n = 32 ∧ net.Palindrome) ∨
        (n = 0 ∧ net = ⟨0, 0, 0, 0⟩ ∧ shlUndef 32 % 4294967296 = 0) := by
  by_cases hpeer : inetAddr peer = 0
  · refine iff_of_true (fun m _ => ?_) (.inl (inetAddr_eq_zero_iff.mp hpeer))
    rw [wanGetPeerIp_of_option hn hpm, hpeer, ite_self, ite_self]
  rw [selectsByPrefix_iff_keys hn hpm hpeer, or_iff_right fun h => hpeer (inetAddr_eq_zero_iff.mpr h)]
  obtain rfl | rfl | ⟨hpos, hlt⟩ : n = 0 ∨ n = 32 ∨ 1 ≤ n ∧ n ≤ 31 := by omega
  · rw [keys_empty_iff, inetAddr_eq_zero_iff]
    simp
  · rw [keys_whole_iff]
    simp
  · refine iff_of_false (fun hall => ?_) (by omega)
    rw [peerMask_of_pos hpos hn] at hall
    obtain ⟨k, -, hk, hbit⟩ := exists_mask_bit n hlt hpos
    exact not_keys_of_testBit hbit hk hall

/-- The host with one mapping for 10.0.0.10, and a packet to it. -/
theorem selects_by_prefix_iff_host :
    addPeerOption (fun _ => 0xFFFFFFFF) pmInit "10.0.0.10/32:10.0.0.2".toList =
        some (⟨[⟨0x0A00000A, 0xFFFFFFFF, 0x0200000A⟩], 0⟩ : PeerManager) ∧
      wanGetPeerIp { Host.unloaded with
        peerManager := ⟨[⟨0x0A00000A, 0xFFFFFFFF, 0x0200000A⟩], 0⟩ }
        (bswap32 (packetTo ⟨10, 0, 0, 10⟩).ipDstAddr) = inetAddr ⟨10, 0, 0, 2⟩ := by
  have hpm : addPeerOption (fun _ => 0xFFFFFFFF) pmInit
      (peerText ⟨10, 0, 0, 10⟩ 32 ⟨10, 0, 0, 2⟩) =
        some (⟨[⟨0x0A00000A, 0xFFFFFFFF, 0x0200000A⟩], 0⟩ : PeerManager) :=
    addPeerOption_peerText _ _ _ (by decide)
  have hselects := (selects_by_prefix_iff (fun _ => 0xFFFFFFFF) { Host.unloaded with
    peerManager := ⟨[⟨0x0A00000A, 0xFFFFFFFF, 0x0200000A⟩], 0⟩ } ⟨10, 0, 0, 10⟩ ⟨10, 0, 0, 2⟩ 32
    (by decide) hpm).mpr (.inr (.inl ⟨rfl, by decide⟩))
  exact ⟨hpm, hselects (packetTo ⟨10, 0, 0, 10⟩) (packetTo_etherType _)⟩

/-- With `10.1.0.0/16:10.0.0.2` alone in the table, a packet to 10.1.0.1 has no peer. -/
theorem peer_missed_in_subnet :
    addPeerOption (fun _ => 0xFFFFFFFF) pmInit "10.1.0.0/16:10.0.0.2".toList =
        some (⟨[⟨0x0000010A, 0x0000FFFF, 0x0200000A⟩], 0⟩ : PeerManager) ∧
      (packetTo ⟨10, 1, 0, 1⟩).etherType = rteEtherTypeIpv4 ∧
      (ipDst (packetTo ⟨10, 1, 0, 1⟩)).SamePrefix 16 ⟨10, 1, 0, 0⟩ ∧
      wanGetPeerIp { Host.unloaded with
        peerManager := ⟨[⟨0x0000010A, 0x0000FFFF, 0x0200000A⟩], 0⟩ }
        (bswap32 (packetTo ⟨10, 1, 0, 1⟩).ipDstAddr) = 0 ∧
      ¬ SelectsByPrefix { Host.unloaded with
        peerManager := ⟨[⟨0x0000010A, 0x0000FFFF, 0x0200000A⟩], 0⟩ }
        ⟨10, 1, 0, 0⟩ 16 ⟨10, 0, 0, 2⟩ := by
  have hpm : addPeerOption (fun _ => 0xFFFFFFFF) pmInit
      (peerText ⟨10, 1, 0, 0⟩ 16 ⟨10, 0, 0, 2⟩) =
        some (⟨[⟨0x0000010A, 0x0000FFFF, 0x0200000A⟩], 0⟩ : PeerManager) :=
    addPeerOption_peerText _ _ _ (by decide)
  have hlookup : wanGetPeerIp { Host.unloaded with
      peerManager := ⟨[⟨0x0000010A, 0x0000FFFF, 0x0200000A⟩], 0⟩ }
      (bswap32 (packetTo ⟨10, 1, 0, 1⟩).ipDstAddr) = 0 := by
    decide +kernel
  refine ⟨hpm, packetTo_etherType _, by decide +kernel, hlookup, fun hselects => ?_⟩
  have hpeer := hselects (packetTo ⟨10, 1, 0, 1⟩) (packetTo_etherType _)
  rw [hlookup, if_pos (by decide +kernel)] at hpeer
  exact absurd hpeer (by decide)

end RdmaGateway.Tunnel
