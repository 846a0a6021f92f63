import Mathlib.Algebra.Group.Nat.Defs
import Mathlib.Data.Fin.Basic
import Mathlib.Data.List.Basic

/-!
# `Lib.Ipv4` — IPv4 addresses and interfaces, as the standard library reads and writes them

`IPv4Address` is a 32-bit number, `IPv4Interface` an address with a prefix length; both carry their range
as a field. `str` writes them (dotted quad, `/` and the prefix length), `parse` reads them with the
standard library's rules: four dot-separated decimal octets of at most three ASCII digits and no leading
zero, then optionally `/` and a prefix length, a netmask or a hostmask.

The facts clients need: dotted quads are injective (`IPv4Address.str_inj`), the hosts of a network are never
exhausted before the first one (`IPv4Interface.firstHost_isSome`), and where in the network that one is
(`IPv4Interface.firstHost_eq_some_iff`).
-/

/-- An IPv4 address. -/
structure IPv4Address where
  toNat : Nat
  lt : toNat < 2 ^ 32
deriving DecidableEq

/-- An IPv4 address with the prefix length of its network. -/
structure IPv4Interface where
  ip : IPv4Address
  prefixlen : Fin 33
deriving DecidableEq

namespace IPv4Address

@[ext] theorem ext {a b : IPv4Address} (h : a.toNat = b.toNat) : a = b := by
  cases a; cases b; simp_all

/-- The four octets, most significant first. -/
def octets (a : IPv4Address) : List Nat :=
  [a.toNat / 2 ^ 24 % 256, a.toNat / 2 ^ 16 % 256, a.toNat / 2 ^ 8 % 256, a.toNat % 256]

/-- Four octets as an address. -/
def ofOctets (a b c d : Fin 256) : IPv4Address :=
  ⟨((a.val * 256 + b.val) * 256 + c.val) * 256 + d.val, by omega⟩

/-- The characters of the dotted quad. -/
def chars (a : IPv4Address) : List Char := ['.'].intercalate (a.octets.map (Nat.toDigits 10))

/-- `str(a)` -/
def str (a : IPv4Address) : String := String.ofList a.chars

/-- The octets are the digits of the number in base 256, -/
theorem ofNat_octets (a : IPv4Address) :
    ((a.toNat / 2 ^ 24 % 256 * 256 + a.toNat / 2 ^ 16 % 256) * 256 + a.toNat / 2 ^ 8 % 256) * 256
      + a.toNat % 256 = a.toNat := by
  have := a.lt
  omega

/-- so they determine the address. -/
theorem octets_inj {a b : IPv4Address} (h : a.octets = b.octets) : a = b := by
  simp only [octets, List.cons.injEq, and_true] at h
  obtain ⟨h1, h2, h3, h4⟩ := h
  apply IPv4Address.ext
  rw [← ofNat_octets a, ← ofNat_octets b, h1, h2, h3, h4]

/-- A character that is not a digit does not occur in a decimal numeral. -/
theorem notMem_toDigits {c : Char} (hc : c.isDigit = false) (n : Nat) : c ∉ Nat.toDigits 10 n := by
  intro h
  have hdigit := Nat.isDigit_of_mem_toDigits (by decide) (by decide) h
  rw [hc] at hdigit
  exact absurd hdigit (by decide)

/-- Decimal numerals determine their numbers. -/
theorem toDigits_injective : Function.Injective (Nat.toDigits 10) := by
  intro m n hmn
  rw [← Nat.ofDigitChars_ten_toDigits (n := m), hmn, Nat.ofDigitChars_ten_toDigits]

theorem toList_str (a : IPv4Address) : a.str.toList = a.chars := String.toList_ofList

/-- A dotted quad is made of digits and dots. -/
theorem notMem_chars {c : Char} (hc : c.isDigit = false) (hdot : c ≠ '.') (a : IPv4Address) :
    c ∉ a.chars := by
  simp [chars, octets, notMem_toDigits hc, hdot]

/-- Splitting a dotted quad at its dots gives its octets back. -/
theorem splitOn_chars (a : IPv4Address) : a.chars.splitOn '.' = a.octets.map (Nat.toDigits 10) := by
  refine List.splitOn_intercalate _ ?_ (by simp [octets])
  intro l hl
  obtain ⟨n, _, rfl⟩ := List.mem_map.mp hl
  exact notMem_toDigits (by decide) n

/-- **Dotted quads are injective.** -/
theorem str_inj {a b : IPv4Address} : a.str = b.str ↔ a = b := by
  refine ⟨fun h => ?_, fun h => by rw [h]⟩
  have hchars : a.chars = b.chars := String.ofList_injective h
  have hdigits : a.octets.map (Nat.toDigits 10) = b.octets.map (Nat.toDigits 10) := by
    rw [← splitOn_chars, ← splitOn_chars, hchars]
  refine octets_inj (List.map_injective_iff.mpr (fun m n hmn => ?_) hdigits)
  rw [← Nat.ofDigitChars_ten_toDigits (n := m), hmn, Nat.ofDigitChars_ten_toDigits]

/-! ## Reading -/

/-- `str.isdigit()` on an ASCII string. -/
def asciiDigits (cs : List Char) : Bool := !cs.isEmpty && cs.all Char.isDigit

/-- One octet: one to three ASCII digits, no leading zero, at most 255. -/
def parseOctet (cs : List Char) : Option (Fin 256) :=
  if !asciiDigits cs || 3 < cs.length || (cs ≠ ['0'] && cs.head? = some '0') then none
  else if h : Nat.ofDigitChars 10 cs 0 < 256 then some ⟨_, h⟩ else none

/-- A dotted quad: exactly four octets. -/
def parse (cs : List Char) : Option IPv4Address :=
  match cs.splitOn '.' with
  | [a, b, c, d] => do return ofOctets (← parseOctet a) (← parseOctet b) (← parseOctet c) (← parseOctet d)
  | _            => none

end IPv4Address

namespace IPv4Interface

open IPv4Address

/-- `str(i)`: the dotted quad, `/`, the prefix length. -/
def str (i : IPv4Interface) : String := i.ip.str ++ "/" ++ toString i.prefixlen.val

theorem toList_str (i : IPv4Interface) : i.str.toList = i.ip.chars ++
    '/' :: Nat.toDigits 10 i.prefixlen.val := by
  rw [str, String.toList_append, String.toList_append, IPv4Address.toList_str, List.append_assoc]
  exact congrArg (i.ip.chars ++ '/' :: ·) Nat.toList_repr

/-- A printed interface is the interface. -/
theorem str_inj {i j : IPv4Interface} : i.str = j.str ↔ i = j := by
  refine ⟨fun h => ?_, fun h => by rw [h]⟩
  have hslash : ∀ a : IPv4Address, '/' ∉ a.chars := notMem_chars (by decide) (by decide)
  have hdigits : ∀ n, '/' ∉ Nat.toDigits 10 n := notMem_toDigits (by decide)
  have hchars := congrArg String.toList h
  rw [toList_str, toList_str, List.append_cons_inj_of_notMem (hslash _) (hdigits _)] at hchars
  obtain ⟨hip, -, hprefix⟩ := hchars
  have hip' : i.ip = j.ip := IPv4Address.str_inj.mp (congrArg String.ofList hip)
  have hprefix' : i.prefixlen = j.prefixlen := Fin.ext (toDigits_injective hprefix)
  cases i
  cases j
  simp_all

/-- The prefix length whose netmask is `n`, if there is one. -/
def prefixFromIpInt (n : Nat) : Option (Fin 33) :=
  (List.finRange 33).find? (fun p => n = 2 ^ 32 - 2 ^ (32 - p.val))

/-- The part after the slash: a prefix length, else a netmask, else a hostmask. -/
def makeNetmask (cs : List Char) : Option (Fin 33) :=
  let asMask : Option (Fin 33) := do
    let mask ← IPv4Address.parse cs
    (prefixFromIpInt mask.toNat).orElse (fun _ => prefixFromIpInt (2 ^ 32 - 1 - mask.toNat))
  if asciiDigits cs then
    if h : Nat.ofDigitChars 10 cs 0 < 33 then some ⟨_, h⟩ else asMask
  else asMask

/-- `IPv4Interface(text)`: `none` where the constructor raises. A missing slash means `/32`. -/
def parse (text : String) : Option IPv4Interface :=
  match text.toList.splitOn '/' with
  | [addr]       => do return ⟨← IPv4Address.parse addr, 32⟩
  | [addr, mask] => do
      let ip ← IPv4Address.parse addr
      let p ← makeNetmask mask
      return ⟨ip, p⟩
  | _            => none

/-! ## The network of an interface and its hosts -/

/-- The number of addresses in the network. -/
def blockSize (i : IPv4Interface) : Nat := 2 ^ (32 - i.prefixlen.val)

/-- The network address. -/
def networkAddress (i : IPv4Interface) : Nat := i.ip.toNat / i.blockSize * i.blockSize

/-- The hosts of the network, as a half-open range: without the network and broadcast addresses up to
    `/30`, both addresses of a `/31`, the one address of a `/32`. -/
def hosts (i : IPv4Interface) : Nat × Nat :=
  if i.prefixlen.val ≤ 30 then (i.networkAddress + 1, i.networkAddress + i.blockSize - 1)
  else (i.networkAddress, i.networkAddress + i.blockSize)

/-- A network ends within the address space, -/
theorem networkAddress_add_blockSize_le (i : IPv4Interface) : i.networkAddress + i.blockSize ≤ 2 ^ 32 := by
  have hp : i.prefixlen.val ≤ 32 := Nat.lt_succ_iff.mp i.prefixlen.isLt
  have hpow : 2 ^ 32 = 2 ^ i.prefixlen.val * i.blockSize := by
    rw [blockSize, ← Nat.pow_add, Nat.add_sub_cancel' hp]
  have hlt : i.ip.toNat / i.blockSize < 2 ^ i.prefixlen.val := by
    exact Nat.div_lt_of_lt_mul (by rw [Nat.mul_comm, ← hpow]; exact i.ip.lt)
  calc i.networkAddress + i.blockSize = (i.ip.toNat / i.blockSize + 1) * i.blockSize := by
        rw [networkAddress, Nat.add_mul, Nat.one_mul]
    _ ≤ 2 ^ i.prefixlen.val * i.blockSize := Nat.mul_le_mul_right _ hlt
    _ = 2 ^ 32 := hpow.symm

/-- has a host, -/
theorem hosts_nonempty (i : IPv4Interface) : i.hosts.1 < i.hosts.2 := by
  have hpos : 1 ≤ i.blockSize := Nat.one_le_two_pow
  unfold hosts
  split
  · have h4 : 2 ^ 2 ≤ i.blockSize := Nat.pow_le_pow_right (by decide) (by omega)
    simp only; omega
  · simp only; omega

/-- and all its hosts are addresses. -/
theorem hosts_snd_le (i : IPv4Interface) : i.hosts.2 ≤ 2 ^ 32 := by
  have := networkAddress_add_blockSize_le i
  unfold hosts
  split <;> simp only <;> omega

/-- `next(iter(hosts))`: `none` where the iterator is exhausted at once. -/
def firstHost (i : IPv4Interface) : Option IPv4Address :=
  if h : i.hosts.1 < i.hosts.2 then some ⟨i.hosts.1, Nat.lt_of_lt_of_le h i.hosts_snd_le⟩ else none

/-- **Every network has a first host**, whatever its prefix length. -/
theorem firstHost_isSome (i : IPv4Interface) : i.firstHost.isSome := by
  rw [firstHost, dif_pos i.hosts_nonempty]; rfl

/-! ## Where the first host is -/

/-- The address is in the network. -/
def Contains (i : IPv4Interface) (a : IPv4Address) : Prop :=
  i.networkAddress ≤ a.toNat ∧ a.toNat < i.networkAddress + i.blockSize

/-- The number of the first host within the network. The network address is a host of a
    `/31` or `/32` only. -/
def firstHostNumber (i : IPv4Interface) : Nat := if i.prefixlen.val ≤ 30 then 1 else 0

/-- An address is its network's and its number within it. -/
theorem networkAddress_add_mod (i : IPv4Interface) :
    i.networkAddress + i.ip.toNat % i.blockSize = i.ip.toNat := by
  unfold networkAddress
  rw [Nat.mul_comm]
  exact Nat.div_add_mod i.ip.toNat i.blockSize

/-- The hosts begin where the first one is counted from. -/
theorem hosts_fst (i : IPv4Interface) : i.hosts.1 = i.networkAddress + i.firstHostNumber := by
  unfold hosts firstHostNumber
  split <;> rfl

/-- The first host is an address for every prefix length. -/
theorem firstHost_eq_some_iff {i : IPv4Interface} {a : IPv4Address} :
    i.firstHost = some a ↔ a.toNat = i.networkAddress + i.firstHostNumber := by
  rw [← hosts_fst]
  unfold firstHost
  rw [dif_pos i.hosts_nonempty, Option.some.injEq]
  constructor
  · intro h
    rw [← h]
  · intro h
    exact IPv4Address.ext h.symm

/-- **The first host is in the network.** -/
theorem contains_firstHost {i : IPv4Interface} {a : IPv4Address} (h : i.firstHost = some a) :
    i.Contains a := by
  have hfirst := firstHost_eq_some_iff.mp h
  have hnonempty := i.hosts_nonempty
  rw [hosts_fst] at hnonempty
  have hlast : i.hosts.2 ≤ i.networkAddress + i.blockSize := by
    unfold hosts
    split
    · show i.networkAddress + i.blockSize - 1 ≤ _
      omega
    · exact Nat.le_refl _
  constructor <;> omega

/-- Up to `/30` it is neither the network nor the broadcast address. -/
theorem firstHost_between {i : IPv4Interface} {a : IPv4Address} (h : i.firstHost = some a)
    (hp : i.prefixlen.val ≤ 30) : i.networkAddress < a.toNat ∧
      a.toNat + 1 < i.networkAddress + i.blockSize := by
  have hfirst := firstHost_eq_some_iff.mp h
  rw [firstHostNumber, if_pos hp] at hfirst
  have hsize : 2 ^ 2 ≤ i.blockSize := Nat.pow_le_pow_right (by decide) (by omega)
  omega

/-- The interface's own address is the first host exactly when it has that number. -/
theorem firstHost_eq_ip_iff (i : IPv4Interface) :
    i.firstHost = some i.ip ↔ i.ip.toNat % i.blockSize = i.firstHostNumber := by
  have hip := i.networkAddress_add_mod
  rw [firstHost_eq_some_iff]
  omega

end IPv4Interface
