import HostConfig.Lib.Regex
import HostConfig.Lib.Ipv4

/-!
# `Models.Types` — the scalar types of the model package

Every constrained field of the models is a value with its constraint as a field, so that a model instance
in this development is a field-valid one: `BoundedStr` for `Field(min_length, max_length)`, `BoundedInt`
for `Field(ge, le)`, `MacAddress` for the validated MAC string. Each has a `validate` that says which raw
inputs pydantic accepts.

String lengths are counted in code points, on both sides.
-/

namespace HostConfig
namespace Models

/-! ## Bounded strings and integers -/

/-- A `str` with `min_length = lo` and `max_length = hi`. -/
structure BoundedStr (lo hi : Nat) where
  val : String
  bounds : lo ≤ val.length ∧ val.length ≤ hi
deriving DecidableEq

@[ext] theorem BoundedStr.ext {lo hi : Nat} {a b : BoundedStr lo hi} (h : a.val = b.val) : a = b := by
  cases a; cases b; simp_all

/-- The strings the field accepts. -/
def BoundedStr.validate (lo hi : Nat) (s : String) : Option (BoundedStr lo hi) :=
  if h : lo ≤ s.length ∧ s.length ≤ hi then some ⟨s, h⟩ else none

/-- An `int` with `ge = lo` and `le = hi`. -/
structure BoundedInt (lo hi : Nat) where
  val : Nat
  bounds : lo ≤ val ∧ val ≤ hi
deriving DecidableEq

@[ext] theorem BoundedInt.ext {lo hi : Nat} {a b : BoundedInt lo hi} (h : a.val = b.val) : a = b := by
  cases a; cases b; simp_all

/-- The integers the field accepts. -/
def BoundedInt.validate (lo hi : Nat) (z : Int) : Option (BoundedInt lo hi) :=
  if h : (lo : Int) ≤ z ∧ z ≤ hi then some ⟨z.toNat, by omega⟩ else none

theorem BoundedStr.validate_isSome {lo hi : Nat} {s : String} :
    (BoundedStr.validate lo hi s).isSome ↔ lo ≤ s.length ∧ s.length ≤ hi := by
  unfold BoundedStr.validate; split <;> simp_all

theorem BoundedStr.val_of_validate {lo hi : Nat} {s : String} {b : BoundedStr lo hi}
    (h : BoundedStr.validate lo hi s = some b) : b.val = s := by
  unfold BoundedStr.validate at h
  split at h
  · rw [← Option.some.inj h]
  · cases h

theorem BoundedStr.validate_val {lo hi : Nat} (b : BoundedStr lo hi) :
    BoundedStr.validate lo hi b.val = some b :=
  dif_pos b.bounds

theorem BoundedInt.validate_isSome {lo hi : Nat} {z : Int} :
    (BoundedInt.validate lo hi z).isSome ↔ (lo : Int) ≤ z ∧ z ≤ hi := by
  unfold BoundedInt.validate; split <;> simp_all

theorem BoundedInt.val_of_validate {lo hi : Nat} {z : Int} {b : BoundedInt lo hi}
    (h : BoundedInt.validate lo hi z = some b) : (b.val : Int) = z := by
  unfold BoundedInt.validate at h
  split at h
  · rename_i hz
    rw [← Option.some.inj h]
    exact Int.toNat_of_nonneg (le_trans (Int.natCast_nonneg lo) hz.1)
  · cases h

def minMtu : Nat := 1500
def maxMtu : Nat := 9216
def minVlanId : Nat := 1
def maxVlanId : Nat := 4094

/-- A kernel interface name. -/
abbrev IfName := BoundedStr 1 15
abbrev AssetTag := BoundedStr 1 64
abbrev Hostname := BoundedStr 1 253
abbrev Mtu := BoundedInt minMtu maxMtu
abbrev VlanId := BoundedInt minVlanId maxVlanId

/-! ## MAC addresses -/

def hexDigits : List Char :=
  ['0', '1', '2', '3', '4', '5', '6', '7', '8', '9', 'a', 'b', 'c', 'd', 'e', 'f']

/-- Two lowercase hex digits. -/
def hexOctet : RegularExpression Char := Regex.times 2 (Regex.oneOf hexDigits)

/-- `^([0-9a-f]{2}:){5}[0-9a-f]{2}$`. The `$` would also match before a final line feed, but the string
    matched against has been stripped. -/
def macRe : RegularExpression Char := Regex.times 5 (hexOctet * .char ':') * hexOctet

/-- `str.isspace` on one character: what `str.strip` removes. -/
def isSpace (c : Char) : Bool :=
  let n := c.toNat
  (9 ≤ n && n ≤ 13) || (28 ≤ n && n ≤ 32) || n == 0x85 || n == 0xa0 || n == 0x1680 ||
  (0x2000 ≤ n && n ≤ 0x200a) || n == 0x2028 || n == 0x2029 || n == 0x202f || n == 0x205f || n == 0x3000

/-- `str.strip` -/
def strip (cs : List Char) : List Char := ((cs.dropWhile isSpace).reverse.dropWhile isSpace).reverse

/-- What `str.splitlines` ends a line at. -/
def isLineBreak (c : Char) : Bool :=
  [0x0a, 0x0b, 0x0c, 0x0d, 0x1c, 0x1d, 0x1e, 0x85, 0x2028, 0x2029].contains c.toNat

/-- The lines from here on, after `line` of the first one in reverse. -/
def splitlinesFrom (line : List Char) : List Char → List (List Char)
  | []                   => if line = [] then [] else [line.reverse]
  | '\r' :: '\n' :: rest => line.reverse :: splitlinesFrom [] rest
  | c :: rest            =>
      if isLineBreak c then line.reverse :: splitlinesFrom [] rest else splitlinesFrom (c :: line) rest

/-- `str.splitlines` -/
def splitlines (s : String) : List (List Char) := splitlinesFrom [] s.toList

/-- `str.split`, at runs of white space. -/
def split (cs : List Char) : List (List Char) := (cs.splitOnP isSpace).filter (· ≠ [])

/-- `str.lower`, on the ASCII letters. No other character lowers to a hex digit, a colon or white space,
    so the strings `macRe` matches after lowering are the same. -/
def lower (cs : List Char) : List Char := cs.map Char.toLower

/-- Lower-casing twice is lower-casing. -/
theorem lower_lower (cs : List Char) : lower (lower cs) = lower cs := by
  have hchar : ∀ c : Char, c.toLower.toLower = c.toLower := by
    intro c
    have hfixed : ¬ (c.toLower.val ≥ 'A'.val ∧ c.toLower.val ≤ 'Z'.val) := by
      unfold Char.toLower
      split
      · grind [UInt32.toNat_add]
      · assumption
    exact dif_neg hfixed
  unfold lower
  rw [List.map_map]
  exact List.map_congr_left fun c _ => hchar c

/-- A validated MAC string. -/
structure MacAddress where
  val : String
  canonical : macRe.rmatch val.toList = true
deriving DecidableEq

/-- `_validate_mac` on a string: lower-case, strip, match. -/
def validateMac (v : String) : Option MacAddress :=
  let v := String.ofList (strip (lower v.toList))
  if h : macRe.rmatch v.toList = true then some ⟨v, h⟩ else none

theorem MacAddress.val_of_validate {v : String} {m : MacAddress} (h : validateMac v = some m) :
    m.val.toList = strip (lower v.toList) := by
  unfold validateMac at h
  simp only at h
  split at h
  · rw [← Option.some.inj h, String.toList_ofList]
  · cases h

/-- A MAC string is made of hex digits and colons. -/
theorem MacAddress.notMem (m : MacAddress) {c : Char} (h : Regex.maxCount macRe c = some 0) :
    c ∉ m.val.toList :=
  Regex.notMem_of_rmatch h m.canonical

/-- A text without white space is its own `strip`. -/
theorem strip_of_forall {cs : List Char} (h : ∀ c ∈ cs, isSpace c = false) : strip cs = cs := by
  have hdrop : ∀ l : List Char, (∀ c ∈ l, isSpace c = false) → l.dropWhile isSpace = l := by
    intro l hl
    cases l with
    | nil => rfl
    | cons c l => rw [List.dropWhile_cons_of_neg (by simp [hl c List.mem_cons_self])]
  unfold strip
  rw [hdrop cs h, hdrop cs.reverse (by simpa using h), List.reverse_reverse]

theorem mem_symbols_macRe {c : Char} (h : c ∈ Regex.symbols macRe) : c ∈ ':' :: hexDigits := by
  have hoctet : ∀ d ∈ Regex.symbols hexOctet, d ∈ hexDigits := by
    intro d hd
    have hd := Regex.mem_symbols_of_times hd
    rwa [Regex.symbols_oneOf] at hd
  unfold macRe at h
  rw [Regex.symbols_mul] at h
  rcases List.mem_append.mp h with h | h
  · have h := Regex.mem_symbols_of_times h
    rw [Regex.symbols_mul, Regex.symbols_char] at h
    rcases List.mem_append.mp h with h | h
    · exact List.mem_cons_of_mem _ (hoctet c h)
    · exact List.mem_cons.mpr (.inl (List.mem_singleton.mp h))
  · exact List.mem_cons_of_mem _ (hoctet c h)

/-- A text of MAC form has no white space around it. -/
theorem strip_of_rmatch {cs : List Char} (h : macRe.rmatch cs = true) : strip cs = cs := by
  have hspace : (':' :: hexDigits).all (fun c => !isSpace c) = true := by decide
  apply strip_of_forall
  intro c hc
  have hnot := List.all_eq_true.mp hspace c (mem_symbols_macRe (Regex.mem_symbols_of_rmatch h hc))
  simpa using hnot

example : (validateMac "  AA:bb:CC:00:00:01 ").map (·.val) = some "aa:bb:cc:00:00:01" := by decide

end Models
end HostConfig
