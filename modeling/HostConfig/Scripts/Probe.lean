import HostConfig.Models.Types
import HostConfig.Lib.Traverse
import Mathlib.Data.List.TakeWhile

/-!
# `Scripts.Probe` — what the H200 validator reads off a host

A probe answers three questions: what a command prints, whether a tool is installed, what a file holds. The
checks read texts (`lsmod`, `/proc/net/bonding`) and the JSON of `ip -j addr`, whose records come as they
are: a field may be absent or of another type, and a reading of it then raises.

`ipAddrJson`, `iface`, `isUp` and `ipv4s` are the source's readers. Beside each one that can raise stands
what a record says where it can be read at all: `Record.up`, `Record.hasIpv4`.
-/

namespace HostConfig
namespace Scripts

open Models Traverse

/-! ## Texts -/

/-- `needle in text` -/
def isIn (needle text : String) : Bool := decide (needle.toList <:+: text.toList)

/-- `text.count(needle)`, for a needle of which no end is a beginning. -/
def countIn (needle text : String) : Nat := text.toList.tails.countP (needle.toList.isPrefixOf ·)

/-- The text is not empty, nor white space only. -/
def printsText (s : String) : Bool := strip s.toList ≠ []

/-- A text that starts with anything but white space prints. -/
theorem printsText_of_head {s : String} {c : Char} {rest : List Char} (h : s.toList = c :: rest)
    (hc : isSpace c = false) : printsText s = true := by
  unfold printsText strip
  rw [h, List.dropWhile_cons_of_neg (by simp [hc])]
  refine decide_eq_true ?_
  intro hnil
  rw [List.reverse_eq_nil_iff, List.dropWhile_eq_nil_iff] at hnil
  have hspace := hnil c (by simp)
  rw [hc] at hspace
  cases hspace

/-! ## JSON -/

/-- A value `json.loads` returns; a float is a rational where it is finite. -/
inductive Json
  | null
  | bool (b : Bool)
  | int (z : Int)
  | float (q : Option Rat)
  | str (s : String)
  | arr (elements : List Json)
  | obj (entries : List (String × Json))

/-- What leaves a check as an exception. -/
inductive Raised
  | typeError | attributeError
  /-- An exception of `json.loads` that is not a `JSONDecodeError`. -/
  | loading (exc : String)
deriving DecidableEq

inductive Loaded
  | value (j : Json)
  | decodeError
  | raises (exc : String)

/-- What the script takes from Python's library: `json.loads`, `json.dumps(_, indent=2)`, `repr` of a
    string, and `str` of a value that is not a string. -/
structure Python where
  loads : String → Loaded
  dumps : Json → String
  repr : String → String
  str : Json → String

namespace Json

/-- `value == s` -/
def isStr (s : String) : Json → Bool
  | .str t => t = s
  | _      => false

/-- `value == n`; a boolean is a number. -/
def isInt (n : Int) : Json → Bool
  | .int z          => z = n
  | .bool b         => (if b then 1 else 0) = n
  | .float (some q) => q = n
  | _               => false

/-- `key in value` -/
def contains (key : String) : Json → Except Raised Bool
  | .arr elements => .ok (elements.any (isStr key))
  | .obj entries  => .ok (entries.any (·.1 = key))
  | .str text     => .ok (isIn key text)
  | _             => .error .typeError

/-- `key in value`, where that can be asked. -/
def holds (key : String) (j : Json) : Bool := (j.contains key).toOption.getD false

/-- `str(value)` -/
def text (py : Python) : Json → String
  | .str s => s
  | j      => py.str j

end Json

/-! ## The host -/

structure Proc where
  rc : Int
  out : String
  err : String

/-- `Probe` -/
structure Probe where
  run : List String → Proc
  haveTool : String → Bool
  readText : String → Option String

/-- `Config` -/
structure Config where
  rails : Int := 8
  ipoibMtu : Int := 2044
  vlanCount : Int := 3
  bondName : String := "bond0"
  netplanPath : String := "/etc/netplan/60-lab.yaml"
  rdmaLimitsPath : String := "/etc/security/limits.d/rdma.conf"

/-! ## The records of `ip -j addr` -/

/-- A JSON object. -/
abbrev Record := List (String × Json)

/-- `rec.get(key, default)` -/
def Record.get (rec : Record) (key : String) (default : Json) : Json := (rec.lookup key).getD default

def asRecord : Json → Option Record
  | .obj entries => some entries
  | _            => none

/-- `_ip_addr_json` -/
def ipAddrJson (py : Python) (probe : Probe) : Except Raised (List Record) :=
  let proc := probe.run ["ip", "-j", "addr"]
  if proc.rc ≠ 0 || !printsText proc.out then .ok []
  else
    match py.loads proc.out with
    | .decodeError           => .ok []
    | .raises exc            => .error (.loading exc)
    | .value (.arr elements) => .ok (elements.filterMap asRecord)
    -- the keys of an object and the characters of a text are no records
    | .value (.obj _)        => .ok []
    | .value (.str _)        => .ok []
    | .value _               => .error .typeError

/-- `_iface` -/
def iface (records : List Record) (name : String) : Option Record :=
  records.find? fun rec => (rec.get "ifname" .null).isStr name

/-- `_is_up` -/
def isUp (rec : Record) : Except Raised Bool :=
  if (rec.get "operstate" .null).isStr "UP" then .ok true
  else do
    let flags := rec.get "flags" (.arr [])
    if ← flags.contains "UP" then flags.contains "LOWER_UP" else .ok false

/-- The loop of `_ipv4s`, over the entries of a list. -/
def localsOf : List Json → Except Raised (List Json)
  | []        => .ok []
  | a :: rest =>
      match asRecord a with
      | none       => .error .attributeError
      | some entry => do
          let locals ← localsOf rest
          .ok (if (entry.get "family" .null).isStr "inet" then
            entry.get "local" (.str "") :: locals else locals)

/-- `_ipv4s` -/
def ipv4s (rec : Record) : Except Raised (List Json) :=
  match rec.get "addr_info" (.arr []) with
  | .arr entries => localsOf entries
  -- what a loop over an object or a text runs through are texts, which have no `get`
  | .obj entries => if entries = [] then .ok [] else .error .attributeError
  | .str s       => if s = "" then .ok [] else .error .attributeError
  | _            => .error .typeError

/-- `str(r.get("ifname", "")).startswith(f"{cfg.bond_name}.")` -/
def isVlanOf (py : Python) (bondName : String) (rec : Record) : Bool :=
  (bondName ++ ".").toList.isPrefixOf ((rec.get "ifname" (.str "")).text py).toList

/-! ## What a record says -/

/-- The interface is operationally up, or has both flags. -/
def Record.up (rec : Record) : Bool :=
  (rec.get "operstate" .null).isStr "UP" ||
    ((rec.get "flags" (.arr [])).holds "UP" && (rec.get "flags" (.arr [])).holds "LOWER_UP")

/-- An address entry is of the IPv4 family. -/
def isInet (a : Json) : Bool := (asRecord a).any fun entry => (entry.get "family" .null).isStr "inet"

def Record.hasIpv4 (rec : Record) : Bool :=
  match rec.get "addr_info" (.arr []) with
  | .arr entries => entries.any isInet
  | _            => false

section

variable {rec : Record} {key : String} {j : Json}

theorem holds_of_contains {b : Bool} (h : j.contains key = .ok b) : j.holds key = b := by
  unfold Json.holds
  rw [h]
  rfl

theorem contains_of_holds (h : j.holds key = true) : j.contains key = .ok true := by
  cases hcontains : j.contains key with
  | error e =>
    rw [Json.holds, hcontains] at h
    cases h
  | ok b => rw [← holds_of_contains hcontains, h]

/-- Where `_is_up` returns, it returns what the record says. -/
theorem up_of_isUp {b : Bool} (h : isUp rec = .ok b) : rec.up = b := by
  unfold isUp at h
  unfold Record.up
  by_cases hoper : (rec.get "operstate" .null).isStr "UP" = true
  · rw [if_pos hoper] at h
    rw [hoper, Bool.true_or]
    exact Except.ok.inj h
  · rw [if_neg hoper] at h
    obtain ⟨first, hfirst, h⟩ := bind_eq_ok.mp h
    rw [Bool.eq_false_iff.mpr hoper, Bool.false_or, holds_of_contains hfirst]
    cases first with
    | true =>
      rw [Bool.true_and]
      exact holds_of_contains h
    | false =>
      rw [Bool.false_and]
      exact Except.ok.inj h

theorem isUp_of_up (h : rec.up = true) : isUp rec = .ok true := by
  unfold Record.up at h
  unfold isUp
  by_cases hoper : (rec.get "operstate" .null).isStr "UP" = true
  · exact if_pos hoper
  · rw [Bool.eq_false_iff.mpr hoper, Bool.false_or, Bool.and_eq_true] at h
    rw [if_neg hoper]
    show (_ >>= _) = _
    rw [contains_of_holds h.1]
    exact contains_of_holds h.2

theorem localsOf_eq_nil_iff {entries locals : List Json} (h : localsOf entries = .ok locals) :
    locals = [] ↔ entries.any isInet = false := by
  induction entries generalizing locals with
  | nil => simp [← Except.ok.inj h]
  | cons a entries ih =>
    rw [localsOf] at h
    rw [List.any_cons]
    cases ha : asRecord a with
    | none => simp [ha] at h
    | some entry =>
      simp only [ha] at h
      obtain ⟨rest, hrest, h⟩ := bind_eq_ok.mp h
      rw [← Except.ok.inj h, isInet, ha, Option.any_some]
      cases (entry.get "family" .null).isStr "inet" with
      | true => simp
      | false => simpa using ih hrest

/-- Where `_ipv4s` returns, it returns an address exactly if the record says there is one. -/
theorem hasIpv4_of_ipv4s {locals : List Json} (h : ipv4s rec = .ok locals) :
    rec.hasIpv4 = !locals.isEmpty := by
  unfold ipv4s at h
  unfold Record.hasIpv4
  have hnone : ∀ {e : Raised} {c : Prop} [Decidable c], (if c then .ok [] else .error e) = Except.ok locals →
      locals = [] := by
    intro e c _ hite
    by_cases hc : c
    · rw [if_pos hc] at hite
      exact (Except.ok.inj hite).symm
    · rw [if_neg hc] at hite
      cases hite
  -- Python iterates over a list, the keys of an object and the characters of a string; the rest raises
  cases hinfo : rec.get "addr_info" (.arr []) with
  | arr entries =>
    simp only [hinfo] at h
    have hnil := localsOf_eq_nil_iff h
    cases hany : entries.any isInet with
    | true => simp [hany] at hnil ⊢; exact hnil
    | false => simp [hnil.mpr hany, hany]
  | obj entries =>
    simp only [hinfo] at h
    simp [hnone h]
  | str s =>
    simp only [hinfo] at h
    simp [hnone h]
  | null => simp [hinfo] at h
  | bool b => simp [hinfo] at h
  | int z => simp [hinfo] at h
  | float q => simp [hinfo] at h

end

end Scripts
end HostConfig
