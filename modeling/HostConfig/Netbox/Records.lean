import Mathlib.Data.Rat.Defs
import HostConfig.Errors
import HostConfig.Models.Types

/-!
# `Netbox.Records` — what the loader reads from Netbox

The records pynetbox returns, with the attributes the loader reads, and `Client`: the three calls it makes,
each of which returns records or raises. A nullable attribute is an `Option`. A client is a snapshot: a call
made twice gives the same answer.

The last section is `int()` and `str.isdigit` of the standard library, on the values a custom field can have
and on interface names.
-/

namespace HostConfig
namespace Netbox

open Models

/-! ## Digits and integers -/

/-- The first digit of every run of ten decimal digits in Unicode 15.0. -/
def decimalStarts : List Nat :=
  [0x30, 0x660, 0x6f0, 0x7c0, 0x966, 0x9e6, 0xa66, 0xae6, 0xb66, 0xbe6, 0xc66, 0xce6, 0xd66, 0xde6, 0xe50,
   0xed0, 0xf20, 0x1040, 0x1090, 0x17e0, 0x1810, 0x1946, 0x19d0, 0x1a80, 0x1a90, 0x1b50, 0x1bb0, 0x1c40,
   0x1c50, 0xa620, 0xa8d0, 0xa900, 0xa9d0, 0xa9f0, 0xaa50, 0xabf0, 0xff10, 0x104a0, 0x10d30, 0x11066, 0x110f0,
   0x11136, 0x111d0, 0x112f0, 0x11450, 0x114d0, 0x11650, 0x116c0, 0x11730, 0x118e0, 0x11950, 0x11c50, 0x11d50,
   0x11da0, 0x11f50, 0x16a60, 0x16ac0, 0x16b50, 0x1d7ce, 0x1d7d8, 0x1d7e2, 0x1d7ec, 0x1d7f6, 0x1e140, 0x1e2f0,
   0x1e4f0, 0x1e950, 0x1fbf0]

/-- The characters that are digits without being decimal digits: superscripts, circled digits and the like. -/
def otherDigits : List (Nat × Nat) :=
  [(0xb2, 0xb3), (0xb9, 0xb9), (0x1369, 0x1371), (0x19da, 0x19da), (0x2070, 0x2070), (0x2074, 0x2079),
   (0x2080, 0x2089), (0x2460, 0x2468), (0x2474, 0x247c), (0x2488, 0x2490), (0x24ea, 0x24ea), (0x24f5, 0x24fd),
   (0x24ff, 0x24ff), (0x2776, 0x277e), (0x2780, 0x2788), (0x278a, 0x2792), (0x10a40, 0x10a43),
   (0x10e60, 0x10e68), (0x11052, 0x1105a), (0x1f100, 0x1f10a)]

/-- The value of a decimal digit, in any script. -/
def decimal (c : Char) : Option Nat :=
  (decimalStarts.find? fun s => s ≤ c.toNat && c.toNat < s + 10).map (c.toNat - ·)

/-- `str.isdigit` -/
def isdigit (cs : List Char) : Bool :=
  !cs.isEmpty && cs.all fun c =>
    (decimal c).isSome || otherDigits.any fun r => r.1 ≤ c.toNat && c.toNat ≤ r.2

/-- What `int()` skips around a numeral: of the ASCII white space, not the separators `\x1c` to `\x1f`. -/
def intSpace (c : Char) : Bool := isSpace c && !(28 ≤ c.toNat && c.toNat ≤ 31)

/-- The digits of a numeral without its sign, in groups separated by single underscores. -/
def natOfStr (cs : List Char) : Option Nat := do
  let groups ← (cs.splitOn '_').mapM fun g => if g = [] then none else g.mapM decimal
  if 4300 < groups.flatten.length then none
  else return groups.flatten.foldl (fun n d => 10 * n + d) 0

/-- `int(text)`: `none` where it raises `ValueError`. -/
def intOfStr (text : String) : Option Int :=
  match ((text.toList.dropWhile intSpace).reverse.dropWhile intSpace).reverse with
  | '-' :: cs => (natOfStr cs).map (fun n => -(n : Int))
  | '+' :: cs => (natOfStr cs).map (fun n => (n : Int))
  | cs        => (natOfStr cs).map (fun n => (n : Int))

/-- A value of a custom field, as it comes out of the JSON of a response. -/
inductive JsonValue
  | null
  | bool (b : Bool)
  | int (z : Int)
  | float (q : Rat)
  | nan
  | infinity
  | str (s : String)
  | array
  | object
deriving DecidableEq

/-- `int(value)` -/
def JsonValue.toInt : JsonValue → Except PyExc Int
  | .bool b   => .ok (if b then 1 else 0)
  | .int z    => .ok z
  | .float q  => .ok (q.num.tdiv q.den)
  | .nan      => .error (.valueError "cannot convert float NaN to integer")
  | .infinity => .error (.overflowError "cannot convert float infinity to integer")
  | .str s    =>
      match intOfStr s with
      | some z => .ok z
      | none   => .error (.valueError "invalid literal for int()")
  | .null     => .error (.typeError "int() argument must be a string, a bytes-like object or a real number")
  | .array    => .error (.typeError "int() argument must be a string, a bytes-like object or a real number")
  | .object   => .error (.typeError "int() argument must be a string, a bytes-like object or a real number")

example : intOfStr " +1_6 " = some 16 := by decide

/-! ## Records -/

structure RoleRecord where
  slug : Option String

/-- A device. -/
structure Device where
  id : Int
  name : Option String
  role : Option RoleRecord

/-- A MAC address record; `display` is what `str(record)` gives. -/
structure MacRecord where
  macAddress : Option String
  display : String

structure VlanRecord where
  vid : Int
  name : String

/-- An interface of a device. -/
structure InterfaceRecord where
  id : Int
  name : String
  mtu : Option Int := none
  primaryMacAddress : Option MacRecord := none
  untaggedVlan : Option VlanRecord := none
  customFields : Option (List (String × JsonValue)) := none

structure IpRecord where
  address : String

/-- The calls the loader makes. An error is the exception the call raises: any `Exception` of pynetbox, of the
    transport or of the response's decoding. -/
structure Client where
  devicesGet : String → Except String (Option Device)
  interfacesFilter : Int → Except String (List InterfaceRecord)
  ipAddressesFilter : Int → Except String (List IpRecord)

end Netbox
end HostConfig
