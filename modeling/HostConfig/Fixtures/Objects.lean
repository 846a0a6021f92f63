import HostConfig.Lib.Counter
import HostConfig.Lib.Table
import HostConfig.Netbox.Records
import Mathlib.Logic.Function.Basic

/-!
# `Fixtures.Objects` — host fixtures and the Netbox they are written to

A fixture is what `load_fixture` returns. Netbox is a table for each kind of object, with the log of the
create and update calls. Every kind has a key its objects are looked up by: the slug, the asset tag, the
pair of VLAN id and site, the pair of device and interface name, the MAC, the address.

Interfaces alone have attributes that are written later, the three references of `RefField`; `erase` is a
row without them.
-/

namespace HostConfig
namespace Fixtures

open Netbox

/-! ## Fixtures -/

structure DeviceTypeSpec where
  manufacturer : String
  model : String
  slug : String
  uHeight : Int

structure VlanSpec where
  vid : Int
  name : String

structure InterfaceSpec where
  name : String
  type : String
  mac : Option String := none
  mtu : Option Int := none
  parent : Option String := none
  lagMembers : List String := []
  untaggedVlan : Option Int := none
  ip : Option String := none
  customFields : List (String × JsonValue) := []

structure HostFixture where
  assetTag : String
  hostname : String
  deviceRole : String
  site : String
  deviceType : DeviceTypeSpec
  vlans : List VlanSpec
  interfaces : List InterfaceSpec
  deviceCustomFields : List (String × JsonValue) := []

/-- A string that is set and not empty. -/
def truthy (s : Option String) : Option String := s.filter (· ≠ "")

/-- A number that is set and not zero. -/
def nonzero (n : Option Int) : Option Int := n.filter (· ≠ 0)

/-! ## Netbox -/

inductive Kind
  | site | manufacturer | deviceType | deviceRole | vlan | device | interface | macAddress | ipAddress
deriving DecidableEq

/-- The kind, as the report counts it. -/
def Kind.name : Kind → String
  | .site         => "site"
  | .manufacturer => "manufacturer"
  | .deviceType   => "device_type"
  | .deviceRole   => "device_role"
  | .vlan         => "vlan"
  | .device       => "device"
  | .interface    => "interface"
  | .macAddress   => "mac_address"
  | .ipAddress    => "ip_address"

/-- The references an interface is given after it was created. -/
inductive RefField
  | lag | parent | primaryMacAddress
deriving DecidableEq

/-- What setting the reference is counted as. -/
def RefField.name : RefField → String
  | .lag               => "lag_membership"
  | .parent            => "interface_parent"
  | .primaryMacAddress => "primary_mac_assignment"

/-- A site, a manufacturer or a device role. -/
structure SluggedRow where
  name : String
  slug : String

structure DeviceTypeRow where
  manufacturer : Nat
  model : String
  slug : String
  uHeight : Option Rat

structure VlanRow where
  vid : Int
  name : String
  site : Option Nat

structure DeviceRow where
  name : Option String
  assetTag : Option String
  site : Nat
  deviceType : Nat
  role : Option Nat
  status : String
  customFields : List (String × JsonValue)

structure InterfaceRow where
  device : Nat
  name : String
  type : String
  mtu : Option Int
  mode : Option String
  untaggedVlan : Option Nat
  customFields : List (String × JsonValue)
  refs : RefField → Option Nat

structure MacRow where
  macAddress : String
  assignedObjectType : Option String
  assignedObjectId : Option Nat

structure IpRow where
  address : String
  assignedObjectType : Option String
  assignedObjectId : Option Nat

abbrev Row : Kind → Type
  | .site | .manufacturer | .deviceRole => SluggedRow
  | .deviceType => DeviceTypeRow
  | .vlan       => VlanRow
  | .device     => DeviceRow
  | .interface  => InterfaceRow
  | .macAddress => MacRow
  | .ipAddress  => IpRow

/-- What an object is looked up by. -/
inductive Key
  | text (s : String)
  | vid (site : Nat) (vid : Int)
  | iface (device : Nat) (name : String)
deriving DecidableEq

/-- The key of a row, where it has one. -/
def rowKey : (k : Kind) → Row k → Option Key
  | .site,         row => some (.text row.slug)
  | .manufacturer, row => some (.text row.slug)
  | .deviceRole,   row => some (.text row.slug)
  | .deviceType,   row => some (.text row.slug)
  | .vlan,         row => row.site.map fun site => .vid site row.vid
  | .device,       row => row.assetTag.map .text
  | .interface,    row => some (.iface row.device row.name)
  | .macAddress,   row => some (.text row.macAddress)
  | .ipAddress,    row => some (.text row.address)

/-- A row without the references that are written later. -/
def erase : (k : Kind) → Row k → Row k
  | .interface, row => { row with refs := fun _ => none }
  | .site,         row => row
  | .manufacturer, row => row
  | .deviceRole,   row => row
  | .deviceType,   row => row
  | .vlan,         row => row
  | .device,       row => row
  | .macAddress,   row => row
  | .ipAddress,    row => row

/-- A call that changes Netbox. -/
inductive Call
  | create (kind : Kind)
  | update (field : RefField)
deriving DecidableEq

structure NetboxState where
  table : (k : Kind) → Table (Row k)
  calls : List Call

/-- Netbox without any object. -/
def NetboxState.Empty (netbox : NetboxState) : Prop := ∀ k, (netbox.table k).rows = []

/-- The objects of a kind under a key. -/
def NetboxState.under (netbox : NetboxState) (k : Kind) (key : Key) : List (Nat × Row k) :=
  (netbox.table k).matching fun row => rowKey k row = some key

def NetboxState.create (netbox : NetboxState) (k : Kind) (payload : Row k) : NetboxState where
  table := Function.update netbox.table k ((netbox.table k).insert payload)
  calls := netbox.calls ++ [.create k]

/-- An interface row with a reference written. -/
def InterfaceRow.setRef (row : InterfaceRow) (field : RefField) (target : Nat) : InterfaceRow :=
  { row with refs := Function.update row.refs field (some target) }

def NetboxState.updateRef (netbox : NetboxState) (id : Nat) (field : RefField) (target : Nat) :
    NetboxState where
  table := Function.update netbox.table .interface ((netbox.table .interface).modify id fun row =>
    row.setRef field target)
  calls := netbox.calls ++ [.update field]

/-! ## An interface in memory -/

/-- What a reference attribute of an object in memory is: unset, the referenced record, or the bare id
    an update left there. -/
inductive Ref
  | unset
  | record (id : Nat)
  | bare (id : Nat)
deriving DecidableEq

/-- `getattr(ref, "id", None) if ref else None`: a bare id has no attribute `id`. -/
def Ref.currentId : Ref → Option Nat
  | .record id        => some id
  | .unset | .bare _  => none

/-- The object a call returned for an interface: its id and the references as they were then. -/
structure Iface where
  id : Nat
  refs : RefField → Ref

def Ref.read : Option Nat → Ref
  | none    => .unset
  | some id => .record id

def Iface.read (e : Nat × InterfaceRow) : Iface := ⟨e.1, fun field => .read (e.2.refs field)⟩

/-- `iface_by_name` -/
abbrev Objects := String → Option Iface

/-! ## The report -/

structure PopulateReport where
  created : List (String × Nat)
  skipped : List (String × Nat)
deriving DecidableEq

namespace PopulateReport

def addCreated (report : PopulateReport) (kind : String) : PopulateReport :=
  { report with created := Counter.bump report.created kind }

def addSkipped (report : PopulateReport) (kind : String) : PopulateReport :=
  { report with skipped := Counter.bump report.skipped kind }

/-- `is_no_op`: nothing was created. -/
def isNoOp (report : PopulateReport) : Bool := report.created.all fun e => e.2 = 0

end PopulateReport

end Fixtures
end HostConfig
