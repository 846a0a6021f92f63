import HostConfig.Lib.StableSort
import HostConfig.Models.Intent
import HostConfig.Netbox.Records

/-!
# `Netbox.Loader` — `load_host_intent`

From the records of a device to its `HostIntent`: fetch the device and its interfaces, pick the N-S NICs and
the bond by name, the VLAN children and the underlays by the shape of their names, read the fields of each,
and hand the models to the `HostIntent` constructor. Every `raise` of the source is an `.error` here, in the
same order; an exception of a standard-library call or a model constructor passes through unless the source
wraps it.

A loop that appends one model per matching interface is a `mapM` over the matching interfaces.
-/

namespace HostConfig
namespace Netbox

open Models StableSort

def bondName : String := "bond0"
def nsNicNames : List String := ["nsa", "nsb"]
def roceNicPrefix : String := "gpu"
def ibNicPrefix : String := "ib"
def vlanNamePrefix : String := "bond0."

/-- `NetboxQueryError(operation=…, cause=…, asset_tag=asset_tag)` -/
def queryError (operation : String) (cause : QueryCause) (assetTag : String) : PyExc :=
  .netboxQueryError operation cause (some assetTag)

/-! ## The device -/

/-- The device of the asset tag. A failed call is wrapped, and no device is `HostNotFoundError`. -/
def fetchDevice (client : Client) (assetTag : String) : Except PyExc Device :=
  match client.devicesGet assetTag with
  | .error e         => .error (queryError "get_device" (.raised e) assetTag)
  | .ok none         => .error (.hostNotFoundError assetTag)
  | .ok (some device) => .ok device

/-- All interfaces of the device, in one query. -/
def fetchInterfaces (client : Client) (device : Device) (assetTag : String) :
    Except PyExc (List InterfaceRecord) :=
  match client.interfacesFilter device.id with
  | .error e   => .error (queryError "list_interfaces" (.raised e) assetTag)
  | .ok ifaces => .ok ifaces

/-- The `slug` of the device's role, when there is one that is not empty. -/
def roleSlug (device : Device) : Option String :=
  (device.role.bind (·.slug)).filter (· ≠ "")

/-- The role of the slug; a slug that is missing or of no role is an error. -/
def parseRole (device : Device) (assetTag : String) : Except PyExc Role :=
  match roleSlug device with
  | none      => .error (queryError "parse_role" (.noRoleSlug device.name) assetTag)
  | some slug =>
      match Role.ofValue slug with
      | some role => .ok role
      | none      => .error (queryError "parse_role" (.unknownRoleSlug slug) assetTag)

/-! ## Field readers -/

/-- `getattr(primary, "mac_address", None) or str(primary)` -/
def macText (primary : MacRecord) : String :=
  match primary.macAddress with
  | none     => primary.display
  | some mac => if mac = "" then primary.display else mac

/-- The primary MAC, in lower case. -/
def readMac (iface : InterfaceRecord) (assetTag : String) : Except PyExc String :=
  match iface.primaryMacAddress with
  | none         => .error (queryError "read_mac" (.noPrimaryMac iface.name) assetTag)
  | some primary => .ok (String.ofList (lower (macText primary).toList))

/-- The MTU, or the default of the kind of interface; a zero is read as it is. -/
def readMtu (iface : InterfaceRecord) (default : Int) : Int := iface.mtu.getD default

/-- The vid of the untagged VLAN. -/
def readVlanId (iface : InterfaceRecord) (assetTag : String) : Except PyExc Int :=
  match iface.untaggedVlan with
  | none          => .error (queryError "read_vlan_id" (.noUntaggedVlan iface.name) assetTag)
  | some untagged => .ok untagged.vid

/-- The role of the untagged VLAN: its name is the role's value. -/
def readVlanRole (iface : InterfaceRecord) (assetTag : String) : Except PyExc VlanRole :=
  match iface.untaggedVlan with
  | none          => .error (queryError "read_vlan_role" (.noUntaggedVlan iface.name) assetTag)
  | some untagged =>
      match VlanRole.ofValue untagged.name with
      | some role => .ok role
      | none      => .error (queryError "read_vlan_role" (.unknownVlanName untagged.name iface.name) assetTag)

/-- The custom field; `int()` of it is not wrapped. -/
def readSriovVfs (iface : InterfaceRecord) (default : Int) : Except PyExc Int :=
  match (iface.customFields.getD []).lookup "sriov_vfs" with
  | none | some .null => .ok default
  | some value        => value.toInt

/-- The one address of the interface. The parse is outside the `try`, so that what it raises is not
    wrapped. -/
def fetchSingleIp (client : Client) (iface : InterfaceRecord) (assetTag : String) :
    Except PyExc IPv4Interface :=
  match client.ipAddressesFilter iface.id with
  | .error e => .error (queryError "list_ip_addresses" (.raised e) assetTag)
  | .ok [ip] =>
      match IPv4Interface.parse ip.address with
      | some address => .ok address
      | none         => .error (.addressValueError ip.address)
  | .ok ips  => .error (queryError "list_ip_addresses" (.ipCount iface.name ips.length) assetTag)

/-- The first host of the address's network. -/
def deriveGateway (address : IPv4Interface) : Except PyExc IPv4Address :=
  match address.firstHost with
  | some gateway => .ok gateway
  | none         => .error .stopIteration

/-! ## Builders -/

/-- `{i.name: i for i in interfaces}.get(name)`: of two interfaces of one name the later one. -/
def byName (interfaces : List InterfaceRecord) (name : String) : Option InterfaceRecord :=
  interfaces.reverse.find? (fun i => i.name = name)

/-- A north-south NIC, by its name. -/
def buildNsNic (interfaces : List InterfaceRecord) (assetTag name : String) : Except PyExc BondMember :=
  match byName interfaces name with
  | none       => .error (queryError "find_ns_nic" (.missingNsNic name) assetTag)
  | some iface => do
      let mac ← readMac iface assetTag
      BondMember.init name mac (readMtu iface 9000)

/-- `nsa` and `nsb`, in this order. -/
def buildNsNics (interfaces : List InterfaceRecord) (assetTag : String) : Except PyExc (List BondMember) :=
  nsNicNames.mapM (buildNsNic interfaces assetTag)

/-- The bond of the two NICs. Mode, rate and policy are the model's own. -/
def buildBond (interfaces : List InterfaceRecord) (nsNics : List BondMember) (assetTag : String) :
    Except PyExc Bond :=
  match byName interfaces bondName with
  | none           => .error (queryError "find_bond" (.missingBond bondName) assetTag)
  | some bondIface => Bond.init bondName (.list ((nsNics.map (·.name.val)).map .str)) (readMtu bondIface 9000)

/-- `iface.name.startswith("bond0.")` -/
def isVlanName (name : String) : Bool := vlanNamePrefix.toList.isPrefixOf name.toList

/-- The names that are the prefix and digits, and nothing more. -/
def isNumbered (namePrefix name : String) : Bool :=
  namePrefix.toList.isPrefixOf name.toList && isdigit (name.toList.drop namePrefix.length)

/-- A VLAN child; the management VLAN's gateway is derived from its address. -/
def buildVlan (client : Client) (assetTag : String) (iface : InterfaceRecord) : Except PyExc VlanChild := do
  let vid ← readVlanId iface assetTag
  let role ← readVlanRole iface assetTag
  let address ← fetchSingleIp client iface assetTag
  let gateway ← (if role = .mgmt then (deriveGateway address).map some else .ok none)
  VlanChild.init iface.name bondName vid role (readMtu iface 1500) address gateway

/-- Every interface with the prefix, in the order of the listing. -/
def buildVlans (client : Client) (interfaces : List InterfaceRecord) (assetTag : String) :
    Except PyExc (List VlanChild) :=
  (interfaces.filter fun i => isVlanName i.name).mapM (buildVlan client assetTag)

/-- An east-west NIC, with its VFs. -/
def buildRoceUnderlay (client : Client) (assetTag : String) (iface : InterfaceRecord) :
    Except PyExc RoceUnderlay := do
  let mac ← readMac iface assetTag
  let address ← fetchSingleIp client iface assetTag
  let sriovVfs ← readSriovVfs iface 16
  RoceUnderlay.init iface.name mac (readMtu iface 9000) sriovVfs address

/-- Every `gpu<N>`, sorted by name. -/
def buildRoceUnderlays (client : Client) (interfaces : List InterfaceRecord) (assetTag : String) :
    Except PyExc (List RoceUnderlay) := do
  let underlays ←
    (interfaces.filter fun i => isNumbered roceNicPrefix i.name).mapM (buildRoceUnderlay client assetTag)
  return sortedBy (· ≤ ·) (·.name.val) underlays

/-- An IPoIB rail. -/
def buildIbUnderlay (client : Client) (assetTag : String) (iface : InterfaceRecord) :
    Except PyExc InfinibandUnderlay := do
  let mac ← readMac iface assetTag
  let address ← fetchSingleIp client iface assetTag
  InfinibandUnderlay.init iface.name mac (readMtu iface 2044) address

/-- Every `ib<N>`, sorted by name. -/
def buildIbUnderlays (client : Client) (interfaces : List InterfaceRecord) (assetTag : String) :
    Except PyExc (List InfinibandUnderlay) := do
  let underlays ←
    (interfaces.filter fun i => isNumbered ibNicPrefix i.name).mapM (buildIbUnderlay client assetTag)
  return sortedBy (· ≤ ·) (·.name.val) underlays

/-! ## The loader -/

/-- The load, in the order of the source: the first failure is what it raises. -/
def loadHostIntent (client : Client) (assetTag : String) : Except PyExc HostIntent := do
  let device ← fetchDevice client assetTag
  let interfaces ← fetchInterfaces client device assetTag
  let role ← parseRole device assetTag
  let hostname := device.name.getD "None"
  let nsNics ← buildNsNics interfaces assetTag
  let bond ← buildBond interfaces nsNics assetTag
  let vlans ← buildVlans client interfaces assetTag
  let roceUnderlays ← buildRoceUnderlays client interfaces assetTag
  let ibUnderlays ← buildIbUnderlays client interfaces assetTag
  HostIntent.init assetTag hostname role nsNics bond vlans roceUnderlays ibUnderlays

/-! ## The Netbox state of the repository's `cpu` fixture -/

/-- An interface with a MAC, like `nsa` and `nsb` of the fixture. -/
def nicRecord (id : Int) (name mac : String) : InterfaceRecord :=
  { id, name, mtu := some 9000, primaryMacAddress := some ⟨some mac, mac⟩ }

/-- A VLAN child of `bond0`. -/
def vlanRecord (id : Int) (name : String) (mtu vid : Int) (vlan : String) : InterfaceRecord :=
  { id, name, mtu := some mtu, untaggedVlan := some ⟨vid, vlan⟩ }

/-- A client that answers for one device with these interfaces and addresses. -/
def oneDevice (assetTag : String) (device : Device) (interfaces : List InterfaceRecord)
    (addresses : List (Int × String)) : Client where
  devicesGet tag := .ok (if tag = assetTag then some device else none)
  interfacesFilter _ := .ok interfaces
  ipAddressesFilter id := .ok ((addresses.filter (·.1 = id)).map fun a => ⟨a.2⟩)

def cpuDevice : Device := { id := 1, name := some "k8s-cp-01", role := some ⟨some "cpu"⟩ }

def cpuInterfaces : List InterfaceRecord :=
  [nicRecord 10 "nsa" "aa:bb:cc:00:01:01", nicRecord 11 "nsb" "aa:bb:cc:00:01:02",
   { id := 12, name := "bond0", mtu := some 9000 },
   vlanRecord 13 "bond0.100" 1500 100 "mgmt", vlanRecord 14 "bond0.200" 9000 200 "storage",
   vlanRecord 15 "bond0.300" 1500 300 "ingress"]

def cpuAddresses : List (Int × String) :=
  [(13, "10.42.10.11/24"), (14, "10.42.20.11/24"), (15, "10.42.30.11/24")]

def cpuClient : Client := oneDevice "SN-CPU-001" cpuDevice cpuInterfaces cpuAddresses

end Netbox
end HostConfig
