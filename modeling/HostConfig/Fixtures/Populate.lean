import HostConfig.Fixtures.Objects
import HostConfig.Lib.StateRuns

/-!
# `Fixtures.Populate` — `populate`

Each fixture is applied in dependency order: site, manufacturer, device type, device role, VLANs, device,
then four passes over the interfaces, which create them, set their LAGs and parents, their MACs and their
addresses. All objects are created if they are absent, so the nine `_ensure_*` functions are `ensure` with
the kind's key, check and payload; all references are set if they differ (`setRef`).

`refreshes` is whether an object in memory reads an updated reference back as a record, or keeps the bare
id.
-/

namespace HostConfig
namespace Fixtures

open Netbox StateRuns

/-- What the text of a conflict interpolates. -/
inductive ConflictDetail
  | uHeight (expected : Int) (observed : Rat)
  | name (expected : String) (observed : Option String)
  | assignedTo (observed : Option Nat) (expected : Nat)

/-- What leaves `populate` as an exception. -/
inductive FixtureExc
  | fixtureConflictError (kind identifier : String) (detail : ConflictDetail)
  | keyError (key : String)
  /-- `get` found more than one object. -/
  | valueError

/-- `isinstance(e, FixtureConflictError)` -/
def FixtureExc.IsConflict : FixtureExc → Prop
  | .fixtureConflictError _ _ _ => True
  | _                           => False

instance : (e : FixtureExc) → Decidable e.IsConflict
  | .fixtureConflictError _ _ _ => .isTrue trivial
  | .keyError _                 => .isFalse id
  | .valueError                 => .isFalse id

structure PopulateState where
  netbox : NetboxState
  report : PopulateReport

abbrev PopulateM (α : Type) := Program PopulateState FixtureExc α

/-! ## The two steps -/

/-- Look the object up; check it if it is there, create it if not. -/
def ensure (k : Kind) (key : Key) (check : Nat × Row k → Except FixtureExc Unit) (payload : Row k) :
    PopulateM (Nat × Row k) := fun s =>
  match s.netbox.under k key with
  | [] =>
      .ok (((s.netbox.table k).next, payload), ⟨s.netbox.create k payload, s.report.addCreated k.name⟩)
  | [found] =>
      match check found with
      | .error e => .error e
      | .ok ()   => .ok (found, { s with report := s.report.addSkipped k.name })
  | _ :: _ :: _ => .error .valueError

/-- Set a reference of the interface if the object does not read it as `target`. -/
def setRef (refreshes : Bool) (field : RefField) (iface : Iface) (target : Nat) : PopulateM Iface := fun s =>
  if (iface.refs field).currentId = some target then
    .ok (iface, { s with report := s.report.addSkipped field.name })
  else
    .ok ({ iface with refs := Function.update iface.refs field (if refreshes then .record target else
      .bare target) },
      ⟨s.netbox.updateRef iface.id field target, s.report.addCreated field.name⟩)

/-- `iface_by_name[name]` -/
def objectOf (objects : Objects) (name : String) : PopulateM Iface := fun s =>
  match objects name with
  | some iface => .ok (iface, s)
  | none       => .error (.keyError name)

/-! ## The objects -/

/-- `_slugify`; slugs are ASCII. -/
def slugify (name : String) : String :=
  String.ofList ((Models.strip (Models.lower name.toList)).map fun c => if c = ' ' || c = '_' then '-' else c)

def ensureSite (slug : String) : PopulateM (Nat × SluggedRow) :=
  ensure .site (.text slug) (fun _ => .ok ()) ⟨slug, slug⟩

def ensureManufacturer (name : String) : PopulateM (Nat × SluggedRow) :=
  ensure .manufacturer (.text (slugify name)) (fun _ => .ok ()) ⟨name, slugify name⟩

def checkDeviceType (spec : DeviceTypeSpec) (found : Nat × DeviceTypeRow) : Except FixtureExc Unit :=
  match found.2.uHeight with
  | none          => .ok ()
  | some observed =>
      if observed = spec.uHeight then .ok ()
      else .error (.fixtureConflictError "device_type" spec.slug (.uHeight spec.uHeight observed))

def ensureDeviceType (spec : DeviceTypeSpec) (manufacturer : Nat) : PopulateM (Nat × DeviceTypeRow) :=
  ensure .deviceType (.text spec.slug) (checkDeviceType spec)
    { manufacturer, model := spec.model, slug := spec.slug, uHeight := some spec.uHeight }

def ensureDeviceRole (slug : String) : PopulateM (Nat × SluggedRow) :=
  ensure .deviceRole (.text slug) (fun _ => .ok ()) ⟨slug, slug⟩

def checkVlan (spec : VlanSpec) (found : Nat × VlanRow) : Except FixtureExc Unit :=
  if found.2.name ≠ spec.name then
    .error (.fixtureConflictError "vlan" ("vid=" ++ toString spec.vid) (.name spec.name (some found.2.name)))
  else .ok ()

def ensureVlan (spec : VlanSpec) (site : Nat) : PopulateM (Nat × VlanRow) :=
  ensure .vlan (.vid site spec.vid) (checkVlan spec) { vid := spec.vid, name := spec.name, site := some site }

def checkDevice (fx : HostFixture) (found : Nat × DeviceRow) : Except FixtureExc Unit :=
  if found.2.name ≠ some fx.hostname then
    .error (.fixtureConflictError "device" fx.assetTag (.name fx.hostname found.2.name))
  else .ok ()

def ensureDevice (fx : HostFixture) (site deviceType deviceRole : Nat) : PopulateM (Nat × DeviceRow) :=
  ensure .device (.text fx.assetTag) (checkDevice fx)
    { name := some fx.hostname, assetTag := some fx.assetTag, site, deviceType, role := some deviceRole,
      status := "active", customFields := fx.deviceCustomFields }

/-- The interface as it is posted: an MTU of zero and a VLAN the fixture does not list are left out. -/
def interfacePayload (spec : InterfaceSpec) (device : Nat) (vlanByVid : Int → Option Nat) : InterfaceRow :=
  let untaggedVlan := (nonzero spec.untaggedVlan).bind vlanByVid
  { device, name := spec.name, type := spec.type, mtu := nonzero spec.mtu,
    mode := untaggedVlan.map fun _ => "access", untaggedVlan, customFields := spec.customFields, refs :=
      fun _ => none }

def ensureInterface (spec : InterfaceSpec) (device : Nat) (vlanByVid : Int → Option Nat) :
    PopulateM Iface := do
  let found ← ensure .interface (.iface device spec.name) (fun _ => .ok ())
    (interfacePayload spec device vlanByVid)
  return Iface.read found

/-- An unassigned MAC passes. -/
def checkMacAddress (mac : String) (iface : Nat) (found : Nat × MacRow) : Except FixtureExc Unit :=
  match found.2.assignedObjectId with
  | none          => .ok ()
  | some assigned =>
      if assigned ≠ 0 ∧ assigned ≠ iface then
        .error (.fixtureConflictError "mac_address" mac (.assignedTo (some assigned) iface))
      else .ok ()

def ensureMacAddress (mac : String) (iface : Nat) : PopulateM (Nat × MacRow) :=
  ensure .macAddress (.text mac) (checkMacAddress mac iface)
    { macAddress := mac, assignedObjectType := some "dcim.interface", assignedObjectId := some iface }

def checkIpAddress (ip : String) (iface : Nat) (found : Nat × IpRow) : Except FixtureExc Unit :=
  if found.2.assignedObjectId ≠ some iface then
    .error (.fixtureConflictError "ip_address" ip (.assignedTo found.2.assignedObjectId iface))
  else .ok ()

def ensureIpAddress (ip : String) (iface : Nat) : PopulateM (Nat × IpRow) :=
  ensure .ipAddress (.text ip) (checkIpAddress ip iface)
    { address := ip, assignedObjectType := some "dcim.interface", assignedObjectId := some iface }

/-! ### What the checks raise -/

theorem checkDeviceType_conflict (spec : DeviceTypeSpec) (found : Nat × DeviceTypeRow) (e : FixtureExc)
    (h : checkDeviceType spec found = .error e) : e.IsConflict := by
  unfold checkDeviceType at h
  split at h
  · cases h
  · split at h
    · cases h
    · rw [← Except.error.inj h]
      trivial

/-- The other checks are one comparison. -/
theorem conflict_of_ite {p : Prop} [Decidable p] {kind identifier : String} {detail : ConflictDetail}
    {e : FixtureExc} (h : (if p then .error (.fixtureConflictError kind identifier detail) else
      .ok () : Except FixtureExc Unit) =
      .error e) : e.IsConflict := by
  split at h
  · rw [← Except.error.inj h]
    trivial
  · cases h

/-- Some kinds have none. -/
theorem unchecked_conflict (found : Nat × Row k) (e : FixtureExc)
    (h : (fun _ => .ok () : Nat × Row k → Except FixtureExc Unit) found = .error e) : e.IsConflict := by
  cases h

theorem checkMacAddress_conflict (mac : String) (iface : Nat) (found : Nat × MacRow) (e : FixtureExc)
    (h : checkMacAddress mac iface found = .error e) : e.IsConflict := by
  unfold checkMacAddress at h
  split at h
  · cases h
  · exact conflict_of_ite h

/-! ## The passes -/

/-- One more entry of `vlan_by_vid`. -/
def addVlan (site : Nat) (vlanByVid : Int → Option Nat) (spec : VlanSpec) : PopulateM (Int → Option Nat) := do
  let vlan ← ensureVlan spec site
  return Function.update vlanByVid spec.vid (some vlan.1)

/-- Pass 1, for one interface. -/
def addInterface (device : Nat) (vlanByVid : Int → Option Nat) (objects : Objects) (spec : InterfaceSpec) :
    PopulateM Objects := do
  let iface ← ensureInterface spec device vlanByVid
  return Function.update objects spec.name (some iface)

section

variable (refreshes : Bool)

/-- Set a reference of the interface with this name; the object in memory is updated with it. -/
def setRefOf (field : RefField) (objects : Objects) (name : String) (target : Nat) : PopulateM Objects := do
  let iface ← objectOf objects name
  let iface ← setRef refreshes field iface target
  return Function.update objects name (some iface)

def wireMember (lag : Nat) (objects : Objects) (memberName : String) : PopulateM Objects :=
  setRefOf refreshes .lag objects memberName lag

def wireMembers (objects : Objects) (spec : InterfaceSpec) : PopulateM Objects := do
  if spec.lagMembers = [] then return objects
  else
    let lag ← objectOf objects spec.name
    spec.lagMembers.foldlM (wireMember refreshes lag.id) objects

def wireParent (objects : Objects) (spec : InterfaceSpec) : PopulateM Objects :=
  match truthy spec.parent with
  | none        => return objects
  | some parent => do
      let _ ← objectOf objects spec.name
      let parent ← objectOf objects parent
      setRefOf refreshes .parent objects spec.name parent.id

/-- `_wire_relationships`, pass 2. -/
def wireRelationships (objects : Objects) (spec : InterfaceSpec) : PopulateM Objects := do
  let objects ← wireMembers refreshes objects spec
  wireParent refreshes objects spec

/-- `_ensure_mac_address`, pass 3. -/
def assignMac (objects : Objects) (spec : InterfaceSpec) : PopulateM Objects :=
  match truthy spec.mac with
  | none     => return objects
  | some mac => do
      let iface ← objectOf objects spec.name
      let macAddress ← ensureMacAddress mac iface.id
      setRefOf refreshes .primaryMacAddress objects spec.name macAddress.1

/-- `_ensure_ip_address`, pass 4. -/
def assignIp (objects : Objects) (spec : InterfaceSpec) : PopulateM Objects :=
  match truthy spec.ip with
  | none    => return objects
  | some ip => do
      let iface ← objectOf objects spec.name
      let _ ← ensureIpAddress ip iface.id
      return objects

/-- The four passes over the interfaces of a device. -/
def applyInterfaces (device : Nat) (vlanByVid : Int → Option Nat) (specs : List InterfaceSpec) :
    PopulateM Objects := do
  let objects ← specs.foldlM (addInterface device vlanByVid) fun _ => none
  let objects ← specs.foldlM (wireRelationships refreshes) objects
  let objects ← specs.foldlM (assignMac refreshes) objects
  specs.foldlM assignIp objects

/-- `_apply_one` -/
def applyOne (fx : HostFixture) : PopulateM Unit := do
  let site ← ensureSite fx.site
  let manufacturer ← ensureManufacturer fx.deviceType.manufacturer
  let deviceType ← ensureDeviceType fx.deviceType manufacturer.1
  let deviceRole ← ensureDeviceRole fx.deviceRole
  let vlanByVid ← fx.vlans.foldlM (addVlan site.1) fun _ => none
  let device ← ensureDevice fx site.1 deviceType.1 deviceRole.1
  let _ ← applyInterfaces refreshes device.1 vlanByVid fx.interfaces
  return ()

/-- `populate`: the report, and Netbox after the run. -/
def populate (fixtures : List HostFixture) (netbox : NetboxState) :
    Except FixtureExc (PopulateReport × NetboxState) :=
  match fixtures.foldlM (fun _ fx => applyOne refreshes fx) () ⟨netbox, ⟨[], []⟩⟩ with
  | .error e    => .error e
  | .ok ((), s) => .ok (s.report, s.netbox)

end

/-! ## The repository's `cpu` fixture -/

def noObjects : NetboxState := ⟨fun _ => .empty, []⟩

def cpuFixture : HostFixture where
  assetTag := "SN-CPU-001"
  hostname := "k8s-cp-01.pod07.site03.internal"
  deviceRole := "cpu"
  site := "site03"
  deviceType := ⟨"Dell", "PowerEdge R660", "poweredge-r660", 1⟩
  vlans := [⟨100, "mgmt"⟩, ⟨200, "storage"⟩, ⟨300, "ingress"⟩]
  interfaces :=
    [{ name := "nsa", type := "200gbase-x-qsfp56", mac := some "aa:bb:cc:00:01:01", mtu := some 9000 },
     { name := "nsb", type := "200gbase-x-qsfp56", mac := some "aa:bb:cc:00:01:02", mtu := some 9000 },
     { name := "bond0", type := "lag", mtu := some 9000, lagMembers := ["nsa", "nsb"] },
     { name := "bond0.100", type := "virtual", mtu := some 1500, parent := some "bond0",
       untaggedVlan := some 100,
       ip := some "10.42.10.11/24" },
     { name := "bond0.200", type := "virtual", mtu := some 9000, parent := some "bond0",
       untaggedVlan := some 200,
       ip := some "10.42.20.11/24" },
     { name := "bond0.300", type := "virtual", mtu := some 1500, parent := some "bond0",
       untaggedVlan := some 300,
       ip := some "10.42.30.11/24" }]

/-- It populates an empty Netbox. -/
theorem cpuFixture_populates : ∃ report netbox,
    populate false [cpuFixture] noObjects = .ok (report, netbox) := by
  have hok : (populate false [cpuFixture] noObjects).isOk = true := by decide +kernel
  obtain ⟨⟨report, netbox⟩, hrun⟩ := Traverse.exists_ok_of_isOk hok
  exact ⟨report, netbox, hrun⟩

end Fixtures
end HostConfig
