import HostConfig.Fixtures.Runs
import HostConfig.Netbox.Provenance

/-!
# `Fixtures.RoundTrip` — `populate`, then `load_host_intent`

`client` answers the loader's three calls from the tables `populate` wrote, with references read back as the
records they refer to. The writer and the reader meet at the interface record: what the loader reads from it
is in `Netbox.Provenance` (`NicRead`, `VlanRead`, …), and where the record comes from is `RecordFrom`, which
holds in every Netbox that mirrors the fixture. Together they are `RoundTrips`: the intent is what the
fixture says.
-/

namespace HostConfig
namespace Fixtures

open Netbox Models Traverse

variable {fx : HostFixture} {n n' : NetboxState} {refreshes : Bool}

/-! ## Netbox, as the loader reads it -/

namespace NetboxState

variable (n : NetboxState)

def roleRecord (id : Nat) : Option RoleRecord :=
  ((n.table .deviceRole).find id).map fun row => ⟨some row.slug⟩

def macRecord (id : Nat) : Option MacRecord :=
  ((n.table .macAddress).find id).map fun row => ⟨some row.macAddress, row.macAddress⟩

def vlanRecord (id : Nat) : Option VlanRecord := ((n.table .vlan).find id).map fun row => ⟨row.vid, row.name⟩

def interfaceRecord (e : Nat × InterfaceRow) : InterfaceRecord where
  id := e.1
  name := e.2.name
  mtu := e.2.mtu
  primaryMacAddress := (e.2.refs .primaryMacAddress).bind n.macRecord
  untaggedVlan := e.2.untaggedVlan.bind n.vlanRecord
  customFields := some e.2.customFields

/-- `client.dcim.devices.get`, `client.dcim.interfaces.filter` and `client.ipam.ip_addresses.filter`. -/
def client : Client where
  devicesGet assetTag :=
    match n.under .device (.text assetTag) with
    | []          => .ok none
    | [(id, row)] => .ok (some { id := id, name := row.name, role := row.role.bind n.roleRecord })
    | _           => .error "get() returned more than one result."
  interfacesFilter device :=
    .ok (((n.table .interface).matching fun row => (row.device : Int) = device).map n.interfaceRecord)
  ipAddressesFilter iface :=
    .ok (((n.table .ipAddress).matching fun row =>
      row.assignedObjectType = some "dcim.interface" ∧ row.assignedObjectId.map Int.ofNat = some iface).map
        fun e => ⟨e.2.address⟩)

end NetboxState

/-! ## An intent as the fixture says -/

/-- The NIC is the fixture's: the default stands for an MTU of none or 0, and the MAC is up to case and
    surrounding blanks. -/
structure NicFrom (spec : InterfaceSpec) (default : Int) (nic : PhysIface) : Prop where
  name : nic.name.val = spec.name
  mtu : (nic.mtu.val : Int) = (nonzero spec.mtu).getD default
  mac : ∃ mac, spec.mac = some mac ∧ nic.mac.val.toList = canonicalMac mac

def AddressFrom (spec : InterfaceSpec) (address : IPv4Interface) : Prop :=
  ∃ ip, spec.ip = some ip ∧ IPv4Interface.parse ip = some address

/-- `int()` of the custom field `sriov_vfs`, or 16 where it is absent or null. -/
def sriovVfsOf (spec : InterfaceSpec) : Except PyExc Int :=
  match spec.customFields.lookup "sriov_vfs" with
  | none | some .null => .ok 16
  | some value        => value.toInt

structure RoceFrom (spec : InterfaceSpec) (nic : RoceUnderlay) :
    Prop extends NicFrom spec 9000 nic.toPhysIface where
  address : AddressFrom spec nic.address
  sriovVfs : sriovVfsOf spec = .ok (nic.sriovVfs.val : Int)

structure IbFrom (spec : InterfaceSpec) (nic : InfinibandUnderlay) : Prop
    extends NicFrom spec 2044 nic.toPhysIface where
  address : AddressFrom spec nic.address

structure VlanFrom (fx : HostFixture) (spec : InterfaceSpec) (vlan : VlanChild) : Prop where
  name : vlan.name.val = spec.name
  mtu : (vlan.mtu.val : Int) = (nonzero spec.mtu).getD 1500
  vlanId : spec.untaggedVlan = some (vlan.vlanId.val : Int)
  listed : ∃ v ∈ fx.vlans, v.vid = (vlan.vlanId.val : Int)
  role : ∀ v ∈ fx.vlans, v.vid = (vlan.vlanId.val : Int) → vlan.role.value = v.name
  address : AddressFrom spec vlan.address

/-- The intent is what the fixture says: all it has is from the fixture's interfaces of the same names, and
    it has all of these whose names the loader picks. -/
structure RoundTrips (fx : HostFixture) (i : HostIntent) : Prop where
  hostname : i.hostname.val = fx.hostname
  role : i.role.value = fx.deviceRole
  nsNics : ∀ nic ∈ i.nsNics, ∃ spec ∈ fx.interfaces, NicFrom spec 9000 nic.toPhysIface
  bond : ∃ spec ∈ fx.interfaces, i.bond.name.val = spec.name ∧
    (i.bond.mtu.val : Int) = (nonzero spec.mtu).getD 9000
  vlans : ∀ vlan ∈ i.vlans, ∃ spec ∈ fx.interfaces, VlanFrom fx spec vlan
  roceUnderlays : ∀ nic ∈ i.roceUnderlays, ∃ spec ∈ fx.interfaces, RoceFrom spec nic
  ibUnderlays : ∀ nic ∈ i.ibUnderlays, ∃ spec ∈ fx.interfaces, IbFrom spec nic
  hasNsNics : ∀ spec ∈ fx.interfaces, spec.name ∈ nsNicNames → ∃ nic ∈ i.nsNics, nic.name.val = spec.name
  hasBond : ∀ spec ∈ fx.interfaces, spec.name = bondName → i.bond.name.val = spec.name
  hasVlans : ∀ spec ∈ fx.interfaces, isVlanName spec.name = true → ∃ vlan ∈ i.vlans, vlan.name.val = spec.name
  hasRoce : ∀ spec ∈ fx.interfaces, isNumbered roceNicPrefix spec.name = true →
    ∃ nic ∈ i.roceUnderlays, nic.name.val = spec.name
  hasIb : ∀ spec ∈ fx.interfaces, isNumbered ibNicPrefix spec.name = true →
    ∃ nic ∈ i.ibUnderlays, nic.name.val = spec.name

/-! ## A record as the fixture says -/

/-- Where what is read of an interface record comes from. -/
structure RecordFrom (n : NetboxState) (fx : HostFixture) (spec : InterfaceSpec)
    (record : InterfaceRecord) : Prop where
  name : record.name = spec.name
  mtu : record.mtu = nonzero spec.mtu
  customFields : record.customFields = some spec.customFields
  mac : ∀ primary, record.primaryMacAddress = some primary → truthy spec.mac = some (macText primary)
  vlan : ∀ untagged, record.untaggedVlan = some untagged → spec.untaggedVlan = some untagged.vid ∧
    ∃ vlan ∈ fx.vlans, vlan.vid = untagged.vid ∧ vlan.name = untagged.name
  ip : ∀ ips, n.client.ipAddressesFilter record.id = .ok ips → ∀ ip ∈ ips, truthy spec.ip = some ip.address

/-- An id is found under the key it was given for. -/
theorem find_of_idAt {k : Kind} {key : Key} {id : Nat} (h : IdAt n k key id) :
    ∃ row, (n.table k).find id = some row ∧ (id, row) ∈ (n.table k).rows ∧ rowKey k row = some key := by
  obtain ⟨row, hunder⟩ := h
  obtain ⟨hmem, hkey⟩ := mem_of_under hunder
  exact ⟨row, Table.find_eq_some.mpr hmem, hmem, hkey⟩

theorem macText_self (mac : String) : macText ⟨some mac, mac⟩ = mac := by
  unfold macText
  split
  · rfl
  · rename_i h
    obtain rfl := Option.some.inj h
    exact ite_self _

/-- A row found under a key of an interface has that name. -/
theorem name_of_idAt {device : Nat} {name : String} {e : Nat × InterfaceRow}
    (he : e ∈ (n.table .interface).rows)
    (h : IdAt n .interface (.iface device name) e.1) : e.2.name = name := by
  have hkey := (mem_of_under (h.under he)).2
  exact (Key.iface.inj (Option.some.inj hkey)).2

section Record

variable (hmirrors : Mirrors [fx] n) (hnames : (names fx).Nodup)

include hnames in
/-- A fixture says one thing of each name. -/
theorem spec_unique {spec spec' : InterfaceSpec} (hspec : spec ∈ fx.interfaces)
    (hspec' : spec' ∈ fx.interfaces)
    (h : spec.name = spec'.name) : spec = spec' := List.inj_on_of_nodup_map hnames hspec hspec' h

include hmirrors hnames

/-- The MAC that Netbox shows of an interface is the fixture's, -/
theorem mac_of_row {spec : InterfaceSpec} (hspec : spec ∈ fx.interfaces) {e : Nat × InterfaceRow}
    (he : e ∈ (n.table .interface).rows) (hname : e.2.name = spec.name) {primary : MacRecord}
    (h : (n.interfaceRecord e).primaryMacAddress = some primary) :
    truthy spec.mac = some (macText primary) := by
  obtain ⟨id, href, hrecord⟩ := Option.bind_eq_some_iff.mp h
  obtain ⟨row, hfind, rfl⟩ := Option.map_eq_some_iff.mp hrecord
  obtain ⟨w, hlisted, hfield, device, hresolves⟩ := hmirrors.refs e he _ id href
  obtain ⟨fx', hfx', hw⟩ := List.mem_flatMap.mp hlisted
  obtain rfl := List.mem_singleton.mp hfx'
  -- the reference is the one of the MAC that the fixture gives an interface of this name
  obtain ⟨spec', hspec', hmac⟩ := mem_macReferences_of_field hw hfield
  obtain ⟨mac, htruthy, rfl⟩ := mem_macReferences.mp hmac
  have hsame := (name_of_idAt he hresolves.ifaceAt).symm.trans hname
  obtain rfl := spec_unique hnames hspec' hspec hsame
  obtain ⟨row', hfind', -, hkey⟩ := find_of_idAt hresolves.targetAt
  obtain rfl := Option.some.inj (hfind.symm.trans hfind')
  have hrow : row.macAddress = mac := Key.text.inj (Option.some.inj hkey)
  rw [macText_self, hrow]
  exact htruthy

/-- and so is each address it lists. -/
theorem ip_of_row {spec : InterfaceSpec} (hspec : spec ∈ fx.interfaces) {e : Nat × InterfaceRow}
    (he : e ∈ (n.table .interface).rows) (hname : e.2.name = spec.name) {ip : IpRecord}
    (h : ∃ ips, n.client.ipAddressesFilter e.1 = .ok ips ∧ ip ∈ ips) : truthy spec.ip = some ip.address := by
  obtain ⟨ips, hips, hip⟩ := h
  obtain rfl := Except.ok.inj hips
  obtain ⟨row, hrow, rfl⟩ := List.mem_map.mp hip
  obtain ⟨hmem, hassigned⟩ := Table.mem_matching.mp hrow
  obtain ⟨-, hassigned⟩ := of_decide_eq_true hassigned
  obtain ⟨iface, hiface, heq⟩ := Option.map_eq_some_iff.mp hassigned
  obtain rfl : iface = e.1 := Int.ofNat.inj heq
  obtain ⟨fx', hfx', spec', hspec', htruthy, -, device, iface, -, hat, hid⟩ :=
    hmirrors.provided .ipAddress row hmem
  obtain rfl := List.mem_singleton.mp hfx'
  obtain rfl := Option.some.inj (hid.symm.trans hiface)
  -- the interface it is assigned to has the name of the interface that asked for it
  have hsame := (name_of_idAt he hat).symm.trans hname
  obtain rfl := spec_unique hnames hspec' hspec hsame
  exact htruthy

/-- **Every interface record is of one interface of the fixture.** -/
theorem recordFrom_of_row {e : Nat × InterfaceRow} (he : e ∈ (n.table .interface).rows) :
    ∃ spec ∈ fx.interfaces, RecordFrom n fx spec (n.interfaceRecord e) := by
  obtain ⟨fx', hfx', spec, hspec, -, hname, hmtu, hfields, hvlan⟩ := hmirrors.provided .interface e he
  obtain rfl := List.mem_singleton.mp hfx'
  refine ⟨spec, hspec, hname, hmtu, congrArg some hfields, ?_, ?_, ?_⟩
  · intro primary h
    exact mac_of_row hmirrors hnames hspec he hname h
  · intro untagged h
    obtain ⟨id, hid, hrecord⟩ := Option.bind_eq_some_iff.mp h
    obtain ⟨row, hfind, rfl⟩ := Option.map_eq_some_iff.mp hrecord
    obtain ⟨site, vid, hvid, hat⟩ := hvlan id hid
    obtain ⟨row', hfind', hmem, hkey⟩ := find_of_idAt hat
    obtain rfl := Option.some.inj (hfind.symm.trans hfind')
    obtain ⟨site', -, hkey⟩ := Option.map_eq_some_iff.mp hkey
    obtain ⟨-, hrow⟩ := Key.vid.inj hkey
    obtain ⟨fx'', hfx'', vlan, hvlan, hvlanId, hvlanName⟩ := hmirrors.provided .vlan (id, row) hmem
    obtain rfl := List.mem_singleton.mp hfx''
    exact ⟨hvid.trans (congrArg some hrow.symm), vlan, hvlan, hvlanId.symm, hvlanName.symm⟩
  · intro ips hips ip hip
    exact ip_of_row hmirrors hnames hspec he hname ⟨ips, hips, hip⟩

end Record

/-! ## From the record to the intent -/

section Parts

variable {spec : InterfaceSpec} {record : InterfaceRecord} (hrecord : RecordFrom n fx spec record)

/-- The MTU is the fixture's, or the default. -/
theorem mtu_of_record (hrecord : RecordFrom n fx spec record) (default : Int) :
    readMtu record default = (nonzero spec.mtu).getD default := by
  unfold readMtu
  rw [hrecord.mtu]

/-- A string that is read as set and not empty was given. -/
theorem eq_of_truthy {s : Option String} {text : String} (h : truthy s = some text) : s = some text :=
  (Option.filter_eq_some_iff.mp h).1

include hrecord

/-- The NIC as a whole is the fixture's, -/
theorem nicFrom_of_nicRead {default : Int} {nic : PhysIface} (h : NicRead record default nic) :
    NicFrom spec default nic := by
  constructor
  case name => exact h.name.trans hrecord.name
  case mtu => exact h.mtu.trans (mtu_of_record hrecord default)
  case mac =>
    obtain ⟨primary, hprimary, hmac⟩ := h.mac
    exact ⟨macText primary, eq_of_truthy (hrecord.mac primary hprimary), hmac⟩

/-- the address is, -/
theorem addressFrom_of_addressRead {address : IPv4Interface} (h : AddressRead n.client record address) :
    AddressFrom spec address := by
  obtain ⟨ip, hips, hparse⟩ := h
  have hip := hrecord.ip [ip] hips ip (List.mem_singleton_self ip)
  exact ⟨ip.address, eq_of_truthy hip, hparse⟩

/-- and with them a RoCE underlay, -/
theorem roceFrom_of_roceRead {nic : RoceUnderlay} (h : RoceRead n.client record nic) : RoceFrom spec nic := by
  refine ⟨nicFrom_of_nicRead hrecord h.toNicRead, addressFrom_of_addressRead hrecord h.address, ?_⟩
  have hvfs := h.sriovVfs
  unfold readSriovVfs at hvfs
  rw [hrecord.customFields] at hvfs
  exact hvfs

/-- an InfiniBand underlay -/
theorem ibFrom_of_ibRead {nic : InfinibandUnderlay} (h : IbRead n.client record nic) : IbFrom spec nic :=
  ⟨nicFrom_of_nicRead hrecord h.toNicRead, addressFrom_of_addressRead hrecord h.address⟩

/-- and a VLAN. -/
theorem vlanFrom_of_vlanRead (hvids : (fx.vlans.map (·.vid)).Nodup) {vlan : VlanChild}
    (h : VlanRead n.client record vlan) : VlanFrom fx spec vlan := by
  obtain ⟨untagged, huntagged, hvid, hrole⟩ := h.untagged
  obtain ⟨hspec, v, hv, hid, hname⟩ := hrecord.vlan untagged huntagged
  constructor
  case name => exact h.name.trans hrecord.name
  case mtu => exact h.mtu.trans (mtu_of_record hrecord 1500)
  case vlanId => rw [hspec, hvid]
  case listed => exact ⟨v, hv, hid.trans hvid.symm⟩
  case role =>
    intro v' hv' hid'
    obtain rfl := List.inj_on_of_nodup_map hvids hv' hv (hid'.trans (hvid.trans hid.symm))
    rw [hrole, hname]
  case address => exact addressFrom_of_addressRead hrecord h.address

end Parts

section Class

variable {Part : Type} {Reads : InterfaceRecord → Part → Prop} {name : Part → String}
  {listing : List InterfaceRecord} {parts built : List Part} (isClass : String → Bool)
  (hreads : List.Forall₂ Reads (listing.filter fun record => isClass record.name) built)
  (hperm : parts.Perm built)

include hreads hperm

/-- The parts that were read of the records of one class are of the fixture's interfaces, -/
theorem specs_of_class {From : InterfaceSpec → Part → Prop}
    (hrecords : ∀ record ∈ listing, ∃ spec ∈ fx.interfaces, RecordFrom n fx spec record)
    (hfrom : ∀ spec record part, RecordFrom n fx spec record → Reads record part → From spec part) :
    ∀ part ∈ parts, ∃ spec ∈ fx.interfaces, From spec part := by
  intro part hpart
  obtain ⟨record, hrecord, hread⟩ := exists_of_mem_right hreads part (hperm.mem_iff.mp hpart)
  obtain ⟨spec, hspec, hrecordFrom⟩ := hrecords record (List.mem_of_mem_filter hrecord)
  exact ⟨spec, hspec, hfrom spec record part hrecordFrom hread⟩

/-- and every interface of the class has one. -/
theorem parts_of_class (hlisted : ∀ spec ∈ fx.interfaces, ∃ record ∈ listing, record.name = spec.name)
    (hname : ∀ record part, Reads record part → name part = record.name) :
    ∀ spec ∈ fx.interfaces, isClass spec.name = true → ∃ part ∈ parts, name part = spec.name := by
  intro spec hspec hclass
  obtain ⟨record, hrecord, hrecordName⟩ := hlisted spec hspec
  rw [← hrecordName] at hclass ⊢
  obtain ⟨part, hpart, hread⟩ := exists_of_mem_left hreads record (List.mem_filter.mpr ⟨hrecord, hclass⟩)
  exact ⟨part, hperm.mem_iff.mpr hpart, hname record part hread⟩

end Class

/-- An intent built from a device and interface records that are the fixture's. -/
theorem roundTrips_of_built {i : HostIntent} {device : Device} {listing : List InterfaceRecord}
    (hbuilt : Built n.client fx.assetTag device listing i.toHostIntentFields)
    (hname : device.name = some fx.hostname) (hrole : device.role = some ⟨some fx.deviceRole⟩)
    (hrecords : ∀ record ∈ listing, ∃ spec ∈ fx.interfaces, RecordFrom n fx spec record)
    (hlisted : ∀ spec ∈ fx.interfaces, ∃ record ∈ listing, record.name = spec.name)
    (hvids : (fx.vlans.map (·.vid)).Nodup) : RoundTrips fx i := by
  -- from each part of the intent back to the record it was read off, and on to the spec that was written
  -- there
  have hparts := hbuilt.parts
  obtain ⟨roce, hroce, hroceSorted⟩ := hparts.roceUnderlays
  obtain ⟨ib, hib, hibSorted⟩ := hparts.ibUnderlays
  constructor
  case hostname =>
    rw [hbuilt.hostname, hname]
    rfl
  case role =>
    have hslug := hbuilt.role
    unfold roleSlug at hslug
    rw [hrole] at hslug
    exact (Option.some.inj (Option.filter_eq_some_iff.mp hslug).1).symm
  case nsNics =>
    intro nic hnic
    obtain ⟨record, hrecord, hread⟩ := hparts.nsNics nic hnic
    obtain ⟨spec, hspec, hfrom⟩ := hrecords record hrecord
    exact ⟨spec, hspec, nicFrom_of_nicRead hfrom hread⟩
  case bond =>
    obtain ⟨record, hrecord, hbond, hmtu⟩ := hparts.bond
    obtain ⟨spec, hspec, hfrom⟩ := hrecords record hrecord
    exact ⟨spec, hspec, hparts.bondName.trans (hbond.symm.trans hfrom.name),
      hmtu.trans (mtu_of_record hfrom 9000)⟩
  case vlans =>
    exact specs_of_class isVlanName hparts.vlans (.refl _) hrecords
      fun _ _ _ hfrom hread => vlanFrom_of_vlanRead hfrom hvids hread
  case roceUnderlays =>
    exact specs_of_class (isNumbered roceNicPrefix) hroce hroceSorted hrecords
      fun _ _ _ hfrom hread => roceFrom_of_roceRead hfrom hread
  case ibUnderlays =>
    exact specs_of_class (isNumbered ibNicPrefix) hib hibSorted hrecords
      fun _ _ _ hfrom hread => ibFrom_of_ibRead hfrom hread
  -- and the other way: no spec is left out
  case hasNsNics =>
    intro spec _ hname
    rw [← hparts.nsNicNames] at hname
    exact List.mem_map.mp hname
  case hasBond => exact fun spec _ hname => hparts.bondName.trans hname.symm
  case hasVlans => exact parts_of_class isVlanName hparts.vlans (.refl _) hlisted fun _ _ hread => hread.name
  case hasRoce =>
    exact parts_of_class (isNumbered roceNicPrefix) hroce hroceSorted hlisted fun _ _ hread => hread.name
  case hasIb =>
    exact parts_of_class (isNumbered ibNicPrefix) hib hibSorted hlisted fun _ _ hread => hread.name

/-- **Populating an empty Netbox and loading the host gives back what the fixture says.** -/
theorem populate_then_load {report : PopulateReport} {i : HostIntent} (hempty : n.Empty)
    (hnames : (names fx).Nodup)
    (hvids : (fx.vlans.map (·.vid)).Nodup) (hpopulate : populate refreshes [fx] n = .ok (report, n'))
    (hload : loadHostIntent n'.client fx.assetTag = .ok i) : RoundTrips fx i := by
  obtain ⟨hsteps, happlied⟩ := populate_runs hpopulate
  have hmirrors : Mirrors [fx] n' := Steps.mirrors hsteps (mirrors_of_empty hempty)
  obtain ⟨found, hunder, -, hinterfaces⟩ := (happlied fx (List.mem_singleton_self fx)).1.device
  obtain ⟨device, listing, hbuilt⟩ := built_of_ok hload
  -- the device that is loaded is the one that was populated
  have hget := hbuilt.found
  unfold NetboxState.client at hget
  dsimp only at hget
  rw [hunder] at hget
  obtain rfl := Option.some.inj (Except.ok.inj hget)
  obtain ⟨fx', hfx', -, hname, role, hrole, hroleAt⟩ :=
    hmirrors.provided .device found (mem_of_under hunder).1
  obtain rfl := List.mem_singleton.mp hfx'
  obtain ⟨roleRow, hfind, -, hkey⟩ := find_of_idAt hroleAt
  have hslug : roleRow.slug = fx'.deviceRole := Key.text.inj (Option.some.inj hkey)
  refine roundTrips_of_built hbuilt hname ?_ ?_ ?_ hvids
  · show found.2.role.bind n'.roleRecord = _
    rw [hrole, Option.bind_some, NetboxState.roleRecord, hfind, Option.map_some, hslug]
  · intro record hrecord
    obtain rfl := Except.ok.inj hbuilt.listing
    obtain ⟨e, he, rfl⟩ := List.mem_map.mp hrecord
    exact recordFrom_of_row hmirrors hnames (Table.mem_matching.mp he).1
  · intro spec hspec
    obtain ⟨id, row, hrow⟩ := hinterfaces.interfaces spec hspec
    obtain ⟨hmem, hkey⟩ := mem_of_under hrow
    obtain ⟨hdevice, hspecName⟩ := Key.iface.inj (Option.some.inj hkey)
    refine ⟨n'.interfaceRecord (id, row), ?_, hspecName⟩
    rw [← Except.ok.inj hbuilt.listing]
    refine List.mem_map_of_mem (Table.mem_matching.mpr ⟨hmem, ?_⟩)
    exact decide_eq_true (congrArg Int.ofNat hdevice)

/-- From an evaluation that gets through `populate` and the loader, the runs it was of. -/
theorem runs_of_eval (fx : HostFixture) (check : HostIntent → Bool)
    (h : ((populate false [fx] noObjects).toOption.bind fun p =>
      (loadHostIntent p.2.client fx.assetTag).toOption.map check) = some true) :
    ∃ report netbox i, populate false [fx] noObjects = .ok (report, netbox) ∧
      loadHostIntent netbox.client fx.assetTag = .ok i ∧ check i = true := by
  cases hpopulate : populate false [fx] noObjects with
  | error e =>
    rw [hpopulate] at h
    cases h
  | ok p =>
    rw [hpopulate] at h
    change (loadHostIntent p.2.client fx.assetTag).toOption.map check = some true at h
    obtain ⟨i, hload, hcheck⟩ := exists_ok_of_check h
    exact ⟨p.1, p.2, i, rfl, hload, hcheck⟩

theorem populate_then_load_cpu : ∃ report netbox i,
    populate false [cpuFixture] noObjects = .ok (report, netbox) ∧
    loadHostIntent netbox.client cpuFixture.assetTag = .ok i ∧ RoundTrips cpuFixture i := by
  obtain ⟨report, netbox, i, hpopulate, hload, -⟩ :=
    runs_of_eval cpuFixture (fun _ => true) (by decide +kernel)
  have hempty : noObjects.Empty := fun _ => rfl
  exact ⟨report, netbox, i, hpopulate, hload,
    populate_then_load hempty (by decide +kernel) (by decide +kernel) hpopulate hload⟩

/-! ### A custom field that is not an integer -/

/-- A RoCE NIC with eight and a half virtual functions. -/
def halfVfsNic (i : Nat) : InterfaceSpec where
  name := "gpu" ++ toString i
  type := "400gbase-x-qsfpdd"
  mac := some ("aa:bb:cc:00:00:1" ++ toString i)
  mtu := some 9000
  ip := some ("10.42." ++ toString (100 + i) ++ ".23/24")
  customFields := [("sriov_vfs", .float (17 / 2))]

def halfVfsFixture : HostFixture :=
  { cpuFixture with deviceRole := "gpu-b300", interfaces := cpuFixture.interfaces ++
    (List.range 8).map halfVfsNic }

/-- The host is loaded with eight of them. -/
theorem halfVfs_truncated : halfVfsNic 0 ∈ halfVfsFixture.interfaces ∧
    (halfVfsNic 0).customFields.lookup "sriov_vfs" = some (.float (17 / 2)) ∧
    ∃ report netbox i, populate false [halfVfsFixture] noObjects = .ok (report, netbox) ∧
      loadHostIntent netbox.client halfVfsFixture.assetTag = .ok i ∧
      ∃ nic ∈ i.roceUnderlays, nic.name.val = (halfVfsNic 0).name ∧ nic.sriovVfs.val = 8 := by
  refine ⟨List.mem_append_right _ (List.mem_map_of_mem (by decide)), rfl, ?_⟩
  obtain ⟨report, netbox, i, hpopulate, hload, hcheck⟩ := runs_of_eval halfVfsFixture
    (fun i => i.roceUnderlays.any fun nic => nic.name.val = "gpu0" && nic.sriovVfs.val = 8)
    (by decide +kernel)
  obtain ⟨nic, hnic, hvalues⟩ := List.any_eq_true.mp hcheck
  obtain ⟨hname, hvfs⟩ := (Bool.and_eq_true _ _).mp hvalues
  exact ⟨report, netbox, i, hpopulate, hload, nic, hnic, of_decide_eq_true hname, of_decide_eq_true hvfs⟩

end Fixtures
end HostConfig
