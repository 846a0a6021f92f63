import HostConfig.Netbox.Provenance

/-!
# `Netbox.Faithful` — what of a loaded intent is in Netbox

`FromNetbox` says where every value of an intent comes from: what Netbox has recorded for the device and for
one interface of it, the defaults for an MTU and a number of virtual functions that are not recorded, the
bond's parameters, and the gateway derived from the management address. That it holds of whatever the loader
returns fails at three readers, which turn a value they were not meant for into one that looks right:

* `str(device.name)` of a device without a name is the text `None`;
* `getattr(primary, "mac_address", None) or str(primary)` is the display text of a record without a MAC, and white
  space around the MAC is lost later;
* `int(value)` of a fraction is the integer next to it.

`AsRecorded` is the condition that none of these meets such a value, `inventsNothing_iff` that it is the
exact one.
-/

namespace HostConfig
namespace Netbox

open Models Traverse

variable {client : Client} {assetTag : String} {device : Device} {interfaces : List InterfaceRecord}
  {i : HostIntent}

/-! ## Values of custom fields -/

/-- The value is this number, or its numeral. -/
def JsonValue.Denotes : JsonValue → Int → Prop
  | .bool b, n  => n = if b then 1 else 0
  | .int z, n   => n = z
  | .float q, n => (n : Rat) = q
  | .str s, n   => intOfStr s = some n
  | _, _        => False

/-- The value is not a fraction. -/
def JsonValue.Whole : JsonValue → Prop
  | .float q => q.den = 1
  | _        => True

theorem JsonValue.whole_of_denotes {value : JsonValue} {n : Int} (h : value.Denotes n) : value.Whole := by
  cases value with
  | float q =>
    have hq : (n : Rat) = q := h
    show q.den = 1
    rw [← hq]
    exact Rat.den_intCast n
  | _ => trivial

/-- `int(value)` is what the value denotes, but for a fraction. -/
theorem JsonValue.denotes_of_toInt {value : JsonValue} {n : Int} (h : value.toInt = .ok n)
    (hwhole : value.Whole) : value.Denotes n := by
  cases value with
  | bool b => exact (Except.ok.inj h).symm
  | int z => exact (Except.ok.inj h).symm
  | float q =>
    have hden : q.den = 1 := hwhole
    have htrunc : q.num.tdiv q.den = n := Except.ok.inj h
    rw [hden] at htrunc
    have hnum : q.num = n := (Int.tdiv_one q.num).symm.trans htrunc
    show (n : Rat) = q
    rw [← hnum]
    exact (Rat.den_eq_one_iff q).mp hden
  | str s =>
    show intOfStr s = some n
    cases hz : intOfStr s with
    | none => simp [JsonValue.toInt, hz] at h
    | some z =>
      have hint : (JsonValue.str s).toInt = .ok z := by simp only [JsonValue.toInt, hz]
      rw [Except.ok.inj (hint.symm.trans h)]
  | null => cases h
  | nan => cases h
  | infinity => cases h
  | array => cases h
  | object => cases h

/-- The custom field of the interface, unless it is not set. -/
def recordedVfs (iface : InterfaceRecord) : Option JsonValue :=
  ((iface.customFields.getD []).lookup "sriov_vfs").filter (· ≠ .null)

theorem readSriovVfs_eq (iface : InterfaceRecord) (default : Int) :
    readSriovVfs iface default = (recordedVfs iface).elim (.ok default) (·.toInt) := by
  unfold readSriovVfs recordedVfs
  cases (iface.customFields.getD []).lookup "sriov_vfs" with
  | none => rfl
  | some value => cases value <;> rfl

/-! ## What a loaded intent should be made of -/

/-- The MAC is the one recorded for the interface as its primary MAC, in small letters. -/
def MacFrom (iface : InterfaceRecord) (mac : MacAddress) : Prop :=
  ∃ primary recorded, iface.primaryMacAddress = some primary ∧ primary.macAddress = some recorded ∧
    mac.val.toList = lower recorded.toList

/-- The number of virtual functions is the recorded one, or 16 where none is. -/
def VfsFrom (iface : InterfaceRecord) (n : Int) : Prop :=
  match recordedVfs iface with
  | none       => n = 16
  | some value => value.Denotes n

structure NicFrom (iface : InterfaceRecord) (default : Int) (nic : PhysIface) : Prop where
  name : nic.name.val = iface.name
  mac : MacFrom iface nic.mac
  mtu : (nic.mtu.val : Int) = iface.mtu.getD default

structure RoceFrom (client : Client) (iface : InterfaceRecord) (nic : RoceUnderlay) : Prop
    extends NicFrom iface 9000 nic.toPhysIface where
  address : AddressRead client iface nic.address
  sriovVfs : VfsFrom iface nic.sriovVfs.val

structure IbFrom (client : Client) (iface : InterfaceRecord) (nic : InfinibandUnderlay) : Prop
    extends NicFrom iface 2044 nic.toPhysIface where
  address : AddressRead client iface nic.address

/-- A VLAN child has no resolvers: none are recorded. -/
structure VlanFrom (client : Client) (iface : InterfaceRecord) (vlan : VlanChild) : Prop
    extends VlanRead client iface vlan where
  dns : vlan.dns = []
  searchDomain : vlan.searchDomain = none

/-- The bond has the MTU of its interface, the N-S NICs as its members, and fixed parameters. -/
structure BondFrom (interfaces : List InterfaceRecord) (bond : Bond) : Prop where
  iface : ∃ iface, byName interfaces bondName = some iface ∧ bond.name.val = iface.name ∧
    (bond.mtu.val : Int) = iface.mtu.getD 9000
  members : bond.members = nsNicNames
  mode : bond.mode = .lacp
  lacpRate : bond.lacpRate = .fast
  transmitHashPolicy : bond.transmitHashPolicy = .layer34

/-- Every value of the intent is that of the device with this asset tag, or of one of its interfaces. -/
structure FromNetbox (client : Client) (assetTag : String) (device : Device)
    (interfaces : List InterfaceRecord) (i : HostIntent) : Prop where
  found : client.devicesGet assetTag = .ok (some device)
  listing : client.interfacesFilter device.id = .ok interfaces
  tag : i.assetTag.val = assetTag
  hostname : device.name = some i.hostname.val
  role : roleSlug device = some i.role.value
  nsNics : List.Forall₂ (fun name nic => ∃ iface, byName interfaces name = some iface ∧
    NicFrom iface 9000 nic.toPhysIface) nsNicNames i.nsNics
  bond : BondFrom interfaces i.bond
  vlans : List.Forall₂ (VlanFrom client) (vlanIfaces interfaces) i.vlans
  roceUnderlays : ∃ nics, List.Forall₂ (RoceFrom client) (numberedIfaces roceNicPrefix interfaces) nics ∧
    i.roceUnderlays.Perm nics
  ibUnderlays : ∃ nics, List.Forall₂ (IbFrom client) (numberedIfaces ibNicPrefix interfaces) nics ∧
    i.ibUnderlays.Perm nics

/-- Nothing in the intent is invented. -/
def InventsNothing (client : Client) (assetTag : String) (i : HostIntent) : Prop :=
  ∃ device interfaces, FromNetbox client assetTag device interfaces i

/-! ## When it is -/

/-- The primary MAC is recorded as such: as six octets, in letters of either size. -/
def MacAsRecorded (iface : InterfaceRecord) : Prop :=
  ∃ primary recorded, iface.primaryMacAddress = some primary ∧ primary.macAddress = some recorded ∧
    macRe.rmatch (lower recorded.toList) = true

/-- The number of virtual functions is not recorded as a fraction. -/
def VfsAsRecorded (iface : InterfaceRecord) : Prop := ∀ value, recordedVfs iface = some value → value.Whole

/-- The device has a name; the readers that coerce meet what they are meant for. -/
def AsRecorded (client : Client) (assetTag : String) : Prop :=
  ∀ device, client.devicesGet assetTag = .ok (some device) →
    device.name ≠ none ∧
    ∀ interfaces, client.interfacesFilter device.id = .ok interfaces →
      (∀ iface ∈ nicIfaces interfaces, MacAsRecorded iface) ∧
      ∀ iface ∈ numberedIfaces roceNicPrefix interfaces, VfsAsRecorded iface

theorem macAsRecorded_of_macFrom {iface : InterfaceRecord} {mac : MacAddress} (h : MacFrom iface mac) :
    MacAsRecorded iface := by
  obtain ⟨primary, recorded, hprimary, hrecorded, hmac⟩ := h
  refine ⟨primary, recorded, hprimary, hrecorded, ?_⟩
  rw [← hmac]
  exact mac.canonical

theorem nicFrom_of_nicRead {iface : InterfaceRecord} {default : Int} {nic : PhysIface}
    (h : NicRead iface default nic) (hmac : MacAsRecorded iface) : NicFrom iface default nic := by
  obtain ⟨primary, recorded, hprimary, hrecorded, hform⟩ := hmac
  obtain ⟨primary', hprimary', hval⟩ := h.mac
  obtain rfl := Option.some.inj (hprimary.symm.trans hprimary')
  have hne : recorded ≠ "" := by
    intro hempty
    rw [hempty] at hform
    exact absurd hform (by decide)
  -- the reader takes the recorded text, and there is nothing to strip
  have htext : macText primary = recorded := by
    unfold macText
    rw [hrecorded]
    exact if_neg hne
  refine ⟨h.name, ?_, h.mtu⟩
  refine ⟨primary, recorded, hprimary, hrecorded, ?_⟩
  rw [hval, htext]
  exact strip_of_rmatch hform

theorem vfsAsRecorded_of_vfsFrom {iface : InterfaceRecord} {n : Int} (h : VfsFrom iface n) :
    VfsAsRecorded iface := by
  intro value hvalue
  unfold VfsFrom at h
  rw [hvalue] at h
  exact JsonValue.whole_of_denotes h

theorem vfsFrom_of_readSriovVfs {iface : InterfaceRecord} {n : Int} (h : readSriovVfs iface 16 = .ok n)
    (hwhole : VfsAsRecorded iface) : VfsFrom iface n := by
  rw [readSriovVfs_eq] at h
  unfold VfsFrom
  cases hvalue : recordedVfs iface with
  | none =>
    rw [hvalue] at h
    exact (Except.ok.inj h).symm
  | some value =>
    rw [hvalue] at h
    exact JsonValue.denotes_of_toInt h (hwhole value hvalue)

theorem bondFrom_of_buildBond (h : Stages client assetTag device interfaces i) :
    BondFrom interfaces i.bond := by
  obtain ⟨hname, hmembers, iface, hby, hmtu⟩ := bond_of_buildBond h.bond
  obtain ⟨hmode, hrate, hpolicy⟩ : i.bond.mode = .lacp ∧ i.bond.lacpRate = .fast ∧
      i.bond.transmitHashPolicy = .layer34 := by
    have hbond := h.bond
    unfold buildBond at hbond
    rw [hby] at hbond
    exact Bond.parameters_of_init hbond
  exact ⟨⟨iface, hby, hname.trans (mem_of_byName hby).2.symm, hmtu⟩,
    hmembers.trans (names_of_buildNsNics h.nsNics), hmode, hrate, hpolicy⟩

theorem vlanFrom_of_buildVlan {iface : InterfaceRecord} {vlan : VlanChild}
    (h : buildVlan client assetTag iface = .ok vlan) : VlanFrom client iface vlan := by
  have hread := vlanRead_of_buildVlan h
  obtain ⟨vid, -, h⟩ := bind_eq_ok.mp h
  obtain ⟨role, -, h⟩ := bind_eq_ok.mp h
  obtain ⟨address, -, h⟩ := bind_eq_ok.mp h
  obtain ⟨gateway, -, h⟩ := bind_eq_ok.mp h
  obtain ⟨hdns, hdomain⟩ := VlanChild.resolvers_of_init h
  exact ⟨hread, hdns, hdomain⟩

/-- Where all of it is recorded as it should be, what the stages return is in Netbox. -/
theorem fromNetbox_of_stages (h : Stages client assetTag device interfaces i) (hname : device.name ≠ none)
    (hmacs : ∀ iface ∈ nicIfaces interfaces, MacAsRecorded iface)
    (hvfs : ∀ iface ∈ numberedIfaces roceNicPrefix interfaces, VfsAsRecorded iface) :
    FromNetbox client assetTag device interfaces i := by
  obtain ⟨roce, hroce, hroceSorted⟩ := roceRead_of_buildRoceUnderlays h.roceUnderlays
  obtain ⟨ib, hib, hibSorted⟩ := ibRead_of_buildIbUnderlays h.ibUnderlays
  constructor
  case found => exact h.found
  case listing => exact h.listing
  case tag => exact h.tag
  case hostname =>
    obtain ⟨name, hsome⟩ := Option.ne_none_iff_exists'.mp hname
    have hhost := h.hostname
    rw [hsome] at hhost
    rw [hsome, hhost]
    rfl
  case role => exact h.role
  case nsNics =>
    -- each NIC beside the name it was looked up under
    have hall := (List.forall₂_and_left _ _).mpr ⟨fun name hmem => hmem, mapM_eq_ok_iff.mp h.nsNics⟩
    refine hall.imp ?_
    intro name nic ⟨hmem, hnic⟩
    obtain ⟨-, iface, hby, hread⟩ := nicRead_of_byName hnic
    have hiface : iface ∈ nicIfaces interfaces :=
      List.mem_append_left _ (List.mem_append_left _ (List.mem_filterMap.mpr ⟨name, hmem, hby⟩))
    exact ⟨iface, hby, nicFrom_of_nicRead hread (hmacs iface hiface)⟩
  case bond => exact bondFrom_of_buildBond h
  case vlans => exact (mapM_eq_ok_iff.mp h.vlans).imp fun _ _ => vlanFrom_of_buildVlan
  case roceUnderlays =>
    refine ⟨roce, ((List.forall₂_and_left _ _).mpr ⟨fun iface hmem => hmem, hroce⟩).imp ?_, hroceSorted⟩
    intro iface nic ⟨hmem, hread⟩
    have hmac := hmacs iface (List.mem_append_left _ (List.mem_append_right _ hmem))
    exact ⟨nicFrom_of_nicRead hread.toNicRead hmac, hread.address,
      vfsFrom_of_readSriovVfs hread.sriovVfs (hvfs iface hmem)⟩
  case ibUnderlays =>
    refine ⟨ib, ((List.forall₂_and_left _ _).mpr ⟨fun iface hmem => hmem, hib⟩).imp ?_, hibSorted⟩
    intro iface nic ⟨hmem, hread⟩
    exact ⟨nicFrom_of_nicRead hread.toNicRead (hmacs iface (List.mem_append_right _ hmem)), hread.address⟩

theorem asRecorded_of_fromNetbox (h : FromNetbox client assetTag device interfaces i) :
    AsRecorded client assetTag := by
  intro device' hfound
  obtain rfl := Option.some.inj (Except.ok.inj (h.found.symm.trans hfound))
  refine ⟨?_, ?_⟩
  · rw [h.hostname]
    exact Option.some_ne_none _
  · intro interfaces' hlisting
    obtain rfl := Except.ok.inj (h.listing.symm.trans hlisting)
    obtain ⟨roce, hroce, -⟩ := h.roceUnderlays
    obtain ⟨ib, hib, -⟩ := h.ibUnderlays
    constructor
    · intro iface hiface
      rcases List.mem_append.mp hiface with hiface | hiface
      · rcases List.mem_append.mp hiface with hiface | hiface
        · obtain ⟨nic, -, hfrom⟩ := exists_of_mem_left (forall₂_filterMap h.nsNics) iface hiface
          exact macAsRecorded_of_macFrom hfrom.mac
        · obtain ⟨nic, -, hfrom⟩ := exists_of_mem_left hroce iface hiface
          exact macAsRecorded_of_macFrom hfrom.mac
      · obtain ⟨nic, -, hfrom⟩ := exists_of_mem_left hib iface hiface
        exact macAsRecorded_of_macFrom hfrom.mac
    · intro iface hiface
      obtain ⟨nic, -, hfrom⟩ := exists_of_mem_left hroce iface hiface
      exact vfsAsRecorded_of_vfsFrom hfrom.sriovVfs

/-- **The loader invents nothing exactly when the device has a name, the primary MACs are recorded as MACs,
    and no number of virtual functions is a fraction.** -/
theorem inventsNothing_iff (h : loadHostIntent client assetTag = .ok i) :
    InventsNothing client assetTag i ↔ AsRecorded client assetTag := by
  obtain ⟨device, interfaces, hstages⟩ := stages_of_ok h
  constructor
  · rintro ⟨device', interfaces', hfrom⟩
    exact asRecorded_of_fromNetbox hfrom
  · intro hrecorded
    obtain ⟨hname, hifaces⟩ := hrecorded device hstages.found
    obtain ⟨hmacs, hvfs⟩ := hifaces interfaces hstages.listing
    exact ⟨device, interfaces, fromNetbox_of_stages hstages hname hmacs hvfs⟩

theorem inventsNothing_iff_cpu : ∃ i, loadHostIntent cpuClient "SN-CPU-001" = .ok i ∧
    (InventsNothing cpuClient "SN-CPU-001" i ↔ AsRecorded cpuClient "SN-CPU-001") := by
  obtain ⟨i, hload⟩ := cpuClient_loads
  exact ⟨i, hload, inventsNothing_iff hload⟩

/-- The `cpu` fixture with a device that has no name. -/
def namelessClient : Client :=
  oneDevice "SN-CPU-001" { cpuDevice with name := none } cpuInterfaces cpuAddresses

/-- The host is called `None`. -/
theorem nameless_invented : ∃ i, loadHostIntent namelessClient "SN-CPU-001" = .ok i ∧
    i.hostname.val = "None" ∧ ¬ InventsNothing namelessClient "SN-CPU-001" i := by
  have hrun : (loadHostIntent namelessClient "SN-CPU-001").toOption.map
      (fun i => decide (i.hostname.val = "None")) = some true := by decide +kernel
  obtain ⟨i, hload, hname⟩ := exists_ok_of_check hrun
  refine ⟨i, hload, of_decide_eq_true hname, ?_⟩
  rintro ⟨device, interfaces, hfrom⟩
  have hfound : some device = some { cpuDevice with name := none } := (Except.ok.inj hfrom.found).symm
  have hhost := hfrom.hostname
  rw [Option.some.inj hfound] at hhost
  cases hhost

end Netbox
end HostConfig
