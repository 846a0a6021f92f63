import HostConfig.Lib.Traverse
import HostConfig.Netbox.Loader

/-!
# `Netbox.Provenance` — what the parts of a loaded intent were read from

`load_host_intent` hands the constructor of `HostIntent` parts that each come from one interface record of
the device. `NicRead`, `AddressRead`, `VlanRead` and the others say what a part has from its record,
`PartsRead` what all parts have from the listing. `parts_of_ok` and `parts_of_invariantError` derive it for
the runs that reach the constructor: those that return an intent, and, since no reader or builder raises an
`InvariantError`, those that raise one.
-/

namespace HostConfig
namespace Netbox

open Models StableSort Traverse

variable {client : Client} {assetTag : String} {interfaces : List InterfaceRecord}

/-- The interfaces of the device with this asset tag have distinct names. -/
def DistinctNames (client : Client) (assetTag : String) : Prop :=
  ∀ device, client.devicesGet assetTag = .ok (some device) →
    ∀ interfaces, client.interfacesFilter device.id = .ok interfaces → (interfaces.map (·.name)).Nodup

/-- What holds of every device under the asset tag and every listing of its interfaces, holds
    of those there are. -/
theorem forall_listed_iff {P : Device → List InterfaceRecord → Prop} {device : Device}
    (hfound : client.devicesGet assetTag = .ok (some device))
    (hlisting : client.interfacesFilter device.id = .ok interfaces) :
    (∀ device, client.devicesGet assetTag = .ok (some device) →
      ∀ interfaces, client.interfacesFilter device.id = .ok interfaces → P device interfaces) ↔
        P device interfaces := by
  constructor
  · intro h
    exact h device hfound interfaces hlisting
  · intro h device' hfound' interfaces' hlisting'
    obtain rfl := Option.some.inj (Except.ok.inj (hfound.symm.trans hfound'))
    obtain rfl := Except.ok.inj (hlisting.symm.trans hlisting')
    exact h

/-! ## One model from one record -/

/-- The MAC a model has from a recorded text: lower-cased and stripped. -/
def canonicalMac (text : String) : List Char := strip (lower text.toList)

/-- The NIC has the name, the MTU (with this default) and the primary MAC of its record. -/
structure NicRead (iface : InterfaceRecord) (default : Int) (nic : PhysIface) : Prop where
  name : nic.name.val = iface.name
  mtu : (nic.mtu.val : Int) = readMtu iface default
  mac : ∃ primary, iface.primaryMacAddress = some primary ∧
    nic.mac.val.toList = canonicalMac (macText primary)

/-- The address is the only one assigned to the record. -/
def AddressRead (client : Client) (iface : InterfaceRecord) (address : IPv4Interface) : Prop :=
  ∃ ip, client.ipAddressesFilter iface.id = .ok [ip] ∧ IPv4Interface.parse ip.address = some address

structure RoceRead (client : Client) (iface : InterfaceRecord) (nic : RoceUnderlay) : Prop
    extends NicRead iface 9000 nic.toPhysIface where
  address : AddressRead client iface nic.address
  sriovVfs : readSriovVfs iface 16 = .ok (nic.sriovVfs.val : Int)

structure IbRead (client : Client) (iface : InterfaceRecord) (nic : InfinibandUnderlay) : Prop
    extends NicRead iface 2044 nic.toPhysIface where
  address : AddressRead client iface nic.address

/-- The VLAN child has the id and role of the record's untagged VLAN; its gateway is
    derived from its address. -/
structure VlanRead (client : Client) (iface : InterfaceRecord) (vlan : VlanChild) : Prop where
  name : vlan.name.val = iface.name
  parent : vlan.parent.val = bondName
  mtu : (vlan.mtu.val : Int) = readMtu iface 1500
  untagged : ∃ untagged, iface.untaggedVlan = some untagged ∧ (vlan.vlanId.val : Int) = untagged.vid ∧
    vlan.role.value = untagged.name
  address : AddressRead client iface vlan.address
  gateway : vlan.gateway = if vlan.role = .mgmt then vlan.address.firstHost else none

theorem mac_of_readMac {iface : InterfaceRecord} {mac : String} {m : MacAddress}
    (h : readMac iface assetTag = .ok mac) (hm : validateMac mac = some m) :
    ∃ primary, iface.primaryMacAddress = some primary ∧ m.val.toList = canonicalMac (macText primary) := by
  unfold readMac at h
  cases hprimary : iface.primaryMacAddress with
  | none => rw [hprimary] at h; cases h
  | some primary =>
    rw [hprimary] at h
    obtain rfl := Except.ok.inj h
    refine ⟨primary, rfl, ?_⟩
    rw [MacAddress.val_of_validate hm, String.toList_ofList, lower_lower]
    rfl

theorem addressRead_of_fetchSingleIp {iface : InterfaceRecord} {address : IPv4Interface}
    (h : fetchSingleIp client iface assetTag = .ok address) : AddressRead client iface address := by
  unfold fetchSingleIp at h
  split at h
  · cases h
  · rename_i ip hip
    split at h
    · rename_i hparse
      exact ⟨ip, hip, hparse.trans (congrArg some (Except.ok.inj h))⟩
    · cases h
  · cases h

theorem value_of_readVlanRole {iface : InterfaceRecord} {role : VlanRole} {untagged : VlanRecord}
    (hu : iface.untaggedVlan = some untagged) (h : readVlanRole iface assetTag = .ok role) :
    role.value = untagged.name := by
  unfold readVlanRole at h
  rw [hu] at h
  dsimp only at h
  split at h
  · rename_i hrole
    obtain rfl := Except.ok.inj h
    unfold VlanRole.ofValue at hrole
    have hvalue := List.find?_some hrole
    exact of_decide_eq_true hvalue
  · cases h

/-- **Gateway derivation does not run out of hosts.** -/
theorem deriveGateway_eq (address : IPv4Interface) :
    ∃ gateway, deriveGateway address = .ok gateway ∧ address.firstHost = some gateway := by
  obtain ⟨gateway, h⟩ := Option.isSome_iff_exists.mp address.firstHost_isSome
  exact ⟨gateway, by rw [deriveGateway, h], h⟩

theorem mem_of_byName {name : String} {iface : InterfaceRecord} (h : byName interfaces name = some iface) :
    iface ∈ interfaces ∧ iface.name = name := by
  have hfound := List.find?_some h
  exact ⟨List.mem_reverse.mp (List.mem_of_find?_eq_some h), of_decide_eq_true hfound⟩

theorem nicRead_of_byName {name : String} {nic : BondMember}
    (h : buildNsNic interfaces assetTag name = .ok nic) :
    nic.name.val = name ∧ ∃ iface, byName interfaces name = some iface ∧
      NicRead iface 9000 nic.toPhysIface := by
  unfold buildNsNic at h
  cases hby : byName interfaces name with
  | none => rw [hby] at h; cases h
  | some iface =>
    rw [hby] at h
    obtain ⟨-, hname⟩ := mem_of_byName hby
    obtain ⟨mac, hmac, h⟩ := bind_eq_ok.mp h
    obtain ⟨hn, hm, hmtu⟩ := BondMember.of_init h
    exact ⟨hn, iface, rfl, hn.trans hname.symm, hmtu, mac_of_readMac hmac hm⟩

/-- What a builder returns has been read off a record: a north-south NIC, -/
theorem nicRead_of_buildNsNic {name : String} {nic : BondMember}
    (h : buildNsNic interfaces assetTag name = .ok nic) :
    nic.name.val = name ∧ ∃ iface ∈ interfaces, NicRead iface 9000 nic.toPhysIface := by
  obtain ⟨hn, iface, hby, hread⟩ := nicRead_of_byName h
  exact ⟨hn, iface, (mem_of_byName hby).1, hread⟩

/-- a RoCE underlay, -/
theorem roceRead_of_buildRoceUnderlay {iface : InterfaceRecord} {nic : RoceUnderlay}
    (h : buildRoceUnderlay client assetTag iface = .ok nic) : RoceRead client iface nic := by
  obtain ⟨mac, hmac, h⟩ := bind_eq_ok.mp h
  obtain ⟨address, haddress, h⟩ := bind_eq_ok.mp h
  obtain ⟨sriovVfs, hvfs, h⟩ := bind_eq_ok.mp h
  obtain ⟨hn, hm, hmtu, hv, ha⟩ := RoceUnderlay.of_init h
  exact ⟨⟨hn, hmtu, mac_of_readMac hmac hm⟩, ha ▸ addressRead_of_fetchSingleIp haddress, hv ▸ hvfs⟩

/-- an InfiniBand underlay -/
theorem ibRead_of_buildIbUnderlay {iface : InterfaceRecord} {nic : InfinibandUnderlay}
    (h : buildIbUnderlay client assetTag iface = .ok nic) : IbRead client iface nic := by
  obtain ⟨mac, hmac, h⟩ := bind_eq_ok.mp h
  obtain ⟨address, haddress, h⟩ := bind_eq_ok.mp h
  obtain ⟨hn, hm, hmtu, ha⟩ := InfinibandUnderlay.of_init h
  exact ⟨⟨hn, hmtu, mac_of_readMac hmac hm⟩, ha ▸ addressRead_of_fetchSingleIp haddress⟩

/-- and a VLAN. -/
theorem vlanRead_of_buildVlan {iface : InterfaceRecord} {vlan : VlanChild}
    (h : buildVlan client assetTag iface = .ok vlan) : VlanRead client iface vlan := by
  obtain ⟨vid, hvid, h⟩ := bind_eq_ok.mp h
  obtain ⟨role, hrole, h⟩ := bind_eq_ok.mp h
  obtain ⟨address, haddress, h⟩ := bind_eq_ok.mp h
  obtain ⟨gateway, hgateway, h⟩ := bind_eq_ok.mp h
  obtain ⟨hn, hp, hid, hr, hmtu, ha, hg⟩ := VlanChild.of_init h
  obtain ⟨untagged, hu, huv⟩ : ∃ untagged, iface.untaggedVlan = some untagged ∧ untagged.vid = vid := by
    unfold readVlanId at hvid
    cases hu : iface.untaggedVlan with
    | none => rw [hu] at hvid; cases hvid
    | some untagged => rw [hu] at hvid; exact ⟨untagged, rfl, Except.ok.inj hvid⟩
  -- only the management VLAN has a gateway, the first host of its prefix
  have hderived : gateway = if role = .mgmt then address.firstHost else none := by
    obtain ⟨first, hfirst, hhost⟩ := deriveGateway_eq address
    rw [hfirst] at hgateway
    split at hgateway
    · rename_i hm
      rw [if_pos hm, hhost]
      exact (Except.ok.inj hgateway).symm
    · rename_i hm
      rw [if_neg hm]
      exact (Except.ok.inj hgateway).symm
  constructor
  case name => exact hn
  case parent => exact hp
  case mtu => exact hmtu
  case untagged => exact ⟨untagged, hu, hid.trans huv.symm, hr ▸ value_of_readVlanRole hu hrole⟩
  case address => exact ha ▸ addressRead_of_fetchSingleIp haddress
  case gateway => rw [hg, hr, ha, hderived]

/-! ## All parts -/

/-- The kinds of interfaces the builders pick, by name. -/
def vlanIfaces (interfaces : List InterfaceRecord) : List InterfaceRecord :=
  interfaces.filter fun i => isVlanName i.name

def numberedIfaces (namePrefix : String) (interfaces : List InterfaceRecord) : List InterfaceRecord :=
  interfaces.filter fun i => isNumbered namePrefix i.name

/-- The interfaces the loader makes NICs of. -/
def nicIfaces (interfaces : List InterfaceRecord) : List InterfaceRecord :=
  nsNicNames.filterMap (byName interfaces) ++ numberedIfaces roceNicPrefix interfaces ++
    numberedIfaces ibNicPrefix interfaces

/-- The parts were read from the listing: one model for every interface of its kind. -/
structure PartsRead (client : Client) (interfaces : List InterfaceRecord) (p : HostIntentFields) : Prop where
  nsNicNames : p.nsNics.map (·.name.val) = nsNicNames
  nsNics : ∀ nic ∈ p.nsNics, ∃ iface ∈ interfaces, NicRead iface 9000 nic.toPhysIface
  bondName : p.bond.name.val = bondName
  bondMembers : p.bond.members = Netbox.nsNicNames
  bond : ∃ iface ∈ interfaces, iface.name = Netbox.bondName ∧ (p.bond.mtu.val : Int) = readMtu iface 9000
  vlans : List.Forall₂ (VlanRead client) (vlanIfaces interfaces) p.vlans
  roceUnderlays : ∃ nics, List.Forall₂ (RoceRead client) (numberedIfaces roceNicPrefix interfaces) nics ∧
    p.roceUnderlays.Perm nics
  ibUnderlays : ∃ nics, List.Forall₂ (IbRead client) (numberedIfaces ibNicPrefix interfaces) nics ∧
    p.ibUnderlays.Perm nics

theorem names_of_buildNsNics {nsNics : List BondMember} (h : buildNsNics interfaces assetTag = .ok nsNics) :
    nsNics.map (·.name.val) = nsNicNames := by
  refine (map_of_mapM (k := id) ?_ h).trans (List.map_id _)
  exact fun name nic hnic => (nicRead_of_buildNsNic hnic).1

/-- The N-S NICs are of the records found under their names. -/
theorem forall₂_of_buildNsNics {nsNics : List BondMember} (h : buildNsNics interfaces assetTag = .ok nsNics) :
    List.Forall₂ (fun iface nic => NicRead iface 9000 nic.toPhysIface)
      (nsNicNames.filterMap (byName interfaces)) nsNics :=
  forall₂_filterMap ((mapM_eq_ok_iff.mp h).imp fun _ _ hnic => (nicRead_of_byName hnic).2)

/-- The RoCE underlays are of the numbered `gpu` records, sorted, -/
theorem roceRead_of_buildRoceUnderlays {roceUnderlays : List RoceUnderlay}
    (h : buildRoceUnderlays client interfaces assetTag = .ok roceUnderlays) :
    ∃ nics, List.Forall₂ (RoceRead client) (numberedIfaces roceNicPrefix interfaces) nics ∧
      roceUnderlays.Perm nics := by
  obtain ⟨roce, hall, hsorted⟩ := bind_eq_ok.mp h
  refine ⟨roce, (mapM_eq_ok_iff.mp hall).imp fun _ _ => roceRead_of_buildRoceUnderlay, ?_⟩
  rw [← Except.ok.inj hsorted]
  exact sortedBy_perm _ _

/-- and the InfiniBand underlays of the numbered `ib` ones. -/
theorem ibRead_of_buildIbUnderlays {ibUnderlays : List InfinibandUnderlay}
    (h : buildIbUnderlays client interfaces assetTag = .ok ibUnderlays) :
    ∃ nics, List.Forall₂ (IbRead client) (numberedIfaces ibNicPrefix interfaces) nics ∧
      ibUnderlays.Perm nics := by
  obtain ⟨ib, hall, hsorted⟩ := bind_eq_ok.mp h
  refine ⟨ib, (mapM_eq_ok_iff.mp hall).imp fun _ _ => ibRead_of_buildIbUnderlay, ?_⟩
  rw [← Except.ok.inj hsorted]
  exact sortedBy_perm _ _

/-- The bond is of the NICs it was built with, and has the MTU of its record. -/
theorem bond_of_buildBond {nsNics : List BondMember} {bond : Bond}
    (h : buildBond interfaces nsNics assetTag = .ok bond) :
    bond.name.val = bondName ∧ bond.members = nsNics.map (·.name.val) ∧
      ∃ iface, byName interfaces bondName = some iface ∧ (bond.mtu.val : Int) = readMtu iface 9000 := by
  unfold buildBond at h
  cases hby : byName interfaces bondName with
  | none => rw [hby] at h; cases h
  | some iface =>
    rw [hby] at h
    obtain ⟨hn, hm, hmtu⟩ := Bond.of_init h
    exact ⟨hn, hm, iface, rfl, hmtu⟩

/-- What the builders return is what the listing says. -/
theorem partsRead_of_builders {nsNics : List BondMember} {bond : Bond} {vlans : List VlanChild}
    {roceUnderlays : List RoceUnderlay} {ibUnderlays : List InfinibandUnderlay}
    (hns : buildNsNics interfaces assetTag = .ok nsNics)
    (hbond : buildBond interfaces nsNics assetTag = .ok bond)
    (hvlans : buildVlans client interfaces assetTag = .ok vlans)
    (hroce : buildRoceUnderlays client interfaces assetTag = .ok roceUnderlays)
    (hib : buildIbUnderlays client interfaces assetTag = .ok ibUnderlays) (tag : AssetTag)
    (hostname : Hostname) (role : Role) : PartsRead client interfaces
      { assetTag := tag, hostname, role, nsNics, bond, vlans, roceUnderlays, ibUnderlays } := by
  obtain ⟨hbondName, hmembers, bondIface, hby, hmtu⟩ := bond_of_buildBond hbond
  obtain ⟨hmem, hname⟩ := mem_of_byName hby
  constructor
  case nsNicNames => exact names_of_buildNsNics hns
  case nsNics =>
    intro nic hnic
    obtain ⟨name, -, hname⟩ := exists_of_mem_mapM hns nic hnic
    exact (nicRead_of_buildNsNic hname).2
  case bondName => exact hbondName
  case bondMembers => exact hmembers.trans (names_of_buildNsNics hns)
  case bond => exact ⟨bondIface, hmem, hname, hmtu⟩
  case vlans => exact (mapM_eq_ok_iff.mp hvlans).imp fun _ _ => vlanRead_of_buildVlan
  case roceUnderlays => exact roceRead_of_buildRoceUnderlays hroce
  case ibUnderlays => exact ibRead_of_buildIbUnderlays hib

/-! ## Runs that reach the constructor -/

/-- What the constructor is called with, given the device and the listing. -/
structure Built (client : Client) (assetTag : String) (device : Device) (interfaces : List InterfaceRecord)
    (p : HostIntentFields) : Prop where
  found : client.devicesGet assetTag = .ok (some device)
  listing : client.interfacesFilter device.id = .ok interfaces
  assetTag : p.assetTag.val = assetTag
  hostname : p.hostname.val = device.name.getD "None"
  role : roleSlug device = some p.role.value
  parts : PartsRead client interfaces p

theorem devicesGet_of_fetchDevice {device : Device} (h : fetchDevice client assetTag = .ok device) :
    client.devicesGet assetTag = .ok (some device) := by
  unfold fetchDevice at h
  split at h
  · cases h
  · cases h
  · rename_i hget
    rw [hget, Except.ok.inj h]

theorem fetchInterfaces_eq_ok {device : Device} :
    fetchInterfaces client device assetTag = .ok interfaces ↔
      client.interfacesFilter device.id = .ok interfaces := by
  unfold fetchInterfaces
  cases client.interfacesFilter device.id <;> simp

theorem roleSlug_of_parseRole {device : Device} {role : Role} (h : parseRole device assetTag = .ok role) :
    roleSlug device = some role.value := by
  unfold parseRole at h
  cases hslug : roleSlug device with
  | none => rw [hslug] at h; cases h
  | some slug =>
    rw [hslug] at h
    dsimp only at h
    split at h
    · rename_i hrole
      obtain rfl := Except.ok.inj h
      unfold Role.ofValue at hrole
      have hvalue := List.find?_some hrole
      rw [of_decide_eq_true hvalue]
    · cases h

/-! ### Who can raise an `InvariantError` -/

section NoInvariantError

variable {e : InvariantError}

theorem readMac_error {iface : InterfaceRecord} : readMac iface assetTag ≠ .error (.invariantError e) := by
  unfold readMac queryError
  cases iface.primaryMacAddress <;> simp

theorem fetchSingleIp_error {iface : InterfaceRecord} :
    fetchSingleIp client iface assetTag ≠ .error (.invariantError e) := by
  unfold fetchSingleIp queryError
  split
  · simp
  · split <;> simp
  · simp

theorem readSriovVfs_error {iface : InterfaceRecord} {default : Int} :
    readSriovVfs iface default ≠ .error (.invariantError e) := by
  have hint : ∀ value : JsonValue, value.toInt ≠ .error (.invariantError e) := by
    intro value
    unfold JsonValue.toInt
    split
    case h_6 => split <;> simp
    all_goals simp
  unfold readSriovVfs
  split
  · simp
  · simp
  · exact hint _

theorem readVlanRole_error {iface : InterfaceRecord} :
    readVlanRole iface assetTag ≠ .error (.invariantError e) := by
  unfold readVlanRole queryError
  cases iface.untaggedVlan with
  | none => simp
  | some untagged =>
    dsimp only
    split <;> simp

theorem buildNsNic_error {name : String} :
    buildNsNic interfaces assetTag name ≠ .error (.invariantError e) := by
  intro h
  unfold buildNsNic at h
  split at h
  · simp [queryError] at h
  · rcases bind_eq_error.mp h with h | ⟨mac, -, h⟩
    · exact readMac_error h
    · unfold BondMember.init at h
      split at h <;> simp [invalid] at h

theorem buildBond_error {nsNics : List BondMember} :
    buildBond interfaces nsNics assetTag ≠ .error (.invariantError e) := by
  unfold buildBond
  split
  · simp [queryError]
  · unfold Bond.init Bond.init.build
    dsimp only
    split
    · simp
    · split
      · split <;> simp [invalid]
      · simp

theorem buildVlan_error {iface : InterfaceRecord} :
    buildVlan client assetTag iface ≠ .error (.invariantError e) := by
  intro h
  rcases bind_eq_error.mp h with h | ⟨vid, -, h⟩
  · unfold readVlanId queryError at h
    split at h <;> simp at h
  · rcases bind_eq_error.mp h with h | ⟨role, -, h⟩
    · exact readVlanRole_error h
    · rcases bind_eq_error.mp h with h | ⟨address, -, h⟩
      · exact fetchSingleIp_error h
      · rcases bind_eq_error.mp h with h | ⟨gateway, -, h⟩
        · obtain ⟨first, hfirst, -⟩ := deriveGateway_eq address
          rw [hfirst] at h
          split at h <;> cases h
        · unfold VlanChild.init at h
          split at h <;> simp [invalid] at h

theorem buildRoceUnderlay_error {iface : InterfaceRecord} :
    buildRoceUnderlay client assetTag iface ≠ .error (.invariantError e) := by
  intro h
  rcases bind_eq_error.mp h with h | ⟨mac, -, h⟩
  · exact readMac_error h
  · rcases bind_eq_error.mp h with h | ⟨address, -, h⟩
    · exact fetchSingleIp_error h
    · rcases bind_eq_error.mp h with h | ⟨sriovVfs, -, h⟩
      · exact readSriovVfs_error h
      · unfold RoceUnderlay.init at h
        split at h <;> simp [invalid] at h

theorem buildIbUnderlay_error {iface : InterfaceRecord} :
    buildIbUnderlay client assetTag iface ≠ .error (.invariantError e) := by
  intro h
  rcases bind_eq_error.mp h with h | ⟨mac, -, h⟩
  · exact readMac_error h
  · rcases bind_eq_error.mp h with h | ⟨address, -, h⟩
    · exact fetchSingleIp_error h
    · unfold InfinibandUnderlay.init at h
      split at h <;> simp [invalid] at h

/-- A loop over one of the builders does not raise one either. -/
theorem mapM_error {β γ : Type} {l : List β} {build : β → Except PyExc γ}
    (h : ∀ b, build b ≠ .error (.invariantError e)) : l.mapM build ≠ .error (.invariantError e) := by
  intro hl
  obtain ⟨b, -, hb⟩ := exists_of_mapM_eq_error hl
  exact h b hb

end NoInvariantError

/-- The constructor's outcome is that of its invariant checks, once the two strings validate. -/
theorem init_cases {hostname : String} {role : Role} {nsNics : List BondMember} {bond : Bond}
    {vlans : List VlanChild}
    {roceUnderlays : List RoceUnderlay} {ibUnderlays : List InfinibandUnderlay} {e : InvariantError}
    (h : HostIntent.init assetTag hostname role nsNics bond vlans roceUnderlays ibUnderlays =
      .error (.invariantError e)) :
    ∃ (tag : AssetTag) (host : Hostname), tag.val = assetTag ∧ host.val = hostname ∧
      HostIntent.ofFields
        { assetTag := tag, hostname := host, role, nsNics, bond, vlans, roceUnderlays,
          ibUnderlays } = .error e := by
  unfold HostIntent.init at h
  split at h
  · rename_i tag host htag hhost
    refine ⟨tag, host, BoundedStr.val_of_validate htag, BoundedStr.val_of_validate hhost, ?_⟩
    cases hof : HostIntent.ofFields
        { assetTag := tag, hostname := host, role, nsNics, bond, vlans, roceUnderlays, ibUnderlays } with
    | ok i => rw [hof] at h; cases h
    | error e' =>
      rw [hof] at h
      rw [PyExc.invariantError.inj (Except.error.inj h)]
  · simp [invalid] at h

/-- What the stages of a load return: the device, its interfaces, and the parts of the intent. -/
structure Stages (client : Client) (assetTag : String) (device : Device) (interfaces : List InterfaceRecord)
    (i : HostIntent) : Prop where
  found : client.devicesGet assetTag = .ok (some device)
  listing : client.interfacesFilter device.id = .ok interfaces
  tag : i.assetTag.val = assetTag
  hostname : i.hostname.val = device.name.getD "None"
  role : roleSlug device = some i.role.value
  nsNics : buildNsNics interfaces assetTag = .ok i.nsNics
  bond : buildBond interfaces i.nsNics assetTag = .ok i.bond
  vlans : buildVlans client interfaces assetTag = .ok i.vlans
  roceUnderlays : buildRoceUnderlays client interfaces assetTag = .ok i.roceUnderlays
  ibUnderlays : buildIbUnderlays client interfaces assetTag = .ok i.ibUnderlays

/-- A load that returns has gone through all its stages. -/
theorem stages_of_ok {i : HostIntent} (h : loadHostIntent client assetTag = .ok i) :
    ∃ device interfaces, Stages client assetTag device interfaces i := by
  obtain ⟨device, hdevice, h⟩ := bind_eq_ok.mp h
  obtain ⟨interfaces, hinterfaces, h⟩ := bind_eq_ok.mp h
  obtain ⟨role, hrole, h⟩ := bind_eq_ok.mp h
  obtain ⟨nsNics, hns, h⟩ := bind_eq_ok.mp h
  obtain ⟨bond, hbond, h⟩ := bind_eq_ok.mp h
  obtain ⟨vlans, hvlans, h⟩ := bind_eq_ok.mp h
  obtain ⟨roceUnderlays, hroce, h⟩ := bind_eq_ok.mp h
  obtain ⟨ibUnderlays, hib, h⟩ := bind_eq_ok.mp h
  obtain ⟨htag, hhost, rfl, rfl, rfl, rfl, rfl, rfl⟩ := HostIntent.init_eq_ok_iff.mp h
  exact ⟨device, interfaces, devicesGet_of_fetchDevice hdevice,
    fetchInterfaces_eq_ok.mp hinterfaces, htag, hhost,
    roleSlug_of_parseRole hrole, hns, hbond, hvlans, hroce, hib⟩

/-- **A loaded intent has the parts the listing says.** -/
theorem built_of_ok {i : HostIntent} (h : loadHostIntent client assetTag = .ok i) :
    ∃ device interfaces, Built client assetTag device interfaces i.toHostIntentFields := by
  obtain ⟨device, interfaces, h⟩ := stages_of_ok h
  exact ⟨device, interfaces, h.found, h.listing, h.tag, h.hostname, h.role,
    partsRead_of_builders h.nsNics h.bond h.vlans h.roceUnderlays h.ibUnderlays _ _ _⟩

/-- **An `InvariantError` is about parts the listing says.** -/
theorem built_of_invariantError {e : InvariantError}
    (h : loadHostIntent client assetTag = .error (.invariantError e)) :
    ∃ device interfaces p, Built client assetTag device interfaces p ∧ HostIntent.ofFields p = .error e := by
  rcases bind_eq_error.mp h with h | ⟨device, hdevice, h⟩
  · unfold fetchDevice queryError at h
    split at h <;> simp at h
  rcases bind_eq_error.mp h with h | ⟨interfaces, hinterfaces, h⟩
  · unfold fetchInterfaces queryError at h
    split at h <;> simp at h
  rcases bind_eq_error.mp h with h | ⟨role, hrole, h⟩
  · unfold parseRole queryError at h
    split at h
    · simp at h
    · split at h <;> simp at h
  rcases bind_eq_error.mp h with h | ⟨nsNics, hns, h⟩
  · exact absurd h (mapM_error fun _ => buildNsNic_error)
  rcases bind_eq_error.mp h with h | ⟨bond, hbond, h⟩
  · exact absurd h buildBond_error
  rcases bind_eq_error.mp h with h | ⟨vlans, hvlans, h⟩
  · exact absurd h (mapM_error fun _ => buildVlan_error)
  rcases bind_eq_error.mp h with h | ⟨roceUnderlays, hroce, h⟩
  · rcases bind_eq_error.mp h with h | ⟨_, -, h⟩
    · exact absurd h (mapM_error fun _ => buildRoceUnderlay_error)
    · cases h
  rcases bind_eq_error.mp h with h | ⟨ibUnderlays, hib, h⟩
  · rcases bind_eq_error.mp h with h | ⟨_, -, h⟩
    · exact absurd h (mapM_error fun _ => buildIbUnderlay_error)
    · cases h
  -- only the constructor is left
  obtain ⟨tag, host, htag, hhost, hof⟩ := init_cases h
  exact ⟨device, interfaces, _, ⟨devicesGet_of_fetchDevice hdevice,
    fetchInterfaces_eq_ok.mp hinterfaces, htag, hhost,
    roleSlug_of_parseRole hrole, partsRead_of_builders hns hbond hvlans hroce hib tag host role⟩, hof⟩

/-- The `cpu` fixture loads. -/
theorem cpuClient_loads : ∃ i, loadHostIntent cpuClient "SN-CPU-001" = .ok i :=
  exists_ok_of_isOk (by decide +kernel)

end Netbox
end HostConfig
