import HostConfig.Netbox.Provenance

/-!
# `Netbox.Reordering` — the order of the interface listing

Netbox may list the interfaces of a device in any order. `loadHostIntent_reordered`: when their names are
distinct, the loader succeeds under one order exactly when it does under the other, with the same intent up
to the order of its VLANs. Which error it raises may differ, since the first malformed interface may.

The four builders are taken one by one: the lookups by name find the same interface, the loops give the same
models in another order, and the sort by name puts the underlays back in one order. The constructor's rules
see no order at all.
-/

namespace HostConfig
namespace Netbox

open Models StableSort Traverse

/-! ## Two clients that differ in the order of the listing -/

/-- The two listings fail alike, or list the same interfaces. -/
inductive SameListing : Except String (List InterfaceRecord) → Except String (List InterfaceRecord) → Prop
  | failed (e : String) : SameListing (.error e) (.error e)
  | listed {l l' : List InterfaceRecord} (h : l.Perm l') : SameListing (.ok l) (.ok l')

theorem SameListing.symm {x y : Except String (List InterfaceRecord)} (h : SameListing x y) :
    SameListing y x := by
  cases h with
  | failed e => exact .failed e
  | listed hp => exact .listed hp.symm

/-- The clients answer alike, but may list the interfaces of a device in different orders. -/
structure Reordered (c c' : Client) : Prop where
  devices : ∀ assetTag, c.devicesGet assetTag = c'.devicesGet assetTag
  interfaces : ∀ id, SameListing (c.interfacesFilter id) (c'.interfacesFilter id)
  addresses : ∀ id, c.ipAddressesFilter id = c'.ipAddressesFilter id

theorem Reordered.symm {c c' : Client} (h : Reordered c c') : Reordered c' c where
  devices assetTag := (h.devices assetTag).symm
  interfaces id := (h.interfaces id).symm
  addresses id := (h.addresses id).symm

/-- Reordering repeats no name. -/
theorem Reordered.distinctNames {c c' : Client} (h : Reordered c c') {assetTag : String}
    (hd : DistinctNames c assetTag) : DistinctNames c' assetTag := by
  intro device hdevice interfaces' hinterfaces'
  have hlisting := h.interfaces device.id
  rw [hinterfaces'] at hlisting
  cases hlisting' : c.interfacesFilter device.id with
  | error e => rw [hlisting'] at hlisting; cases hlisting
  | ok interfaces =>
    rw [hlisting'] at hlisting
    cases hlisting with
    | listed hp =>
      exact (hp.map _).nodup_iff.mp (hd device ((h.devices assetTag).trans hdevice) interfaces hlisting')

/-- Equal but for the order of the VLANs. -/
structure SameUpToVlanOrder (i i' : HostIntent) : Prop where
  assetTag : i.assetTag = i'.assetTag
  hostname : i.hostname = i'.hostname
  role : i.role = i'.role
  nsNics : i.nsNics = i'.nsNics
  bond : i.bond = i'.bond
  vlans : i.vlans.Perm i'.vlans
  roceUnderlays : i.roceUnderlays = i'.roceUnderlays
  ibUnderlays : i.ibUnderlays = i'.ibUnderlays

/-- Both runs fail, or both succeed with intents that differ in the order of the VLANs at most. -/
def SameOutcome : Except PyExc HostIntent → Except PyExc HostIntent → Prop
  | .ok i,    .ok i'   => SameUpToVlanOrder i i'
  | .error _, .error _ => True
  | _,        _        => False

/-! ## The builders -/

section Builders

variable {c c' : Client} {l l' : List InterfaceRecord}

/-- A lookup by name finds the same interface. -/
theorem byName_perm (hp : l.Perm l') (hn : (l.map (·.name)).Nodup)
    (name : String) : byName l name = byName l' name := by
  refine find?_perm ((List.reverse_perm l).trans (hp.trans (List.reverse_perm l').symm)) ?_
  intro a ha b hb hname hname'
  refine List.inj_on_of_nodup_map hn (List.mem_reverse.mp ha) (List.mem_reverse.mp hb) ?_
  rw [of_decide_eq_true hname, of_decide_eq_true hname']

/-- What is looked up by name does not depend on the order: the NICs -/
theorem buildNsNics_perm (hp : l.Perm l') (hn : (l.map (·.name)).Nodup) (assetTag : String) :
    buildNsNics l assetTag = buildNsNics l' assetTag := by
  unfold buildNsNics
  congr 1
  funext name
  rw [buildNsNic, buildNsNic, byName_perm hp hn]

/-- and the bond. -/
theorem buildBond_perm (hp : l.Perm l') (hn : (l.map (·.name)).Nodup) (nsNics : List BondMember)
    (assetTag : String) : buildBond l nsNics assetTag = buildBond l' nsNics assetTag := by
  rw [buildBond, buildBond, byName_perm hp hn]

/-- The address of an interface does not depend on the listing. -/
theorem fetchSingleIp_congr (h : ∀ id, c.ipAddressesFilter id = c'.ipAddressesFilter id) (assetTag : String)
    (iface : InterfaceRecord) : fetchSingleIp c iface assetTag = fetchSingleIp c' iface assetTag := by
  rw [fetchSingleIp, fetchSingleIp, h]

/-- The VLANs come in the order of the listing. -/
theorem buildVlans_perm (hp : l.Perm l') (h : ∀ id, c.ipAddressesFilter id = c'.ipAddressesFilter id)
    {assetTag : String} {vlans : List VlanChild} (hok : buildVlans c l assetTag = .ok vlans) :
    ∃ vlans', buildVlans c' l' assetTag = .ok vlans' ∧ vlans.Perm vlans' := by
  have hbuild : buildVlan c assetTag = buildVlan c' assetTag := by
    funext iface
    rw [buildVlan, buildVlan, fetchSingleIp_congr h]
  unfold buildVlans at hok ⊢
  rw [← hbuild]
  exact mapM_perm (hp.filter _) hok

/-- A loop over the interfaces of a kind followed by the sort by name: the models keep the names of their
    interfaces, so the sort has no ties. -/
theorem sorted_mapM_perm {β : Type} {build : InterfaceRecord → Except PyExc β} {name : β → String}
    (hname : ∀ iface b, build iface = .ok b → name b = iface.name) {kind : InterfaceRecord → Bool}
    (hp : l.Perm l') (hn : (l.map (·.name)).Nodup) {r : List β} (hok : (l.filter kind).mapM build = .ok r) :
    ∃ r', (l'.filter kind).mapM build = .ok r' ∧ sortedBy (· ≤ ·) name r = sortedBy (· ≤ ·) name r' := by
  obtain ⟨r', hok', hperm⟩ := mapM_perm (hp.filter kind) hok
  refine ⟨r', hok', sortedBy_eq_of_perm ?_ hperm⟩
  have hnodup : (r.map name).Nodup := by
    rw [map_of_mapM hname hok]
    exact hn.sublist (List.filter_sublist.map _)
  exact fun a ha b hb hab => List.inj_on_of_nodup_map hnodup ha hb hab

/-- The underlays are sorted: the RoCE ones -/
theorem buildRoceUnderlays_perm (hp : l.Perm l') (hn : (l.map (·.name)).Nodup)
    (h : ∀ id, c.ipAddressesFilter id = c'.ipAddressesFilter id) {assetTag : String}
    {nics : List RoceUnderlay}
    (hok : buildRoceUnderlays c l assetTag = .ok nics) : buildRoceUnderlays c' l' assetTag = .ok nics := by
  have hbuild : buildRoceUnderlay c assetTag = buildRoceUnderlay c' assetTag := by
    funext iface
    rw [buildRoceUnderlay, buildRoceUnderlay, fetchSingleIp_congr h]
  obtain ⟨r, hr, hnics⟩ := bind_eq_ok.mp hok
  obtain ⟨r', hr', hsorted⟩ := sorted_mapM_perm (fun _ _ h => (roceRead_of_buildRoceUnderlay h).name) hp hn hr
  rw [hbuild] at hr'
  exact bind_eq_ok.mpr ⟨r', hr', hsorted ▸ hnics⟩

/-- and the InfiniBand ones. -/
theorem buildIbUnderlays_perm (hp : l.Perm l') (hn : (l.map (·.name)).Nodup)
    (h : ∀ id, c.ipAddressesFilter id = c'.ipAddressesFilter id) {assetTag : String}
    {nics : List InfinibandUnderlay}
    (hok : buildIbUnderlays c l assetTag = .ok nics) : buildIbUnderlays c' l' assetTag = .ok nics := by
  have hbuild : buildIbUnderlay c assetTag = buildIbUnderlay c' assetTag := by
    funext iface
    rw [buildIbUnderlay, buildIbUnderlay, fetchSingleIp_congr h]
  obtain ⟨r, hr, hnics⟩ := bind_eq_ok.mp hok
  obtain ⟨r', hr', hsorted⟩ := sorted_mapM_perm (fun _ _ h => (ibRead_of_buildIbUnderlay h).name) hp hn hr
  rw [hbuild] at hr'
  exact bind_eq_ok.mpr ⟨r', hr', hsorted ▸ hnics⟩

end Builders

/-! ## The loader -/

/-- The constructor accepts the parts in one order of the VLANs when it does in another. -/
theorem init_perm {assetTag hostname : String} {role : Role} {nsNics : List BondMember} {bond : Bond}
    {vlans vlans' : List VlanChild} {roceUnderlays : List RoceUnderlay}
    {ibUnderlays : List InfinibandUnderlay} (hp : vlans.Perm vlans') {i : HostIntent}
    (h : HostIntent.init assetTag hostname role nsNics bond vlans roceUnderlays ibUnderlays = .ok i) :
    ∃ i', HostIntent.init assetTag hostname role nsNics bond vlans' roceUnderlays ibUnderlays = .ok i' ∧
      SameUpToVlanOrder i i' := by
  obtain ⟨ha, hh, hr, hns, hb, rfl, hroce, hib⟩ := HostIntent.init_eq_ok_iff.mp h
  have hpermuted : i.toHostIntentFields.Permuted { i.toHostIntentFields with vlans := vlans' } :=
    { assetTag := rfl, hostname := rfl, role := rfl, nsNics := .refl _, bondName := rfl,
      bondMembers := .refl _,
      bondMode := rfl, bondLacpRate := rfl, bondHashPolicy := rfl, bondMtu := rfl, vlans := hp,
      roceUnderlays := .refl _, ibUnderlays := .refl _ }
  have hvalid := (HostIntentFields.checkInvariants_ok_iff _).mpr (hpermuted.satisfies_iff.mp i.satisfies)
  refine ⟨{ i.toHostIntentFields with vlans := vlans', valid := hvalid }, ?_, ?_⟩
  · exact HostIntent.init_eq_ok_iff.mpr ⟨ha, hh, hr, hns, hb, rfl, hroce, hib⟩
  · exact ⟨rfl, rfl, rfl, rfl, rfl, hp, rfl, rfl⟩

/-- The device is the same. -/
theorem fetchDevice_congr {c c' : Client} (h : Reordered c c') (assetTag : String) :
    fetchDevice c assetTag = fetchDevice c' assetTag := by
  rw [fetchDevice, fetchDevice, h.devices]

/-- What succeeds under one order succeeds under the other. -/
theorem loadHostIntent_ok_of_reordered {c c' : Client} (h : Reordered c c') {assetTag : String}
    (hd : DistinctNames c assetTag) {i : HostIntent} (hok : loadHostIntent c assetTag = .ok i) :
    ∃ i', loadHostIntent c' assetTag = .ok i' ∧ SameUpToVlanOrder i i' := by
  obtain ⟨device, hdevice, hok⟩ := bind_eq_ok.mp hok
  obtain ⟨interfaces, hinterfaces, hok⟩ := bind_eq_ok.mp hok
  obtain ⟨role, hrole, hok⟩ := bind_eq_ok.mp hok
  obtain ⟨nsNics, hnsNics, hok⟩ := bind_eq_ok.mp hok
  obtain ⟨bond, hbond, hok⟩ := bind_eq_ok.mp hok
  obtain ⟨vlans, hvlans, hok⟩ := bind_eq_ok.mp hok
  obtain ⟨roceUnderlays, hroce, hok⟩ := bind_eq_ok.mp hok
  obtain ⟨ibUnderlays, hib, hok⟩ := bind_eq_ok.mp hok
  have hlisting := fetchInterfaces_eq_ok.mp hinterfaces
  have hn := hd device (devicesGet_of_fetchDevice hdevice) interfaces hlisting
  obtain ⟨interfaces', hlisting', hp⟩ :
      ∃ interfaces', c'.interfacesFilter device.id = .ok interfaces' ∧ interfaces.Perm interfaces' := by
    have hsame := h.interfaces device.id
    rw [hlisting] at hsame
    generalize c'.interfacesFilter device.id = listing' at hsame
    cases hsame with
    | listed hp => exact ⟨_, rfl, hp⟩
  obtain ⟨vlans', hvlans', hvperm⟩ := buildVlans_perm hp h.addresses hvlans
  obtain ⟨i', hi', hsame⟩ := init_perm hvperm hok
  -- the run under the other order, step by step
  refine ⟨i', ?_, hsame⟩
  refine bind_eq_ok.mpr ⟨device, fetchDevice_congr h assetTag ▸ hdevice, ?_⟩
  refine bind_eq_ok.mpr ⟨interfaces', fetchInterfaces_eq_ok.mpr hlisting', ?_⟩
  refine bind_eq_ok.mpr ⟨role, hrole, ?_⟩
  refine bind_eq_ok.mpr ⟨nsNics, buildNsNics_perm hp hn assetTag ▸ hnsNics, ?_⟩
  refine bind_eq_ok.mpr ⟨bond, buildBond_perm hp hn nsNics assetTag ▸ hbond, ?_⟩
  refine bind_eq_ok.mpr ⟨vlans', hvlans', ?_⟩
  refine bind_eq_ok.mpr ⟨roceUnderlays, buildRoceUnderlays_perm hp hn h.addresses hroce, ?_⟩
  exact bind_eq_ok.mpr ⟨ibUnderlays, buildIbUnderlays_perm hp hn h.addresses hib, hi'⟩

/-- **The order in which Netbox lists the interfaces decides neither success nor the intent**, but for the
    order of its VLANs. -/
theorem loadHostIntent_reordered {c c' : Client} {assetTag : String} (h : Reordered c c')
    (hd : DistinctNames c assetTag) :
    SameOutcome (loadHostIntent c assetTag) (loadHostIntent c' assetTag) := by
  cases hok : loadHostIntent c assetTag with
  | ok i =>
    obtain ⟨i', hok', hsame⟩ := loadHostIntent_ok_of_reordered h hd hok
    rw [hok']
    exact hsame
  | error e =>
    cases hok' : loadHostIntent c' assetTag with
    | error e' => trivial
    | ok i' =>
      obtain ⟨i, hi, -⟩ := loadHostIntent_ok_of_reordered h.symm (h.distinctNames hd) hok'
      rw [hok] at hi
      cases hi

/-- The `cpu` fixture with its interfaces listed backwards. -/
def cpuBackwards : Client := oneDevice "SN-CPU-001" cpuDevice cpuInterfaces.reverse cpuAddresses

theorem loadHostIntent_cpuBackwards :
    SameOutcome (loadHostIntent cpuClient "SN-CPU-001") (loadHostIntent cpuBackwards "SN-CPU-001") := by
  refine @loadHostIntent_reordered cpuClient cpuBackwards _ ⟨fun _ => rfl, ?_, fun _ => rfl⟩ ?_
  · exact fun _ => .listed (List.reverse_perm cpuInterfaces).symm
  · intro device _ interfaces hinterfaces
    obtain rfl := Except.ok.inj hinterfaces
    decide

end Netbox
end HostConfig
