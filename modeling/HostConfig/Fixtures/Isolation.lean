import HostConfig.Fixtures.Conflicts
import HostConfig.Fixtures.RoundTrip
import HostConfig.Netbox.Views
import HostConfig.Service.App

/-!
# `Fixtures.Isolation` — populating some hosts leaves the others alone

Fixtures share sites, roles and VLANs with hosts they are not about, and write to the same tables.
`populate_isolated`: a host that none of them is of is served as before, byte for byte.

A host is seen through its view (`Netbox.Views`), which `view_of_single` computes from the tables. A step
writes to no interface of another device and assigns no address to one; the objects it creates have ids of
their own, so what the host refers to is found where it was (`Linked`: the database lets nothing be referred
to that does not exist).
-/

namespace HostConfig
namespace Fixtures

open Netbox Relation Service Render

variable {fixtures : List HostFixture} {fx : HostFixture} {n n' : NetboxState} {k : Kind}
  {key : Key} {id : Nat} {assetTag : String} {device : Nat}

/-! ## The view of a host, from the tables -/

namespace NetboxState

variable (n : NetboxState)

/-- The interfaces of a device, in the order they are listed. -/
def interfacesOf (device : Nat) : List (Nat × InterfaceRow) :=
  (n.table .interface).matching fun row => row.device = device

/-- The addresses that are assigned to an interface. -/
def addressesOf (iface : Nat) : List (Nat × IpRow) :=
  (n.table .ipAddress).matching fun row =>
    row.assignedObjectType = some "dcim.interface" ∧ row.assignedObjectId = some iface

def rowView (e : Nat × InterfaceRow) : InterfaceView where
  name := e.2.name
  mtu := e.2.mtu
  mac := ((e.2.refs .primaryMacAddress).bind n.macRecord).map macText
  untaggedVlan := e.2.untaggedVlan.bind n.vlanRecord
  customFields := e.2.customFields
  addresses := .ok ((n.addressesOf e.1).map fun ip => ip.2.address)

def hostView (e : Nat × DeviceRow) : DeviceView where
  name := e.2.name
  role := ((e.2.role.bind n.roleRecord).bind (·.slug)).filter (· ≠ "")
  interfaces := .ok ((n.interfacesOf e.1).map n.rowView)

/-- The client answers from the tables: the interfaces of a device, -/
theorem interfacesFilter_eq (device : Nat) :
    n.client.interfacesFilter device = .ok ((n.interfacesOf device).map n.interfaceRecord) := by
  unfold interfacesOf Table.matching
  simp only [client, Table.matching, Int.ofNat_inj]

/-- the addresses of an interface, -/
theorem ipAddressesFilter_eq (iface : Nat) :
    n.client.ipAddressesFilter iface = .ok ((n.addressesOf iface).map fun e => ⟨e.2.address⟩) := by
  have hmap : ∀ id : Option Nat, id.map Int.ofNat = some (iface : Int) ↔ id = some iface := by
    intro id
    cases id with
    | none => simp
    | some id => simp only [Option.map_some, Option.some_inj, Int.ofNat_eq_natCast, Int.ofNat_inj]
  unfold addressesOf Table.matching
  simp only [client, Table.matching, hmap]

/-- and so what is seen of an interface is what its rows say. -/
theorem interfaceView_eq (e : Nat × InterfaceRow) :
    n.client.interfaceView (n.interfaceRecord e) = n.rowView e := by
  unfold Client.interfaceView rowView
  rw [show (n.interfaceRecord e).id = (e.1 : Int) from rfl, ipAddressesFilter_eq]
  simp [interfaceRecord, Except.map]

variable {n}

/-- No device of the tag is no host. -/
theorem view_of_none (h : n.under .device (.text assetTag) = []) : n.client.view assetTag = .ok none := by
  have hget : n.client.devicesGet assetTag = .ok none := by simp [client, h]
  simp [Client.view, hget, Except.map]

/-- What the loader sees of a host. -/
theorem view_of_single {e : Nat × DeviceRow} (h : n.under .device (.text assetTag) = [e]) :
    n.client.view assetTag = .ok (some (n.hostView e)) := by
  have hget : n.client.devicesGet assetTag =
      .ok (some { id := e.1, name := e.2.name, role := e.2.role.bind n.roleRecord }) := by
    simp [client, h]
  have hlisting : n.client.interfacesFilter (e.1 : Int) = _ := n.interfacesFilter_eq e.1
  have hrows : (n.client.interfaceView ∘ n.interfaceRecord) = n.rowView := funext n.interfaceView_eq
  unfold Client.view Client.deviceView hostView roleSlug
  rw [hget]
  simp only [Except.map, Option.map_some, hlisting, List.map_map, hrows]

/-- Several devices of one tag are an error of the lookup. -/
theorem view_of_many {e e' : Nat × DeviceRow} {es : List (Nat × DeviceRow)}
    (h : n.under .device (.text assetTag) = e :: e' :: es) :
    n.client.view assetTag = .error "get() returned more than one result." := by
  have hget : n.client.devicesGet assetTag = .error "get() returned more than one result." := by
    simp [client, h]
  simp [Client.view, hget, Except.map]

/-- What the objects of the host refer to exists. -/
structure Linked (n : NetboxState) (assetTag : String) : Prop where
  role : ∀ d ∈ n.under .device (.text assetTag), ∀ id, d.2.role = some id →
    ∃ row, (n.table .deviceRole).find id = some row
  untaggedVlan : ∀ d ∈ n.under .device (.text assetTag), ∀ e ∈ n.interfacesOf d.1, ∀ id,
    e.2.untaggedVlan = some id →
    ∃ row, (n.table .vlan).find id = some row
  primaryMac : ∀ d ∈ n.under .device (.text assetTag), ∀ e ∈ n.interfacesOf d.1, ∀ id,
    e.2.refs .primaryMacAddress = some id → ∃ row, (n.table .macAddress).find id = some row

end NetboxState

/-- The interfaces of a device are those that name it. -/
theorem mem_interfacesOf {e : Nat × InterfaceRow} :
    e ∈ n.interfacesOf device ↔ e ∈ (n.table .interface).rows ∧ e.2.device = device := by
  unfold NetboxState.interfacesOf
  rw [Table.mem_matching, decide_eq_true_iff]

/-! ## What a step leaves alone -/

/-- None of the fixtures is of this host. -/
def Foreign (fixtures : List HostFixture) (assetTag : String) : Prop :=
  ∀ fx ∈ fixtures, fx.assetTag ≠ assetTag

/-- All references of a fixture are its own host's. -/
theorem assetTag_of_mem_references {w : Reference} (h : w ∈ references fx) : w.assetTag = fx.assetTag := by
  rcases mem_references.mp h with ⟨spec, -, hw⟩ | ⟨spec, -, hw⟩
  · rcases List.mem_append.mp hw with hw | hw
    · obtain ⟨member, -, rfl⟩ := mem_memberReferences.mp hw
      rfl
    · obtain ⟨parent, -, rfl⟩ := mem_parentReferences.mp hw
      rfl
  · obtain ⟨mac, -, rfl⟩ := mem_macReferences.mp hw
    rfl

/-- The row of an interface has the device its key has. -/
theorem device_of_idAt {name : String} {e : Nat × InterfaceRow} (he : e ∈ (n.table .interface).rows)
    (h : IdAt n .interface (.iface device name) e.1) : e.2.device = device := by
  have hkey := (mem_of_under (h.under he)).2
  exact (Key.iface.inj (Option.some.inj hkey)).1

/-- An interface of a device a fixture asks for is of no other. -/
theorem Foreign.not_idAt {e : Nat × InterfaceRow} {device' : Nat} {name : String}
    (hforeign : Foreign fixtures assetTag)
    (hfx : fx ∈ fixtures) (hdevice : IdAt n .device (.text assetTag) device) (he : e ∈ n.interfacesOf device)
    (hdevice' : IdAt n .device (.text fx.assetTag) device') :
    ¬ IdAt n .interface (.iface device' name) e.1 := by
  intro hat
  obtain ⟨hmem, hof⟩ := mem_interfacesOf.mp he
  obtain rfl : device = device' := hof.symm.trans (device_of_idAt hmem hat)
  exact hforeign fx hfx (Key.text.inj (hdevice'.key_unique hdevice))

section Step

variable (hforeign : Foreign fixtures assetTag) (h : Step fixtures n n')

include hforeign h

/-- A step of another host makes no device of this tag, -/
theorem Step.under_device : n'.under .device (.text assetTag) = n.under .device (.text assetTag) := by
  cases h with
  | @create k key payload hnew hkey herase hprovided =>
    refine under_create_of_key_ne hkey ?_
    rintro ⟨rfl, rfl⟩
    obtain ⟨fx, hfx, htag, -⟩ := hprovided
    obtain ⟨tag, htag', heq⟩ := Option.map_eq_some_iff.mp hkey
    obtain rfl := Option.some.inj (htag.symm.trans htag')
    exact hforeign fx hfx (Key.text.inj heq)
  | assign hw hresolves => exact under_updateRef_of_ne (by decide)

variable (hdevice : IdAt n .device (.text assetTag) device)

include hdevice

/-- and no interface of this device. -/
theorem Step.interfacesOf : n'.interfacesOf device = n.interfacesOf device := by
  unfold NetboxState.interfacesOf
  cases h with
  | @create k key payload hnew hkey herase hprovided =>
    by_cases hk : k = .interface
    · subst hk
      obtain ⟨fx, hfx, spec, hspec, hat, -⟩ := hprovided
      have hne : payload.device ≠ device := by
        rintro rfl
        exact hforeign fx hfx (Key.text.inj (hat.key_unique hdevice))
      rw [table_create, Table.matching_insert, decide_eq_false hne]
      exact List.append_nil _
    · rw [table_create_of_ne (Ne.symm hk)]
  | @assign w device' iface target hw hresolves =>
    obtain ⟨fx, hfx, hw⟩ := List.mem_flatMap.mp hw
    have hdevice' := hresolves.deviceAt
    rw [assetTag_of_mem_references hw] at hdevice'
    have hsame : ∀ row : InterfaceRow, decide ((row.setRef w.field target).device = device) =
        decide (row.device = device) := fun row => rfl
    rw [table_updateRef, Table.matching_modify hsame]
    -- the interface that is written is of another device
    have hother : ∀ e ∈ (n.table .interface).matching (fun row => decide (row.device = device)),
        Table.modifyEntry iface (fun row => row.setRef w.field target) e = e := by
      intro e he
      refine Table.modifyEntry_of_ne _ ?_
      rintro rfl
      exact hforeign.not_idAt hfx hdevice he hdevice' hresolves.ifaceAt
    rw [List.map_congr_left hother]
    exact List.map_id' _

/-- An interface of the host gets no address. -/
theorem Step.addressesOf {e : Nat × InterfaceRow} (he : e ∈ n.interfacesOf device) :
    n'.addressesOf e.1 = n.addressesOf e.1 := by
  unfold NetboxState.addressesOf
  cases h with
  | @create k key payload hnew hkey herase hprovided =>
    by_cases hk : k = .ipAddress
    · subst hk
      obtain ⟨fx, hfx, spec, hspec, -, -, device', iface, hdevice', hiface, hassigned⟩ := hprovided
      have hne : ¬ (payload.assignedObjectType = some "dcim.interface" ∧
          payload.assignedObjectId = some e.1) := by
        rintro ⟨-, hid⟩
        obtain rfl := Option.some.inj (hassigned.symm.trans hid)
        exact hforeign.not_idAt hfx hdevice he hdevice' hiface
      rw [table_create, Table.matching_insert, decide_eq_false hne]
      exact List.append_nil _
    · rw [table_create_of_ne (Ne.symm hk)]
  | assign hw hresolves => rw [table_updateRef_of_ne (by decide)]

end Step

/-- A row that is no interface's stays. -/
theorem Step.find {row : Row k} (h : Step fixtures n n') (hk : k ≠ .interface)
    (hfind : (n.table k).find id = some row) : (n'.table k).find id = some row := by
  have hmem := Table.find_eq_some.mp hfind
  refine Table.find_eq_some.mpr ?_
  cases h with
  | @create k' key payload hnew hkey herase hprovided =>
    by_cases hsame : k = k'
    · subst hsame
      rw [table_create]
      exact Table.mem_insert.mpr (.inl hmem)
    · rwa [table_create_of_ne hsame]
  | assign hw hresolves => rwa [table_updateRef_of_ne hk]

/-! ## What is seen of the host -/

section Run

variable (hforeign : Foreign fixtures assetTag) (h : Steps fixtures n n')

include hforeign h

/-- A run of such steps makes no device of the tag, either, -/
theorem Steps.under_device : n'.under .device (.text assetTag) = n.under .device (.text assetTag) := by
  induction h with
  | refl => rfl
  | tail _ hstep ih => exact (hstep.under_device hforeign).trans ih

omit hforeign in
/-- which keeps each other row under its id, -/
theorem Steps.find {row : Row k} (hk : k ≠ .interface) (hfind : (n.table k).find id = some row) :
    (n'.table k).find id = some row := by
  induction h with
  | refl => exact hfind
  | tail _ hstep ih => exact hstep.find hk ih

variable (hdevice : IdAt n .device (.text assetTag) device)

include hdevice

/-- each interface -/
theorem Steps.interfacesOf : n'.interfacesOf device = n.interfacesOf device := by
  induction h with
  | refl => rfl
  | tail hsteps hstep ih => exact (hstep.interfacesOf hforeign (hdevice.grows (Steps.grows hsteps))).trans ih

/-- and each address of one. -/
theorem Steps.addressesOf {e : Nat × InterfaceRow} (he : e ∈ n.interfacesOf device) :
    n'.addressesOf e.1 = n.addressesOf e.1 := by
  induction h with
  | refl => rfl
  | tail hsteps hstep ih =>
    have hdevice' := hdevice.grows (Steps.grows hsteps)
    rw [← Steps.interfacesOf hforeign hsteps hdevice] at he
    exact (hstep.addressesOf hforeign hdevice' he).trans ih

end Run

/-- **A host none of the fixtures is of is seen as before.** -/
theorem Steps.view (hforeign : Foreign fixtures assetTag) (hlinked : n.Linked assetTag)
    (h : Steps fixtures n n') : n'.client.view assetTag = n.client.view assetTag := by
  have hunder' : n'.under .device (.text assetTag) = _ := Steps.under_device hforeign h
  match hunder : n.under .device (.text assetTag) with
  | []          => rw [NetboxState.view_of_none hunder, NetboxState.view_of_none (hunder'.trans hunder)]
  | _ :: _ :: _ => rw [NetboxState.view_of_many hunder, NetboxState.view_of_many (hunder'.trans hunder)]
  | [d]         =>
    have hd : d ∈ n.under .device (.text assetTag) := hunder ▸ List.mem_singleton_self d
    have hdevice : IdAt n .device (.text assetTag) d.1 := ⟨d.2, hunder⟩
    have hrole : d.2.role.bind n'.roleRecord = d.2.role.bind n.roleRecord := by
      cases hrole : d.2.role with
      | none => rfl
      | some id =>
        obtain ⟨row, hfind⟩ := hlinked.role d hd id hrole
        simp only [Option.bind_some, NetboxState.roleRecord, hfind, Steps.find h (by decide) hfind]
    have hrows : ∀ e ∈ n.interfacesOf d.1, n'.rowView e = n.rowView e := by
      intro e he
      have hmac : (e.2.refs .primaryMacAddress).bind n'.macRecord =
          (e.2.refs .primaryMacAddress).bind n.macRecord := by
        cases hmac : e.2.refs .primaryMacAddress with
        | none => rfl
        | some id =>
          obtain ⟨row, hfind⟩ := hlinked.primaryMac d hd e he id hmac
          simp only [Option.bind_some, NetboxState.macRecord, hfind, Steps.find h (by decide) hfind]
      have hvlan : e.2.untaggedVlan.bind n'.vlanRecord = e.2.untaggedVlan.bind n.vlanRecord := by
        cases hvlan : e.2.untaggedVlan with
        | none => rfl
        | some id =>
          obtain ⟨row, hfind⟩ := hlinked.untaggedVlan d hd e he id hvlan
          simp only [Option.bind_some, NetboxState.vlanRecord, hfind, Steps.find h (by decide) hfind]
      unfold NetboxState.rowView
      rw [hmac, hvlan, Steps.addressesOf hforeign h hdevice he]
    have hhost : n'.hostView d = n.hostView d := by
      unfold NetboxState.hostView
      rw [hrole, Steps.interfacesOf hforeign h hdevice, List.map_congr_left hrows]
    rw [NetboxState.view_of_single hunder, NetboxState.view_of_single (hunder'.trans hunder), hhost]

/-- **Populating hosts leaves every other host as it was served.** -/
theorem populate_isolated {refreshes : Bool} {report : PopulateReport} (hforeign : Foreign fixtures assetTag)
    (hlinked : n.Linked assetTag) (h : populate refreshes fixtures n = .ok (report, n')) (kind : FileKind) :
    handleRender n'.client assetTag kind = handleRender n.client assetTag kind := by
  unfold handleRender
  rw [loadHostIntent_of_view (Steps.view hforeign hlinked (populate_runs h).1)]

/-! ### A host beside another -/

/-- In a Netbox that mirrors fixtures, nothing refers to what does not exist. -/
theorem linked_of_mirrors (h : Mirrors fixtures n) : n.Linked assetTag := by
  constructor
  case role =>
    intro d hd id hid
    obtain ⟨hmem, -⟩ := Table.mem_matching.mp hd
    obtain ⟨fx, -, -, -, role, hrole, hat⟩ := h.provided .device d hmem
    obtain rfl := Option.some.inj (hrole.symm.trans hid)
    obtain ⟨row, hfind, -⟩ := find_of_idAt hat
    exact ⟨row, hfind⟩
  case untaggedVlan =>
    intro d _ e he id hid
    obtain ⟨fx, -, spec, -, -, -, -, -, hvlan⟩ := h.provided .interface e (mem_interfacesOf.mp he).1
    obtain ⟨site, vid, -, hat⟩ := hvlan id hid
    obtain ⟨row, hfind, -⟩ := find_of_idAt hat
    exact ⟨row, hfind⟩
  case primaryMac =>
    intro d _ e he id hid
    obtain ⟨w, -, hfield, device, hresolves⟩ := h.refs e (mem_interfacesOf.mp he).1 _ id hid
    have hat := hresolves.targetAt
    rw [hfield] at hat
    obtain ⟨row, hfind, -⟩ := find_of_idAt hat
    exact ⟨row, hfind⟩

/-- Another host of the site, with the VLANs, the role and the device type of the first. -/
def neighbourFixture : HostFixture :=
  { cpuFixture with
    assetTag := "SN-CPU-002"
    hostname := "k8s-cp-02.pod07.site03.internal"
    interfaces :=
      [{ name := "nsa", type := "200gbase-x-qsfp56", mac := some "aa:bb:cc:00:02:01", mtu := some 9000 },
       { name := "bond0", type := "lag", lagMembers := ["nsa"] },
       { name := "bond0.100", type := "virtual", parent := some "bond0", untaggedVlan := some 100,
         ip := some "10.42.10.12/24" }] }

theorem populate_isolated_cpu : ∃ report netbox report' netbox',
    populate false [cpuFixture] noObjects = .ok (report, netbox) ∧
    populate false [neighbourFixture] netbox = .ok (report', netbox') ∧
      (handleRender netbox.client cpuFixture.assetTag .networkConfig).status = 200 ∧
      handleRender netbox'.client cpuFixture.assetTag .networkConfig =
        handleRender netbox.client cpuFixture.assetTag .networkConfig := by
  have hstatus : ((populate false [cpuFixture] noObjects).toOption.bind fun p =>
      (populate false [neighbourFixture] p.2).toOption.map fun _ =>
        decide ((handleRender p.2.client cpuFixture.assetTag .networkConfig).status = 200)) = some true := by
    decide +kernel
  obtain ⟨report, netbox, hfirst⟩ := cpuFixture_populates
  rw [hfirst] at hstatus
  change (populate false [neighbourFixture] netbox).toOption.map (fun _ =>
    decide ((handleRender netbox.client cpuFixture.assetTag .networkConfig).status = 200)) =
      some true at hstatus
  obtain ⟨⟨report', netbox'⟩, hsecond, hcheck⟩ := Traverse.exists_ok_of_check hstatus
  have hmirrors : Mirrors [cpuFixture] netbox :=
    Steps.mirrors (populate_runs hfirst).1 (mirrors_of_empty fun _ => rfl)
  exact ⟨report, netbox, report', netbox', hfirst, hsecond, of_decide_eq_true hcheck,
    populate_isolated (by simp [Foreign, neighbourFixture, cpuFixture])
      (linked_of_mirrors hmirrors) hsecond _⟩

end Fixtures
end HostConfig
