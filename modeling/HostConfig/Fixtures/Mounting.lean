import HostConfig.Fixtures.Accounting
import HostConfig.Fixtures.Assignments
import HostConfig.Fixtures.Isolation

/-!
# `Fixtures.Mounting` — a host that Netbox does not have yet

Where the device is new, so are its interfaces: all of them are created from the fixture's specs, in the
order of the fixture (`addInterfaces_payloads`). What refers to them later, or they refer to, is fixed by
the references, the MACs and the addresses of the fixture, and is what `Fixtures.Runs` says of any run. So
the loader sees of the host what the fixture says and nothing else (`view_of_applyOne`): no row that was
there before shows through, except those that are looked up by their key and pass their check.
-/

namespace HostConfig
namespace Fixtures

open Netbox StateRuns Relation

variable {fixtures : List HostFixture} {fx : HostFixture} {spec : InterfaceSpec} {n n' : NetboxState}
  {s t : PopulateState} {k : Kind} {key : Key} {device : Nat} {refreshes : Bool}

/-! ## What a fixture says of its host -/

namespace HostFixture

/-- The VLAN the fixture lists under an id. -/
def vlanRecord (fx : HostFixture) (vid : Int) : Option VlanRecord :=
  (fx.vlans.find? fun vlan => vlan.vid = vid).map fun vlan => ⟨vlan.vid, vlan.name⟩

def interfaceRecord (fx : HostFixture) (id : Nat) (spec : InterfaceSpec) : InterfaceRecord where
  id := id
  name := spec.name
  mtu := nonzero spec.mtu
  primaryMacAddress := (truthy spec.mac).map fun mac => ⟨some mac, mac⟩
  untaggedVlan := (nonzero spec.untaggedVlan).bind fx.vlanRecord
  customFields := some spec.customFields

/-- The Netbox that has the fixture's host, as the fixture says it is, and nothing else. -/
def client (fx : HostFixture) : Client where
  devicesGet assetTag :=
    .ok (if assetTag = fx.assetTag then some ⟨0, some fx.hostname, some ⟨some fx.deviceRole⟩⟩ else none)
  interfacesFilter _ := .ok (fx.interfaces.zipIdx.map fun e => fx.interfaceRecord e.2 e.1)
  ipAddressesFilter id := .ok ((fx.interfaces[id.toNat]?.bind fun spec => truthy spec.ip).toList.map fun ip =>
    ⟨ip⟩)

def specView (fx : HostFixture) (spec : InterfaceSpec) : InterfaceView where
  name := spec.name
  mtu := nonzero spec.mtu
  mac := truthy spec.mac
  untaggedVlan := (nonzero spec.untaggedVlan).bind fx.vlanRecord
  customFields := spec.customFields
  addresses := .ok (truthy spec.ip).toList

def hostView (fx : HostFixture) : DeviceView where
  name := some fx.hostname
  role := (some fx.deviceRole).filter (· ≠ "")
  interfaces := .ok (fx.interfaces.map fx.specView)

/-- The client of a fixture alone shows what its specification says. -/
theorem interfaceView_eq {id : Nat} (h : fx.interfaces[id]? = some spec) :
    fx.client.interfaceView (fx.interfaceRecord id spec) = fx.specView spec := by
  unfold Client.interfaceView specView
  have haddresses : fx.client.ipAddressesFilter (fx.interfaceRecord id spec).id =
      .ok ((truthy spec.ip).toList.map fun ip => ⟨ip⟩) := by
    show Except.ok ((fx.interfaces[(id : Int).toNat]?.bind _).toList.map _) = _
    rw [Int.toNat_natCast, h]
    rfl
  rw [haddresses]
  simp [interfaceRecord, Except.map, Function.comp_def, macText_self]

/-- What the loader sees of it. -/
theorem view_eq (fx : HostFixture) : fx.client.view fx.assetTag = .ok (some fx.hostView) := by
  have hrows : (fx.interfaces.zipIdx.map fun e => fx.interfaceRecord e.2 e.1).map fx.client.interfaceView =
      fx.interfaces.map fx.specView := by
    rw [List.map_map]
    have hcongr : ∀ e ∈ fx.interfaces.zipIdx,
        (fx.client.interfaceView ∘ fun e => fx.interfaceRecord e.2 e.1) e = (fx.specView ∘ Prod.fst) e := by
      rintro ⟨spec, id⟩ he
      exact interfaceView_eq (List.mk_mem_zipIdx_iff_getElem?.mp he)
    rw [List.map_congr_left hcongr, ← List.map_map, List.zipIdx_map_fst]
  show Except.map _ (Except.ok (if fx.assetTag = fx.assetTag then _ else none)) = _
  rw [if_pos rfl]
  show Except.ok (some (fx.client.deviceView _)) = _
  unfold Client.deviceView hostView
  show Except.ok (some (DeviceView.mk (some fx.hostname) _ (Except.ok (List.map _ _)))) = _
  rw [hrows]
  rfl

end HostFixture

/-! ## New rows -/

/-- Interfaces are of devices, and addresses of interfaces, whose ids were given out. -/
structure NetboxState.Grounded (n : NetboxState) : Prop where
  interface : ∀ e ∈ (n.table .interface).rows, e.2.device < (n.table .device).next
  address : ∀ e ∈ (n.table .ipAddress).rows, e.2.assignedObjectType = some "dcim.interface" →
    ∀ id, e.2.assignedObjectId = some id → id < (n.table .interface).next

/-- Ids that are given are below the next one. -/
theorem IdAt.lt_next {id : Nat} (h : IdAt n k key id) : id < (n.table k).next := by
  obtain ⟨row, hunder⟩ := h
  exact (n.table k).lt_next (id, row) (mem_of_under hunder).1

/-- No step leaves a dangling id, -/
theorem Step.grounded (h : Step fixtures n n') (hn : n.Grounded) : n'.Grounded := by
  have hnext := fun k => (Steps.extends (.single h)).next k
  have hgrows := h.grows
  constructor
  case interface =>
    intro e he
    refine Nat.lt_of_lt_of_le ?_ (hnext .device)
    cases h with
    | @create k key payload hnew hkey herase hprovided =>
      by_cases hk : Kind.interface = k
      · subst hk
        rw [table_create] at he
        rcases Table.mem_insert.mp he with he | rfl
        · exact hn.interface e he
        · obtain ⟨fx, -, spec, -, hat, -⟩ := hprovided
          exact hat.lt_next
      · rw [table_create_of_ne hk] at he
        exact hn.interface e he
    | @assign w device iface target hw hresolves =>
      rw [table_updateRef] at he
      obtain ⟨e', he', rfl⟩ := Table.mem_modify.mp he
      unfold Table.modifyEntry
      split <;> exact hn.interface e' he'
  case address =>
    intro e he htype id hid
    refine Nat.lt_of_lt_of_le ?_ (Nat.le_refl _)
    rcases h.old_or_provided (by decide) e he with hold | hprovided
    · exact Nat.lt_of_lt_of_le (hn.address e hold htype id hid) (hnext .interface)
    · obtain ⟨fx, -, spec, -, -, -, device, iface, -, hat, hassigned⟩ := hprovided
      obtain rfl := Option.some.inj (hassigned.symm.trans hid)
      exact hat.lt_next

/-- and no run does. -/
theorem Steps.grounded (h : Steps fixtures n n') (hn : n.Grounded) : n'.Grounded := by
  induction h with
  | refl => exact hn
  | tail _ hstep ih => exact hstep.grounded ih

/-- The references of an interface that was not there before are listed ones. -/
theorem Steps.refs (h : Steps fixtures n n') {e : Nat × InterfaceRow} (he : e ∈ (n'.table .interface).rows)
    (hnew : (n.table .interface).next ≤ e.1) {field : RefField} {target : Nat}
    (href : e.2.refs field = some target) :
    ∃ w ∈ listed fixtures, w.field = field ∧ ∃ device, Resolves n' w device e.1 target := by
  induction h generalizing e with
  | refl =>
    have hlt := (n.table .interface).lt_next e he
    omega
  | @tail u v _ hstep ih =>
    have hgrows := hstep.grows
    have hlater : ∀ e ∈ (u.table .interface).rows, (n.table .interface).next ≤ e.1 →
        e.2.refs field = some target →
        ∃ w ∈ listed fixtures, w.field = field ∧ ∃ device, Resolves v w device e.1 target := by
      intro e he hnew href
      obtain ⟨w, hw, hfield, device, hresolves⟩ := ih he hnew href
      exact ⟨w, hw, hfield, device, hresolves.grows hgrows⟩
    cases hstep with
    | @create k key payload hfree hkey herase hprovided =>
      by_cases hk : Kind.interface = k
      · subst hk
        rw [table_create] at he
        rcases Table.mem_insert.mp he with he | rfl
        · exact hlater e he hnew href
        · -- what is created has no reference
          rw [refs_of_erase herase field] at href
          cases href
      · rw [table_create_of_ne hk] at he
        exact hlater e he hnew href
    | @assign w device iface target' hw hresolves =>
      rw [table_updateRef] at he
      obtain ⟨e', he', rfl⟩ := Table.mem_modify.mp he
      by_cases hid : e'.1 = iface
      · subst hid
        rw [Table.modifyEntry_self] at hnew href ⊢
        by_cases hfield : field = w.field
        · subst hfield
          obtain rfl := Option.some.inj ((setRef_self e'.2 w.field target').symm.trans href)
          exact ⟨w, hw, rfl, device, hresolves.grows hgrows⟩
        · exact hlater e' he' hnew ((setRef_of_ne e'.2 target' hfield).symm.trans href)
      · rw [Table.modifyEntry_of_ne _ hid] at hnew href ⊢
        exact hlater e' he' hnew href

/-! ## What is created -/

/-- The interfaces of a device as they were created. -/
def NetboxState.payloadsOf (n : NetboxState) (device : Nat) : List InterfaceRow :=
  (n.interfacesOf device).map fun e => erase .interface e.2

/-- The payloads of a device's interfaces change with an interface alone: -/
theorem payloadsOf_create_of_ne {payload : Row k} (hk : k ≠ .interface) :
    (n.create k payload).payloadsOf device = n.payloadsOf device := by
  unfold NetboxState.payloadsOf NetboxState.interfacesOf
  rw [table_create_of_ne (Ne.symm hk)]

/-- a new one comes last, -/
theorem payloadsOf_create {payload : InterfaceRow} (hdevice : payload.device = device)
    (herase : erase .interface payload = payload) :
    (n.create .interface payload).payloadsOf device = n.payloadsOf device ++ [payload] := by
  unfold NetboxState.payloadsOf NetboxState.interfacesOf
  rw [table_create, Table.matching_insert, decide_eq_true hdevice, if_pos rfl, List.map_append,
    List.map_singleton, herase]

/-- and a written reference is no part of them. -/
theorem payloadsOf_updateRef {iface : Nat} {field : RefField} {target : Nat} :
    (n.updateRef iface field target).payloadsOf device = n.payloadsOf device := by
  have hsame : ∀ row : InterfaceRow, decide ((row.setRef field target).device = device) = decide
      (row.device = device) :=
    fun row => rfl
  unfold NetboxState.payloadsOf NetboxState.interfacesOf
  rw [table_updateRef, Table.matching_modify hsame, List.map_map]
  refine List.map_congr_left ?_
  intro e _
  show erase .interface (Table.modifyEntry iface _ e).2 = erase .interface e.2
  unfold Table.modifyEntry
  split <;> rfl

section Goes

variable {R : PopulateState → PopulateState → Prop} [IsPreorder PopulateState R]

/-- Pass 3 creates MACs only, -/
theorem goes_assignMac_of
    (hensure : ∀ {key} check payload, Goes R (ensure .macAddress key check payload))
    (hset : ∀ field iface target, Goes R (setRef refreshes field iface target)) (objects : Objects)
    (spec : InterfaceSpec) : Goes R (assignMac refreshes objects spec) := by
  unfold assignMac
  cases truthy spec.mac with
  | none => exact Goes.pure objects
  | some mac =>
    refine Goes.bind (goes_objectOf objects spec.name) ?_
    intro iface
    refine Goes.bind (hensure _ _) ?_
    intro macAddress
    exact goes_setRefOf hset .primaryMacAddress objects spec.name macAddress.1

/-- and pass 4 addresses. -/
theorem goes_assignIp_of (hensure : ∀ {key} check payload, Goes R (ensure .ipAddress key check payload))
    (objects : Objects) (spec : InterfaceSpec) : Goes R (assignIp objects spec) := by
  unfold assignIp
  cases truthy spec.ip with
  | none => exact Goes.pure objects
  | some ip =>
    refine Goes.bind (goes_objectOf objects spec.name) ?_
    intro iface
    refine Goes.bind (hensure _ _) ?_
    intro _
    exact Goes.pure objects

end Goes

/-- No device and no interface is created. -/
def Quiet (s t : PopulateState) : Prop :=
  t.netbox.table .device = s.netbox.table .device ∧ ∀ device,
    t.netbox.payloadsOf device = s.netbox.payloadsOf device

instance : IsPreorder PopulateState Quiet where
  refl _ := ⟨rfl, fun _ => rfl⟩
  trans _ _ _ h h' := ⟨h'.1.trans h.1, fun device => (h'.2 device).trans (h.2 device)⟩

/-- What is no device and no interface is quiet, -/
theorem ensure_quiet (hdevice : k ≠ .device) (hinterface : k ≠ .interface)
    (check : Nat × Row k → Except FixtureExc Unit) (payload : Row k) :
    Goes Quiet (ensure k key check payload) := by
  intro s found t hrun
  unfold ensure at hrun
  split at hrun
  · obtain ⟨-, rfl⟩ := Prod.mk.inj (Except.ok.inj hrun)
    exact ⟨table_create_of_ne (Ne.symm hdevice), fun _ => payloadsOf_create_of_ne hinterface⟩
  · split at hrun
    · cases hrun
    · obtain ⟨-, rfl⟩ := Prod.mk.inj (Except.ok.inj hrun)
      exact ⟨rfl, fun _ => rfl⟩
  · cases hrun

/-- and so is a reference, -/
theorem setRef_quiet (field : RefField) (iface : Iface) (target : Nat) :
    Goes Quiet (setRef refreshes field iface target) := by
  intro s iface' t hrun
  unfold setRef at hrun
  split at hrun
  · obtain ⟨-, rfl⟩ := Prod.mk.inj (Except.ok.inj hrun)
    exact ⟨rfl, fun _ => rfl⟩
  · obtain ⟨-, rfl⟩ := Prod.mk.inj (Except.ok.inj hrun)
    exact ⟨table_updateRef_of_ne (by decide), fun _ => payloadsOf_updateRef⟩

/-- hence a MAC, -/
theorem assignMac_quiet (objects : Objects) (spec : InterfaceSpec) :
    Goes Quiet (assignMac refreshes objects spec) :=
  goes_assignMac_of (ensure_quiet (by decide) (by decide)) setRef_quiet objects spec

/-- an address -/
theorem assignIp_quiet (objects : Objects) (spec : InterfaceSpec) : Goes Quiet (assignIp objects spec) :=
  goes_assignIp_of (ensure_quiet (by decide) (by decide)) objects spec

/-- and a VLAN. -/
theorem addVlan_quiet (site : Nat) (vlanByVid : Int → Option Nat) (vlan : VlanSpec) :
    Goes Quiet (addVlan site vlanByVid vlan) := by
  refine Goes.bind (ensure_quiet (by decide) (by decide) _ _) ?_
  intro found
  exact Goes.pure _

/-- A key that no interface of the device was created with has no object. -/
theorem under_interface_of_payloads {vlanByVid : Int → Option Nat} {specs : List InterfaceSpec}
    {name : String} (h : n.payloadsOf device = specs.map fun spec => interfacePayload spec device vlanByVid)
    (hname : name ∉ specs.map (·.name)) : n.under .interface (.iface device name) = [] := by
  refine List.eq_nil_iff_forall_not_mem.mpr ?_
  intro e he
  obtain ⟨hmem, hkey⟩ := Table.mem_matching.mp he
  obtain ⟨hdevice, hname'⟩ := Key.iface.inj (Option.some.inj (of_decide_eq_true hkey))
  have hpayload : erase .interface e.2 ∈ n.payloadsOf device :=
    List.mem_map_of_mem (mem_interfacesOf.mpr ⟨hmem, hdevice⟩)
  rw [h] at hpayload
  obtain ⟨spec, hspec, heq⟩ := List.mem_map.mp hpayload
  refine hname (List.mem_map.mpr ⟨spec, hspec, ?_⟩)
  exact (congrArg InterfaceRow.name heq).trans hname'

/-- A new interface is the last of its device, as the fixture wants it. -/
theorem addInterface_payloads {vlanByVid : Int → Option Nat} {objects objects' : Objects}
    (hnew : s.netbox.under .interface (.iface device spec.name) = [])
    (h : addInterface device vlanByVid objects spec s = .ok (objects', t)) :
    t.netbox.payloadsOf device = s.netbox.payloadsOf device ++ [interfacePayload spec device vlanByVid] := by
  unfold addInterface ensureInterface at h
  obtain ⟨iface, u, hensure, hpure⟩ := bind_eq_ok.mp h
  obtain ⟨-, rfl⟩ := pure_eq_ok.mp hpure
  obtain ⟨found, v, hcreate, hpure'⟩ := bind_eq_ok.mp hensure
  obtain ⟨-, rfl⟩ := pure_eq_ok.mp hpure'
  unfold ensure at hcreate
  rw [hnew] at hcreate
  obtain ⟨-, rfl⟩ := Prod.mk.inj (Except.ok.inj hcreate)
  exact payloadsOf_create rfl rfl

/-- **Pass 1 creates one interface for each spec, in order.** -/
theorem addInterfaces_payloads {vlanByVid : Int → Option Nat} {done todo : List InterfaceSpec}
    {objects objects' : Objects} (hnames : ((done ++ todo).map (·.name)).Nodup)
    (hdone : s.netbox.payloadsOf device = done.map fun spec => interfacePayload spec device vlanByVid)
    (h : todo.foldlM (addInterface device vlanByVid) objects s = .ok (objects', t)) :
    t.netbox.payloadsOf device = (done ++ todo).map fun spec => interfacePayload spec device vlanByVid := by
  induction todo generalizing done objects s with
  | nil =>
    obtain ⟨-, rfl⟩ := pure_eq_ok.mp h
    rw [List.append_nil, hdone]
  | cons spec todo ih =>
    rw [List.foldlM_cons] at h
    obtain ⟨objects₁, u, hfirst, hrest⟩ := bind_eq_ok.mp h
    have hspec : spec.name ∉ done.map (·.name) := by
      rw [List.map_append, List.nodup_append, List.map_cons] at hnames
      intro hmem
      exact hnames.2.2 _ hmem _ List.mem_cons_self rfl
    have hfirst := addInterface_payloads (under_interface_of_payloads hdone hspec) hfirst
    rw [List.append_cons] at hnames ⊢
    exact ih hnames (by rw [hfirst, hdone, List.map_append, List.map_singleton]) hrest

/-- `vlan_by_vid` has the VLANs the fixture lists. -/
theorem addVlans_dom {site : Nat} {specs : List VlanSpec} {vlanByVid vlanByVid' : Int → Option Nat}
    (h : specs.foldlM (addVlan site) vlanByVid s = .ok (vlanByVid', t)) (vid : Int) :
    vlanByVid' vid = none ↔ vlanByVid vid = none ∧ vid ∉ specs.map (·.vid) := by
  induction specs generalizing vlanByVid s with
  | nil =>
    obtain ⟨rfl, -⟩ := pure_eq_ok.mp h
    simp
  | cons vlan specs ih =>
    rw [List.foldlM_cons] at h
    obtain ⟨vlanByVid₁, u, hfirst, hrest⟩ := bind_eq_ok.mp h
    obtain ⟨found, v, -, hpure⟩ := bind_eq_ok.mp hfirst
    obtain ⟨rfl, -⟩ := pure_eq_ok.mp hpure
    rw [ih hrest]
    by_cases hvid : vid = vlan.vid
    · simp [hvid]
    · simp [hvid]

/-- The entries of `vlan_by_vid` are the VLANs as the fixture lists them. -/
theorem vlanRecord_of_applied {site : Nat} {vlanByVid : Int → Option Nat} (hat : VlansAt n site vlanByVid)
    (hdom : ∀ vid, vlanByVid vid = none ↔ vid ∉ fx.vlans.map (·.vid))
    (hpasses : ∀ vlan ∈ fx.vlans, Passes n .vlan (.vid site vlan.vid) (checkVlan vlan)) (vid : Int) :
    (vlanByVid vid).bind n.vlanRecord = fx.vlanRecord vid := by
  unfold HostFixture.vlanRecord
  cases hfind : fx.vlans.find? (fun vlan => decide (vlan.vid = vid)) with
  | none =>
    have hnot : vid ∉ fx.vlans.map (·.vid) := by
      intro hmem
      obtain ⟨vlan, hvlan, hvid⟩ := List.mem_map.mp hmem
      exact List.find?_eq_none.mp hfind vlan hvlan (decide_eq_true hvid)
    rw [(hdom vid).mpr hnot]
    rfl
  | some vlan =>
    have hvlan := List.mem_of_find?_eq_some hfind
    have hvid := List.find?_some hfind
    obtain rfl : vlan.vid = vid := of_decide_eq_true hvid
    cases hid : vlanByVid vlan.vid with
    | none => exact absurd (List.mem_map_of_mem hvlan) ((hdom vlan.vid).mp hid)
    | some id =>
      obtain ⟨found, hunder, hcheck⟩ := hpasses vlan hvlan
      obtain rfl := (hat vlan.vid id hid).unique ⟨found.2, hunder⟩
      obtain ⟨hmem, hkey⟩ := mem_of_under hunder
      obtain ⟨site', -, hkey⟩ := Option.map_eq_some_iff.mp hkey
      have hname : found.2.name = vlan.name := by
        by_contra hne
        unfold checkVlan at hcheck
        rw [if_pos hne] at hcheck
        cases hcheck
      have hfound : (n.table .vlan).find found.1 = some found.2 := Table.find_eq_some.mpr hmem
      rw [Option.bind_some, NetboxState.vlanRecord, hfound, Option.map_some, Option.map_some, hname,
        (Key.vid.inj hkey).2]

/-- The device was created for the fixture, with its interfaces. -/
structure Mounted (n : NetboxState) (fx : HostFixture) (d : Nat × DeviceRow)
    (vlanByVid : Int → Option Nat) : Prop where
  under : n.under .device (.text fx.assetTag) = [d]
  hostname : d.2.name = some fx.hostname
  role : ∃ role, d.2.role = some role ∧ IdAt n .deviceRole (.text fx.deviceRole) role
  vlans : ∀ vid, (vlanByVid vid).bind n.vlanRecord = fx.vlanRecord vid
  vlansAt : ∃ site, VlansAt n site vlanByVid
  payloads : n.payloadsOf d.1 = fx.interfaces.map fun spec => interfacePayload spec d.1 vlanByVid

/-- The loop over the VLANs collects them, each under its vid. -/
theorem addVlans_yields {site : Nat} :
    Yields (Along [fx]) s (fx.vlans.foldlM (addVlan site) fun _ => none) fun vlanByVid (t : PopulateState) =>
      VlansAt t.netbox site vlanByVid ∧
        ∀ vlan ∈ fx.vlans, Passes t.netbox .vlan (.vid site vlan.vid) (checkVlan vlan) := by
  refine Yields.foldlM (I := fun vlanByVid (t : PopulateState) => VlansAt t.netbox site vlanByVid) ?_ ?_ ?_
  · exact fun vlan _ u t hut h => h.grows hut.grows (by decide)
  · exact fun vlanByVid vlan hvlan u _ h => addVlan_yields (List.mem_singleton_self fx) hvlan h
  · intro vid id h
    cases h

/-- A device that is new is created. -/
theorem device_of_ensure {site deviceType role : Nat} {d : Nat × DeviceRow}
    (hnew : s.netbox.under .device (.text fx.assetTag) = [])
    (h : ensureDevice fx site deviceType role s = .ok (d, t)) :
    t.netbox.under .device (.text fx.assetTag) = [d] ∧ d.1 = (s.netbox.table .device).next ∧
      d.2.name = some fx.hostname ∧ d.2.role = some role ∧
        ∀ device, t.netbox.payloadsOf device = s.netbox.payloadsOf device := by
  unfold ensureDevice ensure at h
  rw [hnew] at h
  obtain ⟨rfl, rfl⟩ := Prod.mk.inj (Except.ok.inj h)
  exact ⟨under_create hnew rfl, rfl, rfl, rfl, fun _ => payloadsOf_create_of_ne (by decide)⟩

/-- **Applying a fixture whose device is new creates the device and all of its interfaces.** -/
theorem mounted_of_applyOne (hgrounded : s.netbox.Grounded)
    (hnew : s.netbox.under .device (.text fx.assetTag) = [])
    (hnames : (names fx).Nodup) (h : applyOne refreshes fx s = .ok ((), t)) :
    ∃ d vlanByVid, Mounted t.netbox fx d vlanByVid ∧ (s.netbox.table .device).next = d.1 := by
  have hfx := List.mem_singleton_self fx
  obtain ⟨site, s₁, hsite, h⟩ := bind_eq_ok.mp h
  obtain ⟨manufacturer, s₂, hmanufacturer, h⟩ := bind_eq_ok.mp h
  obtain ⟨deviceType, s₃, hdeviceType, h⟩ := bind_eq_ok.mp h
  obtain ⟨role, s₄, hrole, h⟩ := bind_eq_ok.mp h
  obtain ⟨vlanByVid, s₅, hvlans, h⟩ := bind_eq_ok.mp h
  obtain ⟨device, s₆, hdevice, h⟩ := bind_eq_ok.mp h
  obtain ⟨objects, s₇, hinterfaces, hpure⟩ := bind_eq_ok.mp h
  obtain ⟨-, rfl⟩ := pure_eq_ok.mp hpure
  -- nothing before the device touches devices or interfaces
  have hquiet : Quiet s s₅ := by
    refine trans_of Quiet (ensure_quiet (by decide) (by decide) _ _ _ _ _ hsite) ?_
    refine trans_of Quiet (ensure_quiet (by decide) (by decide) _ _ _ _ _ hmanufacturer) ?_
    refine trans_of Quiet (ensure_quiet (by decide) (by decide) _ _ _ _ _ hdeviceType) ?_
    refine trans_of Quiet (ensure_quiet (by decide) (by decide) _ _ _ _ _ hrole) ?_
    exact Goes.foldlM (addVlan_quiet site.1) _ _ _ _ _ hvlans
  obtain ⟨htable, hpayloads⟩ := hquiet
  -- the device is created
  have hnew₅ : s₅.netbox.under .device (.text fx.assetTag) = [] := by
    unfold NetboxState.under at hnew ⊢
    rw [htable, hnew]
  obtain ⟨hunder, hid, hname, hdeviceRole, hpayloads₆⟩ := device_of_ensure hnew₅ hdevice
  have hnone : s₅.netbox.payloadsOf device.1 = [] := by
    rw [hpayloads, hid, htable]
    refine List.map_eq_nil_iff.mpr (List.eq_nil_iff_forall_not_mem.mpr ?_)
    intro e he
    obtain ⟨hmem, hof⟩ := mem_interfacesOf.mp he
    have hlt := hgrounded.interface e hmem
    omega
  -- where its objects are, at the end
  obtain ⟨-, hroleAt⟩ := ensureDeviceRole_yields hfx role s₄ hrole
  obtain ⟨hs₅, hvlansAt, hpasses⟩ := addVlans_yields vlanByVid s₅ hvlans
  obtain ⟨hs₆, -⟩ := ensureDevice_yields hfx (hroleAt.grows hs₅.grows) device s₆ hdevice
  obtain ⟨hs₇, -⟩ := applyInterfaces_yields hfx ⟨device.2, hunder⟩ (hvlansAt.grows hs₆.grows)
      objects s₇ hinterfaces
  have hlater := (hs₆.trans hs₇).grows
  have hroleAt₇ := (hroleAt.grows hs₅.grows).grows hlater
  refine ⟨device, vlanByVid, ⟨under_grows hs₇.grows (by decide) hunder, hname,
    ⟨role.1, hdeviceRole, hroleAt₇⟩, ?_,
    ⟨site.1, hvlansAt.grows hlater⟩, ?_⟩, ?_⟩
  · refine vlanRecord_of_applied (hvlansAt.grows hlater) ?_ fun vlan hvlan =>
      (hpasses vlan hvlan).grows hlater (by decide)
    intro vid
    rw [addVlans_dom hvlans]
    exact and_iff_right rfl
  · obtain ⟨objects₁, u₁, hpass₁, hrest⟩ := bind_eq_ok.mp hinterfaces
    obtain ⟨objects₂, u₂, hpass₂, hrest⟩ := bind_eq_ok.mp hrest
    obtain ⟨objects₃, u₃, hpass₃, hpass₄⟩ := bind_eq_ok.mp hrest
    have hafter : Quiet u₁ s₇ := by
      refine trans_of Quiet (Goes.foldlM (goes_wireRelationships setRef_quiet) _ _ _ _ _ hpass₂) ?_
      refine trans_of Quiet (Goes.foldlM assignMac_quiet _ _ _ _ _ hpass₃) ?_
      exact Goes.foldlM assignIp_quiet _ _ _ _ _ hpass₄
    rw [hafter.2, ← List.nil_append fx.interfaces]
    refine addInterfaces_payloads hnames ?_ hpass₁
    rw [hpayloads₆, hnone, List.map_nil]
  · rw [hid, htable]

/-! ## What is seen of it -/

/-- Names that are distinct give every interface one MAC. -/
theorem uncontested_mac (hnames : (names fx).Nodup) (hspec : spec ∈ fx.interfaces) {w : Reference}
    (hw : w ∈ macReferences fx spec) : Uncontested [fx] w := by
  intro v hv hslot
  obtain ⟨fx', hfx', hmem⟩ := List.mem_flatMap.mp hv
  obtain rfl := List.mem_singleton.mp hfx'
  obtain ⟨mac, hmac, rfl⟩ := mem_macReferences.mp hw
  obtain ⟨hfield, hname⟩ := Prod.mk.inj (Prod.mk.inj hslot).2
  obtain ⟨spec', hspec', hmem⟩ := mem_macReferences_of_field hmem hfield
  obtain ⟨mac', hmac', rfl⟩ := mem_macReferences.mp hmem
  obtain rfl := spec_unique hnames hspec' hspec hname
  exact Option.some.inj (hmac'.symm.trans hmac)

/-- The addresses of the fixture that Netbox has are interfaces'. -/
def AddressesOfInterfaces (n : NetboxState) (fx : HostFixture) : Prop :=
  ∀ spec ∈ fx.interfaces, ∀ ip, truthy spec.ip = some ip → ∀ found, n.under .ipAddress (.text ip) = [found] →
    found.2.assignedObjectType = some "dcim.interface"

section View

variable {d : Nat × DeviceRow} {vlanByVid : Int → Option Nat} (hsteps : Steps [fx] n n')
  (hgrounded : n.Grounded) (hmounted : Mounted n' fx d vlanByVid) (hd : (n.table .device).next = d.1)

include hsteps hgrounded hd in
/-- The interfaces of the device are new, too. -/
theorem next_le_of_mem {e : Nat × InterfaceRow} (he : e ∈ n'.interfacesOf d.1) :
    (n.table .interface).next ≤ e.1 := by
  obtain ⟨hmem, hof⟩ := mem_interfacesOf.mp he
  rcases (Steps.extends hsteps).rows .interface e hmem with ⟨row, hrow, hkey⟩ | hnew
  · have hdevice : row.device = e.2.device := (Key.iface.inj (Option.some.inj hkey)).1
    have hlt : row.device < (n.table .device).next := hgrounded.interface (e.1, row) hrow
    omega
  · exact hnew

variable (happlied : Applied n' fx) {e : Nat × InterfaceRow} (he : e ∈ n'.interfacesOf d.1)
  (hspec : spec ∈ fx.interfaces) (hpayload : erase .interface e.2 = interfacePayload spec d.1 vlanByVid)

include hmounted happlied in
/-- Where the host is mounted, its interfaces are applied, -/
theorem interfacesApplied_of_mounted : InterfacesApplied n' fx d.1 := by
  obtain ⟨found, hunder, -, hinterfaces⟩ := happlied.device
  obtain rfl := List.singleton_inj.mp (hunder.symm.trans hmounted.under)
  exact hinterfaces

include hmounted happlied he hspec hpayload

/-- each under its name. -/
theorem under_of_payload : n'.under .interface (.iface d.1 spec.name) = [e] := by
  obtain ⟨hmem, hof⟩ := mem_interfacesOf.mp he
  have hname : e.2.name = spec.name := congrArg InterfaceRow.name hpayload
  obtain ⟨iface, row, hunder⟩ := (interfacesApplied_of_mounted hmounted happlied).interfaces spec hspec
  have hin : e ∈ n'.under .interface (.iface d.1 spec.name) := by
    refine Table.mem_matching.mpr ⟨hmem, decide_eq_true ?_⟩
    show some (Key.iface e.2.device e.2.name) = some (Key.iface d.1 spec.name)
    rw [hof, hname]
  rw [hunder, List.mem_singleton] at hin
  rw [hunder, hin]

variable (hnames : (names fx).Nodup)

include hsteps hgrounded hd hnames

/-- The primary MAC is the fixture's. -/
theorem mac_of_mounted (hmade : ∀ w ∈ references fx, Made [fx] n n' w) :
    ((e.2.refs .primaryMacAddress).bind n'.macRecord).map macText = truthy spec.mac := by
  have hunder := under_of_payload hmounted happlied he hspec hpayload
  have hdevice : IdAt n' .device (.text fx.assetTag) d.1 := ⟨d.2, hmounted.under⟩
  have hmem := (mem_interfacesOf.mp he).1
  cases hmac : truthy spec.mac with
  | none =>
    cases href : e.2.refs .primaryMacAddress with
    | none => rfl
    | some target =>
      -- a reference would be one that a spec of this name lists
      obtain ⟨w, hw, hfield, device, hresolves⟩ :=
        Steps.refs hsteps hmem (next_le_of_mem hsteps hgrounded hd he) href
      obtain ⟨fx', hfx', hlisted⟩ := List.mem_flatMap.mp hw
      obtain rfl := List.mem_singleton.mp hfx'
      obtain ⟨spec', hspec', hlisted⟩ := mem_macReferences_of_field hlisted hfield
      obtain ⟨mac, hmac', rfl⟩ := mem_macReferences.mp hlisted
      have hat : IdAt n' .interface (.iface d.1 spec.name) e.1 := ⟨e.2, hunder⟩
      have hname := (Key.iface.inj (hresolves.ifaceAt.key_unique hat)).2
      obtain rfl := spec_unique hnames hspec' hspec hname
      rw [hmac] at hmac'
      cases hmac'
  | some mac =>
    have hw : (⟨fx.assetTag, .primaryMacAddress, spec.name, mac⟩ : Reference) ∈ macReferences fx spec :=
      mem_macReferences.mpr ⟨mac, hmac, rfl⟩
    obtain ⟨u, -, hlater, hholds⟩ := hmade _ (mem_references_of_mac hspec hw)
    obtain ⟨device, iface, target, hresolves, row, hrow, href⟩ :=
      Steps.holds hlater (uncontested_mac hnames hspec hw) hholds
    obtain rfl := hresolves.deviceAt.unique hdevice
    obtain rfl := hresolves.ifaceAt.unique ⟨e.2, hunder⟩
    obtain rfl := Table.row_unique hrow hmem
    obtain ⟨macRow, hfind, -, hkey⟩ : ∃ row : MacRow, (n'.table .macAddress).find target = some row ∧
        (target, row) ∈ (n'.table .macAddress).rows ∧ some (Key.text row.macAddress) = some (Key.text mac) :=
      find_of_idAt hresolves.targetAt
    rw [href, Option.bind_some, NetboxState.macRecord, hfind, Option.map_some, Option.map_some, macText_self,
      Key.text.inj (Option.some.inj hkey)]

/-- So are the addresses. -/
theorem addresses_of_mounted (haddresses : AddressesOfInterfaces n fx) :
    (n'.addressesOf e.1).map (fun ip => ip.2.address) = (truthy spec.ip).toList := by
  have hunder := under_of_payload hmounted happlied he hspec hpayload
  have hat : IdAt n' .interface (.iface d.1 spec.name) e.1 := ⟨e.2, hunder⟩
  have hassigned : ∀ a, a ∈ n'.addressesOf e.1 ↔ a ∈ (n'.table .ipAddress).rows ∧
      a.2.assignedObjectType = some "dcim.interface" ∧ a.2.assignedObjectId = some e.1 := by
    intro a
    unfold NetboxState.addressesOf
    rw [Table.mem_matching, decide_eq_true_iff]
  -- what is assigned to the interface was asked for by its spec
  have hasked : ∀ a ∈ n'.addressesOf e.1, truthy spec.ip = some a.2.address := by
    intro a ha
    obtain ⟨hmem, htype, hid⟩ := (hassigned a).mp ha
    have hnotInterface : Kind.ipAddress ≠ .interface := by decide
    rcases Steps.old_or_provided hsteps hnotInterface a hmem with hold | hprovided
    · have hlt := hgrounded.address a hold htype e.1 hid
      have hle := next_le_of_mem hsteps hgrounded hd he
      omega
    · obtain ⟨fx', hfx', spec', hspec', hip, -, device, iface, -, hiface, hid'⟩ := hprovided
      obtain rfl := List.mem_singleton.mp hfx'
      obtain rfl := Option.some.inj (hid'.symm.trans hid)
      obtain rfl := spec_unique hnames hspec' hspec (Key.iface.inj (hiface.key_unique hat)).2
      exact hip
  cases hip : truthy spec.ip with
  | none =>
    have hnone : n'.addressesOf e.1 = [] := by
      refine List.eq_nil_iff_forall_not_mem.mpr ?_
      intro a ha
      have hsome := hasked a ha
      rw [hip] at hsome
      cases hsome
    rw [hnone]
    rfl
  | some ip =>
    obtain ⟨iface, hiface, found, hfound, hcheck⟩ :=
      (interfacesApplied_of_mounted hmounted happlied).ips spec hspec ip hip
    obtain rfl := hiface.unique hat
    have hid := id_of_checkIpAddress hcheck
    have htype : found.2.assignedObjectType = some "dcim.interface" := by
      rcases found_before_or_provided hsteps (by decide) hfound with hbefore | hprovided
      · exact haddresses spec hspec ip hip found hbefore
      · obtain ⟨-, -, -, -, -, htype, -⟩ := hprovided
        exact htype
    obtain ⟨hmem, hkey⟩ := mem_of_under hfound
    have haddress : found.2.address = ip := Key.text.inj (Option.some.inj hkey)
    have hone : n'.addressesOf e.1 = [found] := by
      refine Table.matching_eq_singleton ((hassigned found).mpr ⟨hmem, htype, hid⟩) ?_
      intro a ha
      have haddress' : a.2.address = ip := Option.some.inj ((hasked a ha).symm.trans hip)
      have hin : a ∈ n'.under .ipAddress (.text ip) := by
        refine Table.mem_matching.mpr ⟨((hassigned a).mp ha).1, decide_eq_true ?_⟩
        exact congrArg (fun address => some (Key.text address)) haddress'
      rwa [hfound, List.mem_singleton] at hin
    rw [hone, List.map_singleton, haddress]
    rfl

/-- An interface is seen as its spec. -/
theorem rowView_of_mounted (hmade : ∀ w ∈ references fx, Made [fx] n n' w)
    (haddresses : AddressesOfInterfaces n fx) : n'.rowView e = fx.specView spec := by
  have hname : e.2.name = spec.name := congrArg InterfaceRow.name hpayload
  have hmtu : e.2.mtu = nonzero spec.mtu := congrArg InterfaceRow.mtu hpayload
  have hfields : e.2.customFields = spec.customFields := congrArg InterfaceRow.customFields hpayload
  have hvlan : e.2.untaggedVlan = (nonzero spec.untaggedVlan).bind vlanByVid :=
    congrArg InterfaceRow.untaggedVlan hpayload
  unfold NetboxState.rowView HostFixture.specView
  rw [hname, hmtu, hfields, hvlan, Option.bind_assoc, funext hmounted.vlans,
    mac_of_mounted hsteps hgrounded hmounted hd happlied he hspec hpayload hnames hmade,
    addresses_of_mounted hsteps hgrounded hmounted hd happlied he hspec hpayload hnames haddresses]

end View

/-- **The loader sees of a host that was new what its fixture says**, and nothing of it is left to be
    resolved by what is written later. -/
theorem view_of_applyOne (hgrounded : s.netbox.Grounded)
    (hnew : s.netbox.under .device (.text fx.assetTag) = [])
    (hnames : (names fx).Nodup) (haddresses : AddressesOfInterfaces s.netbox fx)
    (h : applyOne refreshes fx s = .ok ((), t)) :
    t.netbox.client.view fx.assetTag = fx.client.view fx.assetTag ∧ t.netbox.Linked fx.assetTag := by
  obtain ⟨d, vlanByVid, hmounted, hd⟩ := mounted_of_applyOne hgrounded hnew hnames h
  obtain ⟨hsteps, happlied, hmade⟩ := applyOne_yields (List.mem_singleton_self fx) () t h
  have hrows := Traverse.map_of_map hmounted.payloads fun e he spec hspec hpayload =>
    rowView_of_mounted hsteps hgrounded hmounted hd happlied he hspec hpayload hnames hmade haddresses
  obtain ⟨role, hrole, hroleAt⟩ := hmounted.role
  obtain ⟨roleRow, hfind, -, hkey⟩ : ∃ row : SluggedRow, (t.netbox.table .deviceRole).find role = some row ∧
      (role, row) ∈ (t.netbox.table .deviceRole).rows ∧
        some (Key.text row.slug) = some (Key.text fx.deviceRole) :=
    find_of_idAt hroleAt
  constructor
  · have hhost : t.netbox.hostView d = fx.hostView := by
      unfold NetboxState.hostView HostFixture.hostView
      rw [hrows, hmounted.hostname, hrole, Option.bind_some, NetboxState.roleRecord, hfind,
        Key.text.inj (Option.some.inj hkey).symm]
      rfl
    rw [NetboxState.view_of_single hmounted.under, fx.view_eq, hhost]
  · constructor
    case role =>
      intro d' hd' id hid
      rw [hmounted.under, List.mem_singleton] at hd'
      obtain rfl := Option.some.inj (hrole.symm.trans (hd' ▸ hid))
      exact ⟨roleRow, hfind⟩
    case untaggedVlan =>
      intro d' hd' e he id hid
      rw [hmounted.under, List.mem_singleton] at hd'
      obtain rfl := hd'
      obtain ⟨spec, -, hpayload⟩ : ∃ spec ∈ fx.interfaces,
          interfacePayload spec d'.1 vlanByVid = erase .interface e.2 := by
        have hmem : erase .interface e.2 ∈ t.netbox.payloadsOf d'.1 := List.mem_map_of_mem he
        rw [hmounted.payloads] at hmem
        exact List.mem_map.mp hmem
      have hvlan : e.2.untaggedVlan = (nonzero spec.untaggedVlan).bind vlanByVid :=
        (congrArg InterfaceRow.untaggedVlan hpayload).symm
      obtain ⟨vid, -, hvid⟩ := Option.bind_eq_some_iff.mp (hvlan.symm.trans hid)
      obtain ⟨site, hat⟩ := hmounted.vlansAt
      obtain ⟨row, hfind, -⟩ := find_of_idAt (hat vid id hvid)
      exact ⟨row, hfind⟩
    case primaryMac =>
      intro d' hd' e he id href
      rw [hmounted.under, List.mem_singleton] at hd'
      obtain rfl := hd'
      obtain ⟨w, -, hfield, device, hresolves⟩ := Steps.refs hsteps (mem_interfacesOf.mp he).1
        (next_le_of_mem hsteps hgrounded hd he) href
      have hat := hresolves.targetAt
      rw [hfield] at hat
      obtain ⟨row, hfind, -⟩ := find_of_idAt hat
      exact ⟨row, hfind⟩

end Fixtures
end HostConfig
