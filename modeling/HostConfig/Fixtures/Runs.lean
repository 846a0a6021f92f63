import HostConfig.Fixtures.Steps

/-!
# `Fixtures.Runs` — what a run of `populate` does

Every run that returns goes along the steps of `Fixtures.Steps`, and leaves the fixture `Applied`: its
objects are there, under their keys and past the checks, and its references name interfaces it has. Each of
its references was written at some point of the run (`Made`); whether it still is, is another matter.

The proofs follow the functions. `ensure_yields` and `setRefOf_yields` are about the two that call Netbox.
In between, the objects in memory are `Tracks`: each is of the row with its name, and where it has the id of
a reference, so has the row.
-/

namespace HostConfig
namespace Fixtures

open StateRuns Relation

variable {fixtures : List HostFixture} {fx : HostFixture} {spec : InterfaceSpec} {n n' : NetboxState}
  {s : PopulateState} {k : Kind} {key : Key}

/-- From state to state along the steps of the fixtures. -/
def Along (fixtures : List HostFixture) (s t : PopulateState) : Prop := Steps fixtures s.netbox t.netbox

instance : IsPreorder PopulateState (Along fixtures) where
  refl _ := .refl
  trans _ _ _ := .trans

theorem Along.trans {t u : PopulateState} (h : Along fixtures s t) (h' : Along fixtures t u) :
    Along fixtures s u :=
  ReflTransGen.trans h h'

theorem Along.grows {t : PopulateState} (h : Along fixtures s t) : Grows s.netbox t.netbox := Steps.grows h

/-! ## Fixtures in Netbox -/

/-- The object under the key, the only one, passes the check. -/
def Passes (n : NetboxState) (k : Kind) (key : Key) (check : Nat × Row k → Except FixtureExc Unit) : Prop :=
  ∃ found, n.under k key = [found] ∧ check found = .ok ()

/-- A passed check stays passed: objects other than interfaces are never written again. -/
theorem Passes.grows {check : Nat × Row k → Except FixtureExc Unit} (hgrows : Grows n n')
    (hk : k ≠ .interface) (h : Passes n k key check) : Passes n' k key check := by
  obtain ⟨found, hunder, hcheck⟩ := h
  exact ⟨found, under_grows hgrows hk hunder, hcheck⟩

/-- The names of the fixture's interfaces. -/
def names (fx : HostFixture) : List String := fx.interfaces.map (·.name)

/-- The reference is of an interface, and to one, the fixture has. -/
def Known (fx : HostFixture) (w : Reference) : Prop :=
  w.iface ∈ names fx ∧ (w.field = .primaryMacAddress ∨ w.target ∈ names fx)

/-- The MAC the fixture gives the interface, if any, is there and passes the check. -/
def MacApplied (n : NetboxState) (device : Nat) (spec : InterfaceSpec) : Prop :=
  ∀ mac, truthy spec.mac = some mac → ∃ iface, IdAt n .interface (.iface device spec.name) iface ∧
    Passes n .macAddress (.text mac) (checkMacAddress mac iface)

/-- So is the address. -/
def IpApplied (n : NetboxState) (device : Nat) (spec : InterfaceSpec) : Prop :=
  ∀ ip, truthy spec.ip = some ip → ∃ iface, IdAt n .interface (.iface device spec.name) iface ∧
    Passes n .ipAddress (.text ip) (checkIpAddress ip iface)

/-- An applied MAC stays applied as the tables grow, -/
theorem MacApplied.grows {device : Nat} (hgrows : Grows n n') (h : MacApplied n device spec) :
    MacApplied n' device spec := by
  intro mac hmac
  obtain ⟨iface, hiface, hpasses⟩ := h mac hmac
  exact ⟨iface, hiface.grows hgrows, hpasses.grows hgrows (by decide)⟩

/-- and so does an applied address. -/
theorem IpApplied.grows {device : Nat} (hgrows : Grows n n') (h : IpApplied n device spec) :
    IpApplied n' device spec := by
  intro ip hip
  obtain ⟨iface, hiface, hpasses⟩ := h ip hip
  exact ⟨iface, hiface.grows hgrows, hpasses.grows hgrows (by decide)⟩

structure InterfacesApplied (n : NetboxState) (fx : HostFixture) (device : Nat) : Prop where
  interfaces : ∀ spec ∈ fx.interfaces, ∃ iface, IdAt n .interface (.iface device spec.name) iface
  macs : ∀ spec ∈ fx.interfaces, MacApplied n device spec
  ips : ∀ spec ∈ fx.interfaces, IpApplied n device spec
  known : ∀ w ∈ references fx, Known fx w

/-- The fixture's objects are there. -/
structure Applied (n : NetboxState) (fx : HostFixture) : Prop where
  site : ∃ site, IdAt n .site (.text fx.site) site ∧
    ∀ vlan ∈ fx.vlans, Passes n .vlan (.vid site vlan.vid) (checkVlan vlan)
  manufacturer : ∃ id, IdAt n .manufacturer (.text (slugify fx.deviceType.manufacturer)) id
  deviceType : Passes n .deviceType (.text fx.deviceType.slug) (checkDeviceType fx.deviceType)
  deviceRole : ∃ id, IdAt n .deviceRole (.text fx.deviceRole) id
  device : ∃ found, n.under .device (.text fx.assetTag) = [found] ∧ checkDevice fx found = .ok () ∧
    InterfacesApplied n fx found.1

/-- The interfaces of a fixture stay applied, -/
theorem InterfacesApplied.grows {device : Nat} (hgrows : Grows n n') (h : InterfacesApplied n fx device) :
    InterfacesApplied n' fx device := by
  constructor
  case interfaces =>
    intro spec hspec
    obtain ⟨iface, hiface⟩ := h.interfaces spec hspec
    exact ⟨iface, hiface.grows hgrows⟩
  case macs => exact fun spec hspec => (h.macs spec hspec).grows hgrows
  case ips => exact fun spec hspec => (h.ips spec hspec).grows hgrows
  case known => exact h.known

/-- and the whole fixture. -/
theorem Applied.grows (hgrows : Grows n n') (h : Applied n fx) : Applied n' fx := by
  constructor
  case site =>
    obtain ⟨site, hsite, hvlans⟩ := h.site
    exact ⟨site, hsite.grows hgrows, fun vlan hvlan => (hvlans vlan hvlan).grows hgrows (by decide)⟩
  case manufacturer =>
    obtain ⟨id, hid⟩ := h.manufacturer
    exact ⟨id, hid.grows hgrows⟩
  case deviceType => exact h.deviceType.grows hgrows (by decide)
  case deviceRole =>
    obtain ⟨id, hid⟩ := h.deviceRole
    exact ⟨id, hid.grows hgrows⟩
  case device =>
    obtain ⟨found, hunder, hcheck, hinterfaces⟩ := h.device
    exact ⟨found, under_grows hgrows (by decide) hunder, hcheck, hinterfaces.grows hgrows⟩

/-- The reference held at some point between the two. -/
def Made (fixtures : List HostFixture) (n n' : NetboxState) (w : Reference) : Prop :=
  ∃ u, Steps fixtures n u ∧ Steps fixtures u n' ∧ Holds u w

/-- A reference that a part of a run makes is made by the run, -/
theorem Made.later {n'' : NetboxState} {w : Reference} (hmade : Made fixtures n n' w)
    (h : Steps fixtures n' n'') : Made fixtures n n'' w := by
  obtain ⟨u, hnu, hun', hholds⟩ := hmade
  exact ⟨u, hnu, hun'.trans h, hholds⟩

/-- also by one that begins before the part. -/
theorem Made.earlier {n'' : NetboxState} {w : Reference} (hmade : Made fixtures n' n'' w)
    (h : Steps fixtures n n') : Made fixtures n n'' w := by
  obtain ⟨u, hnu, hun', hholds⟩ := hmade
  exact ⟨u, h.trans hnu, hun', hholds⟩

/-! ## The two steps -/

/-- All objects that were under their keys are there unchanged. -/
def Keeps (n n' : NetboxState) : Prop :=
  ∀ (k : Kind) (key : Key) (e : Nat × Row k), n.under k key = [e] → n'.under k key = [e]

/-- **What `_ensure` returns is under its key**, passes its check, and is the only object there. -/
theorem ensure_yields {check : Nat × Row k → Except FixtureExc Unit} {payload : Row k}
    (hkey : rowKey k payload = some key) (herase : erase k payload = payload)
    (hcheck : ∀ id, check (id, payload) = .ok ()) (hprovided : Provided fixtures s.netbox k payload) :
    Yields (Along fixtures) s (ensure k key check payload) fun found t =>
      t.netbox.under k key = [found] ∧ check found = .ok () ∧ Keeps s.netbox t.netbox := by
  intro found t hrun
  unfold ensure at hrun
  split at hrun
  · -- absent: the payload is created, and is what is returned
    rename_i hnew
    obtain ⟨rfl, rfl⟩ := Prod.mk.inj (Except.ok.inj hrun)
    exact ⟨.single (.create hnew hkey herase hprovided), under_create hnew hkey, hcheck _,
      fun k' key' e hunder => under_create_of_under hnew hkey hunder⟩
  · -- there: nothing is called, but the check may raise
    rename_i found' hunder
    split at hrun
    · cases hrun
    · rename_i hpass
      obtain ⟨rfl, rfl⟩ := Prod.mk.inj (Except.ok.inj hrun)
      exact ⟨.refl, hunder, hpass, fun k' key' e hunder => hunder⟩
  · cases hrun

/-- The lookup among a host's own interfaces raises, or returns and changes nothing. -/
theorem objectOf_eq_ok {objects : Objects} {name : String} {iface : Iface} {t : PopulateState} :
    objectOf objects name s = .ok (iface, t) ↔ objects name = some iface ∧ s = t := by
  unfold objectOf
  cases objects name <;> simp

theorem objectOf_yields {objects : Objects} {name : String} :
    Yields (Along fixtures) s (objectOf objects name) fun iface t => objects name = some iface ∧ s = t := by
  intro iface t hrun
  obtain ⟨hiface, rfl⟩ := objectOf_eq_ok.mp hrun
  exact ⟨.refl, hiface, rfl⟩

/-- The objects in memory are of interfaces of the device with these names, and read no reference as an
    object the row does not refer to. -/
def Tracks (n : NetboxState) (device : Nat) (names : List String) (objects : Objects) : Prop :=
  ∀ name iface, objects name = some iface → name ∈ names ∧
    ∃ row, n.under .interface (.iface device name) = [(iface.id, row)] ∧
      ∀ field id, (iface.refs field).currentId = some id → row.refs field = some id

/-- The objects a host has collected stay the ones of its device. -/
theorem Tracks.keeps {device : Nat} {names : List String} {objects : Objects} (hkeeps : Keeps n n')
    (h : Tracks n device names objects) : Tracks n' device names objects := by
  intro name iface hiface
  obtain ⟨hname, row, hunder, hrefs⟩ := h name iface hiface
  exact ⟨hname, row, hkeeps .interface _ _ hunder, hrefs⟩

/-- A collected object has the id of the interface of its name. -/
theorem Tracks.idAt {device : Nat} {names : List String} {objects : Objects} {name : String} {iface : Iface}
    (h : Tracks n device names objects) (hiface : objects name = some iface) :
    IdAt n .interface (.iface device name) iface.id := by
  obtain ⟨-, row, hunder, -⟩ := h name iface hiface
  exact ⟨row, hunder⟩

@[simp] theorem currentId_read (id : Option Nat) : (Ref.read id).currentId = id := by cases id <;> rfl

/-- What a written reference is read as in memory, if as anything. -/
theorem currentId_written {refreshes : Bool} {target id : Nat}
    (h : (if refreshes then Ref.record target else Ref.bare target).currentId = some id) : id = target := by
  cases refreshes
  · cases h
  · exact (Option.some.inj h).symm

section Write

variable {device : Nat} {names : List String} {objects : Objects} {name : String} {iface : Iface}
  {field : RefField} {target : Nat}

/-- The objects in memory after one is written. -/
theorem Tracks.write {refreshes : Bool} (h : Tracks n device names objects)
    (hiface : objects name = some iface) : Tracks (n.updateRef iface.id field target) device names
      (Function.update objects name (some { iface with
        refs := Function.update iface.refs field (if refreshes then .record target else
          .bare target) })) := by
  intro name' iface' hiface'
  by_cases hname : name' = name
  · -- the object that is written, and its row
    subst hname
    rw [Function.update_self] at hiface'
    obtain rfl := Option.some.inj hiface'
    obtain ⟨hmem, row, hunder, hrefs⟩ := h name' iface hiface
    refine ⟨hmem, row.setRef field target, ?_, ?_⟩
    · rw [under_updateRef, hunder, List.map_singleton, Table.modifyEntry_mk]
    · intro field' id hid
      by_cases hfield : field' = field
      · subst hfield
        dsimp only at hid
        rw [Function.update_self] at hid
        rw [currentId_written hid]
        exact setRef_self row field' target
      · dsimp only at hid
        rw [Function.update_of_ne hfield] at hid
        rw [setRef_of_ne row target hfield]
        exact hrefs field' id hid
  · -- an object of another name is of another row
    rw [Function.update_of_ne hname] at hiface'
    obtain ⟨hmem, row, hunder, hrefs⟩ := h name' iface' hiface'
    have hne : iface'.id ≠ iface.id := by
      intro hid
      have hat := h.idAt hiface'
      rw [hid] at hat
      exact hname (Key.iface.inj (hat.key_unique (h.idAt hiface))).2
    refine ⟨hmem, row, ?_, hrefs⟩
    rw [under_updateRef, hunder, List.map_singleton, Table.modifyEntry_of_ne _ hne]

/-- **A reference that is set holds**, and the objects still track the tables. -/
theorem setRefOf_yields {refreshes : Bool} {w : Reference} (hw : w ∈ listed fixtures)
    (hdevice : IdAt s.netbox .device (.text w.assetTag) device)
    (htarget : IdAt s.netbox w.field.kind (w.field.keyOn device w.target) target)
    (htracks : Tracks s.netbox device names objects) :
    Yields (Along fixtures) s (setRefOf refreshes w.field objects w.iface target) fun objects t =>
      Tracks t.netbox device names objects ∧ w.iface ∈ names ∧ Holds t.netbox w := by
  intro objects' t hrun
  obtain ⟨iface, u, hobject, hrun⟩ := bind_eq_ok.mp hrun
  obtain ⟨hiface, rfl⟩ := objectOf_eq_ok.mp hobject
  obtain ⟨iface', u, hset, hrun⟩ := bind_eq_ok.mp hrun
  obtain ⟨rfl, rfl⟩ := pure_eq_ok.mp hrun
  have hresolves : Resolves s.netbox w device iface.id target := ⟨hdevice, htracks.idAt hiface, htarget⟩
  obtain ⟨hmem, row, hunder, hrefs⟩ := htracks w.iface iface hiface
  unfold setRef at hset
  split at hset
  · -- the object reads the reference already
    rename_i hcurrent
    obtain ⟨rfl, rfl⟩ := Prod.mk.inj (Except.ok.inj hset)
    rw [Function.update_eq_self_iff.mpr hiface.symm]
    exact ⟨.refl, htracks, hmem, device, iface.id, target, hresolves, row, (mem_of_under hunder).1,
      hrefs w.field target hcurrent⟩
  · -- it is written, also where the row has it but the object reads a bare id
    obtain ⟨rfl, rfl⟩ := Prod.mk.inj (Except.ok.inj hset)
    have hstep : Step fixtures s.netbox (s.netbox.updateRef iface.id w.field target) := .assign hw hresolves
    exact ⟨.single hstep, htracks.write hiface, hmem, hresolves.holds hstep.grows⟩

end Write

/-! ## The objects -/

/-- The site is returned under its name, -/
theorem ensureSite_yields (hfx : fx ∈ fixtures) :
    Yields (Along fixtures) s (ensureSite fx.site) fun site t =>
      IdAt t.netbox .site (.text fx.site) site.1 := by
  refine Yields.mono (ensure_yields rfl rfl (fun _ => rfl) ⟨fx, hfx, rfl⟩) ?_
  intro site t _ h
  exact ⟨site.2, h.1⟩

/-- the manufacturer under its slug, -/
theorem ensureManufacturer_yields (hfx : fx ∈ fixtures) :
    Yields (Along fixtures) s (ensureManufacturer fx.deviceType.manufacturer) fun manufacturer t =>
      IdAt t.netbox .manufacturer (.text (slugify fx.deviceType.manufacturer)) manufacturer.1 := by
  refine Yields.mono (ensure_yields rfl rfl (fun _ => rfl) ⟨fx, hfx, rfl⟩) ?_
  intro manufacturer t _ h
  exact ⟨manufacturer.2, h.1⟩

/-- the device type passes the check on its height, -/
theorem ensureDeviceType_yields (hfx : fx ∈ fixtures) (manufacturer : Nat) :
    Yields (Along fixtures) s (ensureDeviceType fx.deviceType manufacturer) fun _ t =>
      Passes t.netbox .deviceType (.text fx.deviceType.slug) (checkDeviceType fx.deviceType) := by
  refine Yields.mono (ensure_yields rfl rfl (fun id => if_pos rfl) ⟨fx, hfx, rfl⟩) ?_
  intro deviceType t _ h
  exact ⟨deviceType, h.1, h.2.1⟩

/-- and the role is returned under its name. -/
theorem ensureDeviceRole_yields (hfx : fx ∈ fixtures) :
    Yields (Along fixtures) s (ensureDeviceRole fx.deviceRole) fun role t =>
      IdAt t.netbox .deviceRole (.text fx.deviceRole) role.1 := by
  refine Yields.mono (ensure_yields rfl rfl (fun _ => rfl) ⟨fx, hfx, rfl⟩) ?_
  intro role t _ h
  exact ⟨role.2, h.1⟩

/-- The entries of `vlan_by_vid` are ids of VLANs of the site. -/
def VlansAt (n : NetboxState) (site : Nat) (vlanByVid : Int → Option Nat) : Prop :=
  ∀ vid id, vlanByVid vid = some id → IdAt n .vlan (.vid site vid) id

/-- The ids collected by vid stay those of the site's VLANs. -/
theorem VlansAt.grows {site : Nat} {vlanByVid : Int → Option Nat} (hgrows : Grows n n')
    (h : VlansAt n site vlanByVid) :
    VlansAt n' site vlanByVid := fun vid id hid => (h vid id hid).grows hgrows

/-- A VLAN is returned under its vid within the site, and its name agrees. -/
theorem addVlan_yields {vlan : VlanSpec} {site : Nat} {vlanByVid : Int → Option Nat} (hfx : fx ∈ fixtures)
    (hvlan : vlan ∈ fx.vlans) (hvlans : VlansAt s.netbox site vlanByVid) :
    Yields (Along fixtures) s (addVlan site vlanByVid vlan) fun vlanByVid t =>
      VlansAt t.netbox site vlanByVid ∧ Passes t.netbox .vlan (.vid site vlan.vid) (checkVlan vlan) := by
  refine Yields.bind
    (ensure_yields rfl rfl (fun id => if_neg (not_not_intro rfl)) ⟨fx, hfx, vlan, hvlan, rfl, rfl⟩) ?_
  rintro found t hst ⟨hunder, hpass, -⟩
  refine Yields.pure ⟨?_, found, hunder, hpass⟩
  intro vid id hid
  by_cases hvid : vid = vlan.vid
  · subst hvid
    rw [Function.update_self] at hid
    obtain rfl := Option.some.inj hid
    exact ⟨found.2, hunder⟩
  · rw [Function.update_of_ne hvid] at hid
    exact (hvlans vid id hid).grows hst.grows

/-- The device is the only one with the asset tag; its name and role agree. -/
theorem ensureDevice_yields {site deviceType role : Nat} (hfx : fx ∈ fixtures)
    (hrole : IdAt s.netbox .deviceRole (.text fx.deviceRole) role) :
    Yields (Along fixtures) s (ensureDevice fx site deviceType role) fun device t =>
      t.netbox.under .device (.text fx.assetTag) = [device] ∧ checkDevice fx device = .ok () := by
  refine Yields.mono (ensure_yields rfl rfl (fun id => if_neg (not_not_intro rfl))
    ⟨fx, hfx, rfl, rfl, role, rfl, hrole⟩) ?_
  intro device t _ h
  exact ⟨h.1, h.2.1⟩

/-! ## The passes -/

/-- The references of an interface are among the fixture's: those of its wires, -/
theorem mem_references_of_wire {w : Reference} (hspec : spec ∈ fx.interfaces)
    (hw : w ∈ memberReferences fx spec ++ parentReferences fx spec) : w ∈ references fx :=
  mem_references.mpr (.inl ⟨spec, hspec, hw⟩)

/-- and that of its MAC. -/
theorem mem_references_of_mac {w : Reference} (hspec : spec ∈ fx.interfaces)
    (hw : w ∈ macReferences fx spec) : w ∈ references fx := mem_references.mpr (.inr ⟨spec, hspec, hw⟩)

/-- What one of the fixtures refers to is listed. -/
theorem mem_listed {w : Reference} (hfx : fx ∈ fixtures) (hw : w ∈ references fx) : w ∈ listed fixtures :=
  List.mem_flatMap.mpr ⟨fx, hfx, hw⟩

section Passes

variable {device : Nat} {objects : Objects} (hfx : fx ∈ fixtures) (hspec : spec ∈ fx.interfaces)
  (hdevice : IdAt s.netbox .device (.text fx.assetTag) device)
  (htracks : Tracks s.netbox device (names fx) objects)

include hfx hspec hdevice htracks

/-- An interface of the fixture exists from here on, and is collected under its name. -/
theorem addInterface_yields {site : Nat} {vlanByVid : Int → Option Nat}
    (hvlans : VlansAt s.netbox site vlanByVid) :
    Yields (Along fixtures) s (addInterface device vlanByVid objects spec) fun objects t =>
      Tracks t.netbox device (names fx) objects ∧
        ∃ iface, IdAt t.netbox .interface (.iface device spec.name) iface := by
  -- the payload comes from the spec, its VLAN from the table made before
  have hprovided : Provided fixtures s.netbox .interface (interfacePayload spec device vlanByVid) := by
    refine ⟨fx, hfx, spec, hspec, hdevice, rfl, rfl, rfl, ?_⟩
    intro vlan hvlan
    obtain ⟨vid, hvid, hid⟩ := Option.bind_eq_some_iff.mp hvlan
    exact ⟨site, vid, (Option.filter_eq_some_iff.mp hvid).1, hvlans vid vlan hid⟩
  refine Yields.bind (P := fun iface t => Keeps s.netbox t.netbox ∧
    ∃ row, t.netbox.under .interface (.iface device spec.name) = [(iface.id, row)] ∧
      iface = Iface.read (iface.id, row))
    ?_ ?_
  · refine Yields.bind (ensure_yields rfl rfl (fun _ => rfl) hprovided) ?_
    rintro found t - ⟨hunder, -, hkeeps⟩
    exact Yields.pure ⟨hkeeps, found.2, hunder, rfl⟩
  · rintro iface t - ⟨hkeeps, row, hunder, hread⟩
    refine Yields.pure ⟨?_, iface.id, row, hunder⟩
    intro name iface' hiface'
    -- the interface just added, or one that was tracked before
    by_cases hname : name = spec.name
    · subst hname
      rw [Function.update_self] at hiface'
      obtain rfl := Option.some.inj hiface'
      refine ⟨List.mem_map_of_mem hspec, row, hunder, ?_⟩
      intro field id hid
      rw [hread] at hid
      rwa [Iface.read, currentId_read] at hid
    · rw [Function.update_of_ne hname] at hiface'
      exact htracks.keeps hkeeps name iface' hiface'

/-- What the passes that write references leave behind for a reference. -/
abbrev Written (fixtures : List HostFixture) (fx : HostFixture) (n n' : NetboxState) (w : Reference) : Prop :=
  Known fx w ∧ Made fixtures n n' w

variable {refreshes : Bool}

/-- The first relationship pass writes what the fixture says of members, -/
theorem wireMembers_yields : Yields (Along fixtures) s (wireMembers refreshes objects spec) fun objects t =>
    Tracks t.netbox device (names fx) objects ∧
      ∀ w ∈ memberReferences fx spec, Written fixtures fx s.netbox t.netbox w := by
  unfold wireMembers
  split
  · rename_i hnone
    refine Yields.pure ⟨htracks, ?_⟩
    intro w hw
    obtain ⟨member, hmember, -⟩ := mem_memberReferences.mp hw
    rw [hnone] at hmember
    cases hmember
  · refine objectOf_yields.bind ?_
    rintro lag _ - ⟨hlag, rfl⟩
    -- each member's reference is written, and was written since the loop began
    have hloop := Yields.foldlM (R := Along fixtures) (s := s) (l := spec.lagMembers)
      (f := wireMember refreshes lag.id) (b := objects) (I := fun objects t =>
        Tracks t.netbox device (names fx) objects)
      (P := fun member t => Written fixtures fx s.netbox t.netbox ⟨fx.assetTag, .lag, member, spec.name⟩)
      (fun member _ u t hut h => ⟨h.1, h.2.later hut⟩) ?_ htracks
    · refine hloop.mono ?_
      rintro objects' t - ⟨htracks', hmembers⟩
      refine ⟨htracks', ?_⟩
      intro w hw
      obtain ⟨member, hmember, rfl⟩ := mem_memberReferences.mp hw
      exact hmembers member hmember
    · intro objects' member hmember u hsu htracks'
      have hw : (⟨fx.assetTag, .lag, member, spec.name⟩ : Reference) ∈ memberReferences fx spec :=
        mem_memberReferences.mpr ⟨member, hmember, rfl⟩
      have hlisted := mem_listed hfx (mem_references_of_wire hspec (List.mem_append_left _ hw))
      have hlagAt := (htracks.idAt hlag).grows hsu.grows
      refine (setRefOf_yields hlisted (hdevice.grows hsu.grows) hlagAt htracks').mono ?_
      rintro objects'' t hut ⟨htracks'', hname, hholds⟩
      exact ⟨htracks'', ⟨hname, .inr (List.mem_map_of_mem hspec)⟩, t.netbox, hsu.trans hut, .refl, hholds⟩

/-- and of the parent. -/
theorem wireParent_yields : Yields (Along fixtures) s (wireParent refreshes objects spec) fun objects t =>
    Tracks t.netbox device (names fx) objects ∧
      ∀ w ∈ parentReferences fx spec, Written fixtures fx s.netbox t.netbox w := by
  unfold wireParent
  cases hparent : truthy spec.parent with
  | none =>
    refine Yields.pure ⟨htracks, ?_⟩
    intro w hw
    obtain ⟨parent, h, -⟩ := mem_parentReferences.mp hw
    rw [hparent] at h
    cases h
  | some parent =>
    refine objectOf_yields.bind ?_
    rintro child _ - ⟨hchild, rfl⟩
    refine objectOf_yields.bind ?_
    rintro parentIface _ - ⟨hparentIface, rfl⟩
    have hw : (⟨fx.assetTag, .parent, spec.name, parent⟩ : Reference) ∈ parentReferences fx spec :=
      mem_parentReferences.mpr ⟨parent, hparent, rfl⟩
    have hlisted := mem_listed hfx (mem_references_of_wire hspec (List.mem_append_right _ hw))
    refine (setRefOf_yields hlisted hdevice (htracks.idAt hparentIface) htracks).mono ?_
    rintro objects' t hst ⟨htracks', hname, hholds⟩
    refine ⟨htracks', ?_⟩
    intro w hw
    obtain ⟨parent', hparent', rfl⟩ := mem_parentReferences.mp hw
    obtain rfl := Option.some.inj (hparent.symm.trans hparent')
    exact ⟨⟨hname, .inr (htracks parent parentIface hparentIface).1⟩, t.netbox, hst, .refl, hholds⟩

/-- Both for one interface. -/
theorem wireRelationships_yields : Yields (Along fixtures) s (wireRelationships refreshes objects spec)
    fun objects t =>
    Tracks t.netbox device (names fx) objects ∧
      ∀ w ∈ memberReferences fx spec ++ parentReferences fx spec,
        Written fixtures fx s.netbox t.netbox w := by
  refine (wireMembers_yields hfx hspec hdevice htracks).bind ?_
  rintro objects' u hsu ⟨htracks', hmembers⟩
  refine (wireParent_yields hfx hspec (hdevice.grows hsu.grows) htracks').mono ?_
  rintro objects'' t hut ⟨htracks'', hparent⟩
  refine ⟨htracks'', ?_⟩
  intro w hw
  rcases List.mem_append.mp hw with hw | hw
  · exact ⟨(hmembers w hw).1, (hmembers w hw).2.later hut⟩
  · exact ⟨(hparent w hw).1, (hparent w hw).2.earlier hsu⟩

/-- The MAC is there, and primary to its interface. -/
theorem assignMac_yields : Yields (Along fixtures) s (assignMac refreshes objects spec) fun objects t =>
    Tracks t.netbox device (names fx) objects ∧
      MacApplied t.netbox device spec ∧ ∀ w ∈ macReferences fx spec,
        Written fixtures fx s.netbox t.netbox w := by
  unfold assignMac
  -- a spec without a MAC makes no write and asks for none
  cases hmac : truthy spec.mac with
  | none =>
    refine Yields.pure ⟨htracks, ?_, ?_⟩
    · intro mac h
      rw [hmac] at h
      cases h
    · intro w hw
      obtain ⟨mac, h, -⟩ := mem_macReferences.mp hw
      rw [hmac] at h
      cases h
  | some mac =>
    refine objectOf_yields.bind ?_
    rintro iface _ - ⟨hiface, rfl⟩
    have hat := htracks.idAt hiface
    -- the address first, then the reference to it
    refine Yields.bind (ensure_yields rfl rfl (fun id => if_neg fun h => h.2 rfl)
      ⟨fx, hfx, spec, hspec, hmac, rfl, device, iface.id, hdevice, hat, rfl⟩) ?_
    rintro macAddress u hsu ⟨hunder, hpass, hkeeps⟩
    have hw : (⟨fx.assetTag, .primaryMacAddress, spec.name, mac⟩ : Reference) ∈ macReferences fx spec :=
      mem_macReferences.mpr ⟨mac, hmac, rfl⟩
    have hlisted := mem_listed hfx (mem_references_of_mac hspec hw)
    refine (setRefOf_yields hlisted (hdevice.grows hsu.grows) ⟨macAddress.2, hunder⟩
      (htracks.keeps hkeeps)).mono ?_
    rintro objects' t hut ⟨htracks', hname, hholds⟩
    refine ⟨htracks', ?_, ?_⟩
    · intro mac' hmac'
      obtain rfl := Option.some.inj (hmac.symm.trans hmac')
      have hpasses : Passes u.netbox .macAddress (.text mac) (checkMacAddress mac iface.id) :=
        ⟨macAddress, hunder, hpass⟩
      exact ⟨iface.id, hat.grows (Steps.grows (hsu.trans hut)), hpasses.grows hut.grows (by decide)⟩
    · intro w hw
      obtain ⟨mac', hmac', rfl⟩ := mem_macReferences.mp hw
      obtain rfl := Option.some.inj (hmac.symm.trans hmac')
      exact ⟨⟨hname, .inl rfl⟩, t.netbox, hsu.trans hut, .refl, hholds⟩

/-- The address is there, assigned to its interface. -/
theorem assignIp_yields : Yields (Along fixtures) s (assignIp objects spec) fun objects t =>
    Tracks t.netbox device (names fx) objects ∧ IpApplied t.netbox device spec := by
  unfold assignIp
  cases hip : truthy spec.ip with
  | none =>
    refine Yields.pure ⟨htracks, ?_⟩
    intro ip h
    rw [hip] at h
    cases h
  | some ip =>
    refine objectOf_yields.bind ?_
    rintro iface _ - ⟨hiface, rfl⟩
    have hat := htracks.idAt hiface
    refine Yields.bind (ensure_yields rfl rfl (fun id => if_neg (not_not_intro rfl))
      ⟨fx, hfx, spec, hspec, hip, rfl, device, iface.id, hdevice, hat, rfl⟩) ?_
    rintro address t hst ⟨hunder, hpass, hkeeps⟩
    refine Yields.pure ⟨htracks.keeps hkeeps, ?_⟩
    intro ip' hip'
    obtain rfl := Option.some.inj (hip.symm.trans hip')
    exact ⟨iface.id, hat.grows hst.grows, address, hunder, hpass⟩

end Passes

section Whole

variable {device : Nat} {refreshes : Bool} (hfx : fx ∈ fixtures)

include hfx

/-- **The four passes over the interfaces.** Each keeps what the ones before it have applied. -/
theorem applyInterfaces_yields {site : Nat} {vlanByVid : Int → Option Nat}
    (hdevice : IdAt s.netbox .device (.text fx.assetTag) device) (hvlans : VlansAt s.netbox site vlanByVid) :
    Yields (Along fixtures) s (applyInterfaces refreshes device vlanByVid fx.interfaces) fun _ t =>
      InterfacesApplied t.netbox fx device ∧ ∀ w ∈ references fx, Made fixtures s.netbox t.netbox w := by
  -- the invariant of every pass
  let I : Objects → PopulateState → Prop := fun objects t => Tracks t.netbox device (names fx) objects
  -- pass 1: the interfaces are there
  refine Yields.bind (Yields.foldlM (I := I)
    (P := fun spec t => ∃ iface, IdAt t.netbox .interface (.iface device spec.name) iface) ?_ ?_ ?_) ?_
  · rintro spec - u t hut ⟨iface, hiface⟩
    exact ⟨iface, hiface.grows hut.grows⟩
  · intro objects spec hspec u hsu htracks
    exact addInterface_yields hfx hspec (hdevice.grows hsu.grows) htracks (hvlans.grows hsu.grows)
  · intro name iface h
    cases h
  rintro objects₁ s₁ hs₁ ⟨htracks₁, hinterfaces⟩
  -- pass 2: LAGs and parents were written since the beginning
  refine Yields.bind (Yields.foldlM (I := I) (P := fun spec t =>
    ∀ w ∈ memberReferences fx spec ++ parentReferences fx spec, Written fixtures fx s.netbox t.netbox w)
    ?_ ?_ htracks₁) ?_
  · intro spec _ u t hut h w hw
    exact ⟨(h w hw).1, (h w hw).2.later hut⟩
  · intro objects spec hspec u hsu htracks
    refine (wireRelationships_yields hfx hspec (hdevice.grows (hs₁.trans hsu).grows) htracks).mono ?_
    rintro objects' t - ⟨htracks', h⟩
    exact ⟨htracks', fun w hw => ⟨(h w hw).1, (h w hw).2.earlier (hs₁.trans hsu)⟩⟩
  rintro objects₂ s₂ hs₁₂ ⟨htracks₂, hwired⟩
  have hs₂ : Along fixtures s s₂ := hs₁.trans hs₁₂
  -- pass 3: the MACs are there, and were written
  refine Yields.bind (Yields.foldlM (I := I) (P := fun spec t => MacApplied t.netbox device spec ∧
    ∀ w ∈ macReferences fx spec, Written fixtures fx s.netbox t.netbox w) ?_ ?_ htracks₂) ?_
  · intro spec _ u t hut h
    exact ⟨h.1.grows hut.grows, fun w hw => ⟨(h.2 w hw).1, (h.2 w hw).2.later hut⟩⟩
  · intro objects spec hspec u hsu htracks
    refine (assignMac_yields hfx hspec (hdevice.grows (hs₂.trans hsu).grows) htracks).mono ?_
    rintro objects' t - ⟨htracks', hmac, h⟩
    exact ⟨htracks', hmac, fun w hw => ⟨(h w hw).1, (h w hw).2.earlier (hs₂.trans hsu)⟩⟩
  rintro objects₃ s₃ hs₃ ⟨htracks₃, hmacs⟩
  -- pass 4: the addresses are there
  refine Yields.mono (Yields.foldlM (I := I) (P := fun spec t =>
    IpApplied t.netbox device spec) ?_ ?_ htracks₃) ?_
  · exact fun spec _ u t hut h => h.grows hut.grows
  · intro objects spec hspec u hsu htracks
    exact assignIp_yields hfx hspec (hdevice.grows (hs₂.trans (hs₃.trans hsu)).grows) htracks
  rintro objects₄ s₄ hs₄ ⟨-, hips⟩
  have hwritten : ∀ w ∈ references fx, Written fixtures fx s.netbox s₄.netbox w := by
    intro w hw
    rcases mem_references.mp hw with ⟨spec, hspec, hw⟩ | ⟨spec, hspec, hw⟩
    · obtain ⟨hknown, hmade⟩ := hwired spec hspec w hw
      exact ⟨hknown, hmade.later (hs₃.trans hs₄)⟩
    · obtain ⟨hknown, hmade⟩ := (hmacs spec hspec).2 w hw
      exact ⟨hknown, hmade.later hs₄⟩
  refine ⟨⟨?interfaces, ?macs, hips, fun w hw => (hwritten w hw).1⟩, fun w hw => (hwritten w hw).2⟩
  case interfaces =>
    intro spec hspec
    obtain ⟨iface, hiface⟩ := hinterfaces spec hspec
    exact ⟨iface, hiface.grows (hs₁₂.trans (hs₃.trans hs₄)).grows⟩
  case macs => exact fun spec hspec => (hmacs spec hspec).1.grows hs₄.grows

/-- **One fixture is applied** by a run that returns, and its references are made. -/
theorem applyOne_yields : Yields (Along fixtures) s (applyOne refreshes fx) fun _ t =>
    Applied t.netbox fx ∧ ∀ w ∈ references fx, Made fixtures s.netbox t.netbox w := by
  refine (ensureSite_yields hfx).bind ?_
  rintro site s₁ hs₁ hsite
  refine (ensureManufacturer_yields hfx).bind ?_
  rintro manufacturer s₂ hs₂ hmanufacturer
  refine (ensureDeviceType_yields hfx manufacturer.1).bind ?_
  rintro deviceType s₃ hs₃ hdeviceType
  refine (ensureDeviceRole_yields hfx).bind ?_
  rintro role s₄ hs₄ hrole
  refine Yields.bind (Yields.foldlM (I := fun vlanByVid t => VlansAt t.netbox site.1 vlanByVid)
    (P := fun vlan t => Passes t.netbox .vlan (.vid site.1 vlan.vid) (checkVlan vlan)) ?_ ?_ ?_) ?_
  · exact fun vlan _ u t hut h => h.grows hut.grows (by decide)
  · exact fun vlanByVid vlan hvlan u _ h => addVlan_yields hfx hvlan h
  · intro vid id h
    cases h
  rintro vlanByVid s₅ hs₅ ⟨hvlanByVid, hvlans⟩
  refine (ensureDevice_yields hfx (hrole.grows hs₅.grows)).bind ?_
  rintro device s₆ hs₆ ⟨hdevice, hcheck⟩
  refine (applyInterfaces_yields hfx ⟨device.2, hdevice⟩ (hvlanByVid.grows hs₆.grows)).bind ?_
  rintro _ t ht ⟨hinterfaces, hmade⟩
  refine Yields.pure ⟨?_, ?_⟩
  · -- what each stage has established is carried to the end, from the last stage back
    have hs₅t := hs₆.trans ht
    have hs₄t := hs₅.trans hs₅t
    have hs₃t := hs₄.trans hs₄t
    have hs₂t := hs₃.trans hs₃t
    have hs₁t := hs₂.trans hs₂t
    constructor
    case site =>
      exact ⟨site.1, hsite.grows hs₁t.grows, fun vlan hvlan =>
        (hvlans vlan hvlan).grows hs₅t.grows (by decide)⟩
    case manufacturer => exact ⟨manufacturer.1, hmanufacturer.grows hs₂t.grows⟩
    case deviceType => exact hdeviceType.grows hs₃t.grows (by decide)
    case deviceRole => exact ⟨role.1, hrole.grows hs₄t.grows⟩
    case device => exact ⟨device, under_grows ht.grows (by decide) hdevice, hcheck, hinterfaces⟩
  · intro w hw
    exact (hmade w hw).earlier (hs₁.trans (hs₂.trans (hs₃.trans (hs₄.trans (hs₅.trans hs₆)))))

end Whole

/-- **What a run of `populate` does.** -/
theorem populate_runs {refreshes : Bool} {report : PopulateReport}
    (h : populate refreshes fixtures n = .ok (report, n')) :
    Steps fixtures n n' ∧ ∀ fx ∈ fixtures, Applied n' fx ∧ ∀ w ∈ references fx, Made fixtures n n' w := by
  unfold populate at h
  split at h
  · cases h
  · rename_i s hrun
    obtain ⟨-, rfl⟩ := Prod.mk.inj (Except.ok.inj h)
    have hall := Yields.foldlM (R := Along fixtures) (s := ⟨n, ⟨[], []⟩⟩) (l := fixtures) (b := ())
      (f := fun _ fx => applyOne refreshes fx) (I := fun _ _ => True)
      (P := fun fx t => Applied t.netbox fx ∧ ∀ w ∈ references fx, Made fixtures n t.netbox w) ?_ ?_ trivial
    · obtain ⟨hsteps, -, hP⟩ := hall () s hrun
      exact ⟨hsteps, hP⟩
    · intro fx _ u t hut h
      exact ⟨h.1.grows hut.grows, fun w hw => (h.2 w hw).later hut⟩
    · intro _ fx hfx u hu _
      refine (applyOne_yields hfx).mono ?_
      rintro _ t - ⟨happlied, hmade⟩
      exact ⟨trivial, happlied, fun w hw => (hmade w hw).earlier hu⟩

end Fixtures
end HostConfig
