import HostConfig.Fixtures.Runs

/-!
# `Fixtures.Idempotence` — the second run of `populate`

After a run that returned every fixture is `Applied`, so a second run finds all objects and the checks pass.
It leaves Netbox as it is exactly when every reference it asserts is written already. Of two references that
differ only in their target, the one written last holds, and the second run writes both again: so the second
run does nothing exactly when there are no such two (`populate_twice_iff`).

One direction evaluates the second run on the Netbox it is given, where it `Stays`; the other reads off
Netbox what a run that led back to where it began asserted on its way.
-/

namespace HostConfig
namespace Fixtures

open StateRuns Relation

variable {fixtures : List HostFixture} {fx : HostFixture} {spec : InterfaceSpec} {n n' : NetboxState}
  {k : Kind} {key : Key} {refreshes : Bool} {created : List (String × Nat)}

/-- No two of the references contradict each other: same asset tag, field and interface,
    but another target. -/
def Agree (fixtures : List HostFixture) : Prop := ∀ w ∈ listed fixtures, Uncontested fixtures w

instance (fixtures : List HostFixture) : Decidable (Agree fixtures) :=
  inferInstanceAs (Decidable (∀ w ∈ listed fixtures, ∀ v ∈ listed fixtures, v.slot = w.slot →
    v.target = w.target))

/-! ## A run that finds everything -/

/-- Netbox is this, and this was counted as created. -/
def At (n : NetboxState) (created : List (String × Nat)) (s : PopulateState) : Prop :=
  s.netbox = n ∧ s.report.created = created

/-- What is there and passes is returned, and nothing is made. -/
theorem ensure_stays {check : Nat × Row k → Except FixtureExc Unit} {payload : Row k} {found : Nat × Row k}
    (hunder : n.under k key = [found]) (hcheck : check found = .ok ()) :
    Stays (At n created) (ensure k key check payload) found := by
  rintro s ⟨rfl, rfl⟩
  refine ⟨{ s with report := s.report.addSkipped k.name }, ?_, rfl, rfl⟩
  unfold ensure
  rw [hunder]
  dsimp only
  rw [hcheck]

/-- A lookup makes nothing, -/
theorem objectOf_stays {objects : Objects} {name : String} {iface : Iface} (h : objects name = some iface) :
    Stays (At n created) (objectOf objects name) iface := fun s hs => ⟨s, objectOf_eq_ok.mpr ⟨h, rfl⟩, hs⟩

/-- and a reference that is already set is not written. -/
theorem setRefOf_stays {objects : Objects} {name : String} {iface : Iface} {field : RefField} {target : Nat}
    (hobject : objects name = some iface) (hcurrent : (iface.refs field).currentId = some target) :
    Stays (At n created) (setRefOf refreshes field objects name target) objects := by
  refine (objectOf_stays hobject).bind (Stays.bind (a := iface) ?_ ?_)
  · rintro s hs
    refine ⟨{ s with report := s.report.addSkipped field.name }, ?_, hs⟩
    unfold setRef
    rw [if_pos hcurrent]
  · rw [Function.update_eq_self_iff.mpr hobject.symm]
    exact Stays.pure objects

/-- One more entry of `iface_by_name`, and of `vlan_by_vid`, where the object is there. -/
def withInterface (n : NetboxState) (device : Nat) (objects : Objects) (spec : InterfaceSpec) : Objects :=
  Function.update objects spec.name ((n.under .interface (.iface device spec.name)).head?.map fun e =>
    Iface.read e)

def withVlan (n : NetboxState) (site : Nat) (vlanByVid : Int → Option Nat) (vlan : VlanSpec) :
    Int → Option Nat :=
  Function.update vlanByVid vlan.vid ((n.under .vlan (.vid site vlan.vid)).head?.map fun e => e.1)

/-- The objects in memory after pass 1, where all interfaces are there. -/
def objectsIn (n : NetboxState) (device : Nat) (specs : List InterfaceSpec) : Objects :=
  specs.foldl (withInterface n device) fun _ => none

/-- The objects a second run collects are those of the tables. -/
theorem objectsIn_eq {device : Nat} {specs : List InterfaceSpec} {name : String} {e : Nat × InterfaceRow}
    (hname : name ∈ specs.map (·.name)) (hunder : n.under .interface (.iface device name) = [e]) :
    objectsIn n device specs name = some (Iface.read e) := by
  -- whether an entry was there before or comes later in the list
  suffices h : ∀ objects : Objects, name ∈ specs.map (·.name) ∨ objects name = some (Iface.read e) →
      specs.foldl (withInterface n device) objects name = some (Iface.read e) from h _ (.inl hname)
  clear hname
  induction specs with
  | nil =>
    intro objects h
    exact h.resolve_left List.not_mem_nil
  | cons spec specs ih =>
    intro objects h
    rw [List.foldl_cons]
    apply ih
    unfold withInterface
    by_cases hspec : name = spec.name
    · subst hspec
      right
      rw [Function.update_self, hunder]
      rfl
    · rw [Function.update_of_ne hspec]
      rw [List.map_cons, List.mem_cons] at h
      rcases h with (h | h) | h
      · exact absurd h hspec
      · exact .inl h
      · exact .inr h

/-- A reference that holds is not written again. -/
theorem setRefOf_stays_of_holds {w : Reference} {device target : Nat} (hholds : Holds n w)
    (hknown : Known fx w) (hdevice : IdAt n .device (.text w.assetTag) device)
    (htarget : IdAt n w.field.kind (w.field.keyOn device w.target) target) :
    Stays (At n created) (setRefOf refreshes w.field (objectsIn n device fx.interfaces) w.iface target)
      (objectsIn n device fx.interfaces) := by
  obtain ⟨device', iface, target', hresolves, row, hrow, href⟩ := hholds
  obtain rfl := hdevice.unique hresolves.deviceAt
  obtain rfl := htarget.unique hresolves.targetAt
  refine setRefOf_stays (objectsIn_eq hknown.1 (hresolves.ifaceAt.under hrow)) ?_
  rw [Iface.read, currentId_read]
  exact href

section Passes

variable {device : Nat} (hspec : spec ∈ fx.interfaces) (happlied : InterfacesApplied n fx device)

include hspec happlied

/-- The object of an interface of the fixture. -/
theorem object_of_applied : ∃ e : Nat × InterfaceRow, n.under .interface (.iface device spec.name) = [e] ∧
    objectsIn n device fx.interfaces spec.name = some (Iface.read e) := by
  obtain ⟨iface, row, hunder⟩ := happlied.interfaces spec hspec
  exact ⟨(iface, row), hunder, objectsIn_eq (List.mem_map_of_mem hspec) hunder⟩

/-- An interface that is there is collected, -/
theorem addInterface_stays (vlanByVid : Int → Option Nat) (objects : Objects) :
    Stays (At n created) (addInterface device vlanByVid objects spec)
      (withInterface n device objects spec) := by
  obtain ⟨e, hunder, -⟩ := object_of_applied hspec happlied
  unfold withInterface
  rw [hunder]
  exact ((ensure_stays hunder rfl).bind (Stays.pure (Iface.read e))).bind (Stays.pure _)

variable (hdevice : IdAt n .device (.text fx.assetTag) device) (hholds : ∀ w ∈ references fx, Holds n w)

include hdevice hholds

/-- and the passes find everything as it should be: the members, -/
theorem wireMembers_stays :
    Stays (At n created) (wireMembers refreshes (objectsIn n device fx.interfaces) spec)
    (objectsIn n device fx.interfaces) := by
  unfold wireMembers
  split
  · exact Stays.pure _
  · obtain ⟨lag, hlag, hobject⟩ := object_of_applied hspec happlied
    refine (objectOf_stays hobject).bind (Stays.foldlM_fixed ?_)
    intro member hmember
    have hw : (⟨fx.assetTag, .lag, member, spec.name⟩ : Reference) ∈ references fx :=
      mem_references_of_wire hspec (List.mem_append_left _ (mem_memberReferences.mpr ⟨member, hmember, rfl⟩))
    exact setRefOf_stays_of_holds (hholds _ hw) (happlied.known _ hw) hdevice ⟨lag.2, hlag⟩

/-- the parent, -/
theorem wireParent_stays : Stays (At n created) (wireParent refreshes (objectsIn n device fx.interfaces) spec)
    (objectsIn n device fx.interfaces) := by
  unfold wireParent
  cases hparent : truthy spec.parent with
  | none => exact Stays.pure _
  | some parent =>
    have hw : (⟨fx.assetTag, .parent, spec.name, parent⟩ : Reference) ∈ references fx :=
      mem_references_of_wire hspec (List.mem_append_right _ (mem_parentReferences.mpr ⟨parent, hparent, rfl⟩))
    have hknown := happlied.known _ hw
    obtain ⟨child, -, hchild⟩ := object_of_applied hspec happlied
    obtain ⟨parentSpec, hparentSpec, hname⟩ := List.mem_map.mp (hknown.2.resolve_left (by intro h; cases h))
    obtain ⟨e, hunder, hobject⟩ := object_of_applied hparentSpec happlied
    rw [hname] at hunder hobject
    refine (objectOf_stays hchild).bind ((objectOf_stays hobject).bind ?_)
    exact setRefOf_stays_of_holds (hholds _ hw) hknown hdevice ⟨e.2, hunder⟩

/-- both, -/
theorem wireRelationships_stays :
    Stays (At n created) (wireRelationships refreshes (objectsIn n device fx.interfaces) spec)
      (objectsIn n device fx.interfaces) :=
  (wireMembers_stays hspec happlied hdevice hholds).bind (wireParent_stays hspec happlied hdevice hholds)

/-- the MAC, -/
theorem assignMac_stays : Stays (At n created) (assignMac refreshes (objectsIn n device fx.interfaces) spec)
    (objectsIn n device fx.interfaces) := by
  unfold assignMac
  cases hmac : truthy spec.mac with
  | none => exact Stays.pure _
  | some mac =>
    have hw : (⟨fx.assetTag, .primaryMacAddress, spec.name, mac⟩ : Reference) ∈ references fx :=
      mem_references_of_mac hspec (mem_macReferences.mpr ⟨mac, hmac, rfl⟩)
    obtain ⟨e, hunder, hobject⟩ := object_of_applied hspec happlied
    obtain ⟨iface, hiface, found, hfound, hcheck⟩ := happlied.macs spec hspec mac hmac
    obtain rfl := hiface.unique ⟨e.2, hunder⟩
    refine (objectOf_stays hobject).bind ((ensure_stays hfound hcheck).bind ?_)
    exact setRefOf_stays_of_holds (hholds _ hw) (happlied.known _ hw) hdevice ⟨found.2, hfound⟩

omit hdevice hholds in
/-- and the address. -/
theorem assignIp_stays : Stays (At n created) (assignIp (objectsIn n device fx.interfaces) spec)
    (objectsIn n device fx.interfaces) := by
  unfold assignIp
  cases hip : truthy spec.ip with
  | none => exact Stays.pure _
  | some ip =>
    obtain ⟨e, hunder, hobject⟩ := object_of_applied hspec happlied
    obtain ⟨iface, hiface, found, hfound, hcheck⟩ := happlied.ips spec hspec ip hip
    obtain rfl := hiface.unique ⟨e.2, hunder⟩
    exact (objectOf_stays hobject).bind ((ensure_stays hfound hcheck).bind (Stays.pure _))

end Passes

/-- So the passes over an applied fixture stay, -/
theorem applyInterfaces_stays {device : Nat} (vlanByVid : Int → Option Nat)
    (happlied : InterfacesApplied n fx device)
    (hdevice : IdAt n .device (.text fx.assetTag) device) (hholds : ∀ w ∈ references fx, Holds n w) :
    Stays (At n created) (applyInterfaces refreshes device vlanByVid fx.interfaces)
      (objectsIn n device fx.interfaces) := by
  refine Stays.bind (Stays.foldlM (fun objects spec hspec =>
    addInterface_stays hspec happlied vlanByVid objects) _) ?_
  refine Stays.bind (Stays.foldlM_fixed fun spec hspec =>
    wireRelationships_stays hspec happlied hdevice hholds) ?_
  refine Stays.bind (Stays.foldlM_fixed fun spec hspec => assignMac_stays hspec happlied hdevice hholds) ?_
  exact Stays.foldlM_fixed fun spec hspec => assignIp_stays hspec happlied

/-- and its whole application does. -/
theorem applyOne_stays (happlied : Applied n fx) (hholds : ∀ w ∈ references fx, Holds n w) :
    Stays (At n created) (applyOne refreshes fx) () := by
  obtain ⟨site, ⟨siteRow, hsite⟩, hvlans⟩ := happlied.site
  obtain ⟨manufacturer, manufacturerRow, hmanufacturer⟩ := happlied.manufacturer
  obtain ⟨deviceType, hdeviceType, htypeCheck⟩ := happlied.deviceType
  obtain ⟨role, roleRow, hrole⟩ := happlied.deviceRole
  obtain ⟨device, hdevice, hcheck, hinterfaces⟩ := happlied.device
  refine Stays.bind (ensure_stays hsite rfl) ?_
  refine Stays.bind (ensure_stays hmanufacturer rfl) ?_
  refine Stays.bind (ensure_stays hdeviceType htypeCheck) ?_
  refine Stays.bind (ensure_stays hrole rfl) ?_
  refine Stays.bind (Stays.foldlM (g := withVlan n site) ?_ _) ?_
  · intro vlanByVid vlan hvlan
    obtain ⟨found, hfound, hpass⟩ := hvlans vlan hvlan
    unfold withVlan
    rw [hfound]
    exact (ensure_stays hfound hpass).bind (Stays.pure _)
  refine Stays.bind (ensure_stays hdevice hcheck) ?_
  exact (applyInterfaces_stays _ hinterfaces ⟨device.2, hdevice⟩ hholds).bind (Stays.pure ())

/-- **On tables where all fixtures are applied a run makes nothing**, and says so. -/
theorem populate_stays (h : ∀ fx ∈ fixtures, Applied n fx ∧ ∀ w ∈ references fx, Holds n w) :
    ∃ report, populate refreshes fixtures n = .ok (report, n) ∧ report.created = [] := by
  have hstays : Stays (At n []) (fixtures.foldlM (fun _ fx => applyOne refreshes fx) ()) () :=
    Stays.foldlM_fixed fun fx hfx => applyOne_stays (h fx hfx).1 (h fx hfx).2
  obtain ⟨t, hrun, hnetbox, hcreated⟩ := hstays ⟨n, ⟨[], []⟩⟩ ⟨rfl, rfl⟩
  refine ⟨t.report, ?_, hcreated⟩
  unfold populate
  rw [hrun, ← hnetbox]

/-! ## The second run -/

/-- References that hold agree. -/
theorem target_eq_of_holds {v w : Reference} (hv : Holds n v) (hw : Holds n w) (hslot : v.slot = w.slot) :
    v.target = w.target := by
  obtain ⟨device, iface, target, hresolves, row, hrow, href⟩ := hv
  obtain ⟨device', iface', target', hresolves', row', hrow', href'⟩ := hw
  obtain ⟨htag, hrest⟩ := Prod.mk.inj hslot
  obtain ⟨hfield, hname⟩ := Prod.mk.inj hrest
  obtain rfl : device = device' := hresolves.deviceAt.unique (htag ▸ hresolves'.deviceAt)
  obtain rfl : iface = iface' := hresolves.ifaceAt.unique (hname ▸ hresolves'.ifaceAt)
  obtain rfl := Table.row_unique hrow hrow'
  obtain rfl : target = target' := Option.some.inj ((hfield ▸ href).symm.trans href')
  rw [eq_of_resolves hresolves hresolves' hfield]

/-- **A second run of `populate` does nothing exactly when no two references contradict each other.** -/
theorem populate_twice_iff {report : PopulateReport} (h : populate refreshes fixtures n = .ok (report, n')) :
    (∃ report', populate refreshes fixtures n' = .ok (report', n') ∧ report'.isNoOp = true) ↔
      Agree fixtures := by
  constructor
  · rintro ⟨report', hsecond, -⟩
    have hholds : ∀ w ∈ listed fixtures, Holds n' w := by
      intro w hw
      obtain ⟨fx, hfx, hw⟩ := List.mem_flatMap.mp hw
      -- the state in which the second run asserted it is the one it began and ended with
      obtain ⟨u, hto, hfrom, hholds⟩ := ((populate_runs hsecond).2 fx hfx).2 w hw
      rwa [steps_antisymm hto hfrom]
    intro w hw v hv hslot
    exact target_eq_of_holds (hholds v hv) (hholds w hw) hslot
  · intro hagree
    have hfirst : ∀ fx ∈ fixtures, Applied n' fx ∧ ∀ w ∈ references fx, Holds n' w := by
      intro fx hfx
      obtain ⟨happlied, hmade⟩ := (populate_runs h).2 fx hfx
      refine ⟨happlied, ?_⟩
      intro w hw
      obtain ⟨u, -, hsteps, hholds⟩ := hmade w hw
      exact Steps.holds hsteps (hagree w (mem_listed hfx hw)) hholds
    obtain ⟨report', hrun, hcreated⟩ := populate_stays hfirst
    refine ⟨report', hrun, ?_⟩
    unfold PopulateReport.isNoOp
    rw [hcreated]
    rfl

theorem populate_twice_iff_cpu : ∃ report netbox,
    populate false [cpuFixture] noObjects = .ok (report, netbox) ∧
    ∃ report', populate false [cpuFixture] netbox = .ok (report', netbox) ∧ report'.isNoOp = true := by
  obtain ⟨report, netbox, hrun⟩ := cpuFixture_populates
  exact ⟨report, netbox, hrun, (populate_twice_iff hrun).mpr (by decide +kernel)⟩

/-- A host with two bonds over one NIC. -/
def twoBonds : HostFixture where
  assetTag := "SN-1"
  hostname := "host-1"
  deviceRole := "cpu"
  site := "site03"
  deviceType := ⟨"Dell", "PowerEdge R660", "poweredge-r660", 1⟩
  vlans := []
  interfaces :=
    [{ name := "nsa", type := "200gbase-x-qsfp56" },
     { name := "bond0", type := "lag", lagMembers := ["nsa"] },
     { name := "bond1", type := "lag", lagMembers := ["nsa"] }]

/-- The second run makes two updates, and counts them as created. -/
theorem twoBonds_second_run :
    ((populate false [twoBonds] noObjects).toOption.bind fun first =>
      (populate false [twoBonds] first.2).toOption.map fun second =>
        (second.1.isNoOp, second.1.created, second.2.calls.drop first.2.calls.length)) =
      some (false, [("lag_membership", 2)], [.update .lag, .update .lag]) := by decide +kernel

end Fixtures
end HostConfig
