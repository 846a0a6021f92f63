import HostConfig.Fixtures.Conflicts
import HostConfig.Fixtures.Idempotence

/-!
# `Fixtures.Assignments` — MACs and addresses that are there already

A MAC or an address that Netbox does not have is created, assigned to the interface that asked for it. One
that Netbox has is left as it is, if the check lets it pass. The two checks compare the id of the object the
record is assigned to with that of the interface; neither looks at the object's type, and that of the MAC
also lets a record pass that is not assigned. And the primary MAC of an interface is the one that was set
last.

So a run that returns has done what `populate` promises (`Promised`) exactly where the records it finds are
assigned to an interface, no interface is given two MACs, and nothing else than a conflict can be raised:
`Assignable` is this condition, `assigned_iff` the theorem. `Fixtures.Faults` is about all runs.
-/

namespace HostConfig
namespace Fixtures

open Relation Traverse

variable {fixtures : List HostFixture} {fx : HostFixture} {spec : InterfaceSpec}
  {n n' : NetboxState} {k : Kind} {key : Key} {refreshes : Bool}

/-! ## The promise -/

/-- The MAC the fixture gives the interface, if any, is assigned to this interface, and its primary one. -/
def MacAssigned (n : NetboxState) (fx : HostFixture) (spec : InterfaceSpec) : Prop :=
  ∀ mac, truthy spec.mac = some mac → ∃ device iface found, IdAt n .device (.text fx.assetTag) device ∧
    IdAt n .interface (.iface device spec.name) iface ∧ n.under .macAddress (.text mac) = [found] ∧
    found.2.assignedObjectType = some "dcim.interface" ∧ found.2.assignedObjectId = some iface ∧
    Holds n ⟨fx.assetTag, .primaryMacAddress, spec.name, mac⟩

/-- The address the fixture gives the interface, if any, is assigned to this interface. -/
def IpAssigned (n : NetboxState) (fx : HostFixture) (spec : InterfaceSpec) : Prop :=
  ∀ ip, truthy spec.ip = some ip → ∃ device iface found, IdAt n .device (.text fx.assetTag) device ∧
    IdAt n .interface (.iface device spec.name) iface ∧ n.under .ipAddress (.text ip) = [found] ∧
    found.2.assignedObjectType = some "dcim.interface" ∧ found.2.assignedObjectId = some iface

def Assigned (fixtures : List HostFixture) (n : NetboxState) : Prop :=
  ∀ fx ∈ fixtures, ∀ spec ∈ fx.interfaces, MacAssigned n fx spec ∧ IpAssigned n fx spec

/-- A run that returns has assigned all MACs and addresses, one that does not has met a conflict. -/
@[irreducible] def Promised (refreshes : Bool) (fixtures : List HostFixture) (n : NetboxState) : Prop :=
  match populate refreshes fixtures n with
  | .ok (_, n') => Assigned fixtures n'
  | .error e    => e.IsConflict

/-! ## When it is kept -/

/-- The records of the fixtures' MACs and addresses that Netbox has are assigned to interfaces, whichever;
    no interface is given two MACs; and nothing but a conflict can be raised. -/
structure Assignable (fixtures : List HostFixture) (n : NetboxState) : Prop where
  lookups : ∀ fx ∈ fixtures, Lookups n fx
  known : ∀ fx ∈ fixtures, ∀ w ∈ references fx, Known fx w
  macs : ∀ fx ∈ fixtures, ∀ spec ∈ fx.interfaces, ∀ mac, truthy spec.mac = some mac →
    ∀ found, n.under .macAddress (.text mac) = [found] →
      found.2.assignedObjectType = some "dcim.interface" ∧ ∃ id, found.2.assignedObjectId = some id ∧ id ≠ 0
  ips : ∀ fx ∈ fixtures, ∀ spec ∈ fx.interfaces, ∀ ip, truthy spec.ip = some ip →
    ∀ found, n.under .ipAddress (.text ip) = [found] → found.2.assignedObjectType = some "dcim.interface"
  oneMac : ∀ fx ∈ fixtures, ∀ spec ∈ fx.interfaces, ∀ w ∈ macReferences fx spec, Uncontested fixtures w

/-! ### Records that were there, and new ones -/

/-- A row that a step brings is one the fixtures provide. -/
theorem Step.old_or_provided (h : Step fixtures n n') (hk : k ≠ .interface) :
    ∀ e ∈ (n'.table k).rows, e ∈ (n.table k).rows ∨ Provided fixtures n' k e.2 := by
  intro e he
  have hgrows := h.grows
  cases h with
  | @create k' key payload hnew hkey herase hprovided =>
    by_cases hsame : k = k'
    · subst hsame
      rw [table_create] at he
      rcases Table.mem_insert.mp he with he | rfl
      · exact .inl he
      · -- the payload
        exact .inr (hprovided.grows hgrows)
    · rw [table_create_of_ne hsame] at he
      exact .inl he
  | assign hw hresolves =>
    -- an update is of an interface
    rw [table_updateRef_of_ne hk] at he
    exact .inl he

/-- A record after the run is one from before, or one some fixture asks for. -/
theorem Steps.old_or_provided (h : Steps fixtures n n') (hk : k ≠ .interface) :
    ∀ e ∈ (n'.table k).rows, e ∈ (n.table k).rows ∨ Provided fixtures n' k e.2 := by
  induction h with
  | refl => exact fun e he => .inl he
  | tail _ hstep ih =>
    intro e he
    rcases hstep.old_or_provided hk e he with hbefore | hprovided
    · exact (ih e hbefore).imp id (Provided.grows hstep.grows)
    · exact .inr hprovided

/-- An object at the end of a run has been there before it, or is as the fixtures say. -/
theorem found_before_or_provided (h : Steps fixtures n n') (hk : k ≠ .interface) {found : Nat × Row k}
    (hunder : n'.under k key = [found]) : n.under k key = [found] ∨ Provided fixtures n' k found.2 := by
  obtain ⟨hmem, hkey⟩ := mem_of_under hunder
  rcases Steps.old_or_provided h hk found hmem with hbefore | hprovided
  · left
    have hold : found ∈ n.under k key := Table.mem_matching.mpr ⟨hbefore, decide_eq_true hkey⟩
    have hsingle : Single n k key := single_of_idAt_later (Steps.extends h) ⟨found.2, hunder⟩
    exact hsingle.under_eq hold
  · exact .inr hprovided

/-- An assigned MAC that passes the check is assigned to an object with the interface's id, -/
theorem id_of_checkMacAddress {mac : String} {iface id : Nat} {found : Nat × MacRow}
    (h : checkMacAddress mac iface found = .ok ()) (hassigned : found.2.assignedObjectId = some id)
    (hid : id ≠ 0) : id = iface := by
  unfold checkMacAddress at h
  rw [hassigned] at h
  by_contra hne
  dsimp only at h
  rw [if_pos ⟨hid, hne⟩] at h
  cases h

/-- and so is any address that does. -/
theorem id_of_checkIpAddress {ip : String} {iface : Nat} {found : Nat × IpRow}
    (h : checkIpAddress ip iface found = .ok ()) : found.2.assignedObjectId = some iface := by
  unfold checkIpAddress at h
  by_contra hne
  rw [if_pos hne] at h
  cases h

/-- Ids are counted from one. -/
theorem ne_zero_of_idAt (hn : n.Sound) (h : Extends n n') {id : Nat} (hat : IdAt n' k key id) : id ≠ 0 := by
  obtain ⟨row, hunder⟩ := hat
  have hpositive := h.positive hn (id, row) (mem_of_under hunder).1
  dsimp only at hpositive
  omega

/-! ### Runs that return -/

section Returns

variable {report : PopulateReport} (hn : n.Sound) (h : populate refreshes fixtures n = .ok (report, n'))

include hn h

/-- What the run finds or makes under a MAC ends up assigned to its interface, -/
theorem macAssigned_of_run (hassignable : Assignable fixtures n) (hfx : fx ∈ fixtures)
    (hspec : spec ∈ fx.interfaces) : MacAssigned n' fx spec := by
  intro mac hmac
  obtain ⟨hsteps, hrun⟩ := populate_runs h
  obtain ⟨happlied, hmade⟩ := hrun fx hfx
  obtain ⟨device, hdevice, -, hinterfaces⟩ := happlied.device
  obtain ⟨iface, hiface, found, hunder, hcheck⟩ := hinterfaces.macs spec hspec mac hmac
  have hw : (⟨fx.assetTag, .primaryMacAddress, spec.name, mac⟩ : Reference) ∈ macReferences fx spec :=
    mem_macReferences.mpr ⟨mac, hmac, rfl⟩
  have hprimary : Holds n' ⟨fx.assetTag, .primaryMacAddress, spec.name, mac⟩ := by
    obtain ⟨u, -, hlater, hholds⟩ := hmade _ (mem_references_of_mac hspec hw)
    -- it was written in the course of the run, and no other MAC after it
    exact Steps.holds hlater (hassignable.oneMac fx hfx spec hspec _ hw) hholds
  obtain ⟨htype, id, hid, hne⟩ : found.2.assignedObjectType = some "dcim.interface" ∧
      ∃ id, found.2.assignedObjectId = some id ∧ id ≠ 0 := by
    rcases found_before_or_provided hsteps (by decide) hunder with hbefore | hprovided
    · exact hassignable.macs fx hfx spec hspec mac hmac found hbefore
    · obtain ⟨_, _, _, _, _, htype, _, id, _, hat, hid⟩ := hprovided
      exact ⟨htype, id, hid, ne_zero_of_idAt hn (Steps.extends hsteps) hat⟩
  obtain rfl := id_of_checkMacAddress hcheck hid hne
  exact ⟨device.1, id, found, ⟨device.2, hdevice⟩, hiface, hunder, htype, hid, hprimary⟩

omit hn in
/-- and an address likewise. -/
theorem ipAssigned_of_run (hassignable : Assignable fixtures n) (hfx : fx ∈ fixtures)
    (hspec : spec ∈ fx.interfaces) : IpAssigned n' fx spec := by
  intro ip hip
  obtain ⟨hsteps, hrun⟩ := populate_runs h
  obtain ⟨device, hdevice, -, hinterfaces⟩ := (hrun fx hfx).1.device
  obtain ⟨iface, hiface, found, hunder, hcheck⟩ := hinterfaces.ips spec hspec ip hip
  have htype : found.2.assignedObjectType = some "dcim.interface" := by
    rcases found_before_or_provided hsteps (by decide) hunder with hbefore | hprovided
    · exact hassignable.ips fx hfx spec hspec ip hip found hbefore
    · obtain ⟨-, -, -, -, -, htype, -⟩ := hprovided
      exact htype
  exact ⟨device.1, iface, found, ⟨device.2, hdevice⟩, hiface, hunder, htype, id_of_checkIpAddress hcheck⟩

/-- All primary MACs hold at the end, so no interface was given two. -/
theorem assignable_of_assigned (hassigned : Assigned fixtures n') : Assignable fixtures n := by
  obtain ⟨hsteps, hrun⟩ := populate_runs h
  have hextends := Steps.extends hsteps
  constructor
  case lookups => exact fun fx hfx => lookups_of_applied hextends (hrun fx hfx).1
  case known =>
    intro fx hfx
    obtain ⟨device, -, -, hinterfaces⟩ := (hrun fx hfx).1.device
    exact hinterfaces.known
  case macs =>
    intro fx hfx spec hspec mac hmac found hbefore
    -- the record is the one that is found at the end: a run does not change it
    obtain ⟨device, iface, found', -, hiface, hunder, htype, hid, -⟩ :=
      (hassigned fx hfx spec hspec).1 mac hmac
    obtain rfl := List.singleton_inj.mp
        ((under_grows (Steps.grows hsteps) (by decide) hbefore).symm.trans hunder)
    exact ⟨htype, iface, hid, ne_zero_of_idAt hn hextends hiface⟩
  case ips =>
    intro fx hfx spec hspec ip hip found hbefore
    obtain ⟨device, iface, found', -, -, hunder, htype, -⟩ := (hassigned fx hfx spec hspec).2 ip hip
    obtain rfl := List.singleton_inj.mp
        ((under_grows (Steps.grows hsteps) (by decide) hbefore).symm.trans hunder)
    exact htype
  case oneMac =>
    have hholds : ∀ fx ∈ fixtures, ∀ spec ∈ fx.interfaces, ∀ w ∈ macReferences fx spec, Holds n' w := by
      intro fx hfx spec hspec w hw
      obtain ⟨mac, hmac, rfl⟩ := mem_macReferences.mp hw
      obtain ⟨-, -, -, -, -, -, -, -, hprimary⟩ := (hassigned fx hfx spec hspec).1 mac hmac
      exact hprimary
    intro fx hfx spec hspec w hw v hv hslot
    obtain ⟨mac, -, rfl⟩ := mem_macReferences.mp hw
    obtain ⟨fx', hfx', hv⟩ := List.mem_flatMap.mp hv
    have hfield : v.field = .primaryMacAddress := (Prod.mk.inj (Prod.mk.inj hslot).2).1
    obtain ⟨spec', hspec', hmac'⟩ := mem_macReferences_of_field hv hfield
    exact target_eq_of_holds (hholds fx' hfx' spec' hspec' v hmac') (hholds fx hfx spec hspec _ hw) hslot

/-- **A run that returns has assigned everything exactly when everything could be.** -/
theorem assigned_iff : Assigned fixtures n' ↔ Assignable fixtures n := by
  constructor
  · intro hassigned
    exact assignable_of_assigned hn h hassigned
  · intro hassignable fx hfx spec hspec
    exact ⟨macAssigned_of_run hn h hassignable hfx hspec, ipAssigned_of_run h hassignable hfx hspec⟩

end Returns

/-! ### In a Netbox without objects -/

theorem sound_noObjects : noObjects.Sound where
  positive _ := ⟨Nat.one_pos, fun _ he => absurd he List.not_mem_nil⟩
  vlanSite _ he := absurd he List.not_mem_nil
  interfaceDevice _ he := absurd he List.not_mem_nil

/-- In a Netbox without objects it is kept if the fixtures name what they have, and one
    MAC for an interface. -/
theorem assignable_noObjects (hknown : ∀ fx ∈ fixtures, ∀ w ∈ references fx, Known fx w)
    (honeMac : ∀ fx ∈ fixtures, ∀ spec ∈ fx.interfaces, ∀ w ∈ macReferences fx spec, Uncontested fixtures w) :
    Assignable fixtures noObjects := by
  have hnone : ∀ k key, noObjects.under k key = [] := fun _ _ => rfl
  have hsingle : ∀ k key, Single noObjects k key := by
    intro k key
    unfold Single
    rw [hnone]
    exact Nat.zero_le 1
  constructor
  case lookups =>
    intro fx _
    constructor
    case site | manufacturer | deviceType | deviceRole | device => exact hsingle _ _
    case vlan | interface | macAddress | ipAddress =>
      intros
      exact hsingle _ _
  case known => exact hknown
  case macs | ips =>
    intro fx _ spec _ text _ found hfound
    rw [hnone] at hfound
    cases hfound
  case oneMac => exact honeMac

end Fixtures
end HostConfig
