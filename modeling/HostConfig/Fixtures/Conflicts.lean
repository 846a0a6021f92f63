import HostConfig.Fixtures.Runs

/-!
# `Fixtures.Conflicts` — the runs that raise nothing but conflicts

`populate` means to raise a `FixtureConflictError` and nothing else. Two more exceptions can leave it: `get`
raises where a key has two objects, and an entry that the fixture names and does not have is a `KeyError`.
`populate_raises` is the condition on the fixtures and on Netbox under which neither is: every key that is
looked up has one object at most, and the fixture has the interfaces it names.

A run does not spoil the condition. `Extends` says what becomes of the keys: objects stay under theirs, what
is new has a new id, and no key gets a second object. Keys with an id in them, those of VLANs and
interfaces, are as they were if the id is of an object that was there, and without any object if the id is
new: `Sound` is what the database sees to.
-/

namespace HostConfig
namespace Fixtures

open StateRuns Relation

variable {fixtures : List HostFixture} {fx : HostFixture} {spec : InterfaceSpec} {n n' n'' : NetboxState}
  {s : PopulateState} {k : Kind} {key : Key} {id : Nat}

/-! ## Keys -/

/-- The key has one object at most. -/
def Single (n : NetboxState) (k : Kind) (key : Key) : Prop := (n.under k key).length ≤ 1

/-- An object that is the only one of its key is not doubled. -/
theorem single_of_idAt (h : IdAt n k key id) : Single n k key := by
  obtain ⟨row, hunder⟩ := h
  unfold Single
  rw [hunder]
  exact Nat.le_refl 1

/-- An object under such a key is the only one. -/
theorem Single.under_eq {e : Nat × Row k} (h : Single n k key) (he : e ∈ n.under k key) :
    n.under k key = [e] := by
  obtain ⟨e', he'⟩ := List.length_eq_one_iff.mp (Nat.le_antisymm h (List.length_pos_of_mem he))
  rw [he', List.mem_singleton] at he
  rw [he', he]

/-- What becomes of the objects under their keys. -/
structure Extends (n n' : NetboxState) : Prop where
  next : ∀ k, (n.table k).next ≤ (n'.table k).next
  rows : ∀ k, ∀ e ∈ (n'.table k).rows,
    (∃ row, (e.1, row) ∈ (n.table k).rows ∧ rowKey k row = rowKey k e.2) ∨ (n.table k).next ≤ e.1
  idAt : ∀ k key id, IdAt n k key id → IdAt n' k key id
  single : ∀ k key, Single n k key → Single n' k key
  under_le : ∀ k key, (n.under k key).length ≤ (n'.under k key).length

theorem Extends.refl (n : NetboxState) : Extends n n where
  next _ := Nat.le_refl _
  rows _ e he := .inl ⟨e.2, he, rfl⟩
  idAt _ _ _ h := h
  single _ _ h := h
  under_le _ _ := Nat.le_refl _

theorem Extends.trans (h : Extends n n') (h' : Extends n' n'') : Extends n n'' := by
  constructor
  case next => exact fun k => Nat.le_trans (h.next k) (h'.next k)
  case rows =>
    intro k e he
    rcases h'.rows k e he with ⟨row, hrow, hkey⟩ | hnew
    · rcases h.rows k (e.1, row) hrow with ⟨row', hrow', hkey'⟩ | hnew
      · exact .inl ⟨row', hrow', hkey'.trans hkey⟩
      · exact .inr hnew
    · exact .inr (Nat.le_trans (h.next k) hnew)
  case idAt => exact fun k key id hat => h'.idAt k key id (h.idAt k key id hat)
  case single => exact fun k key hsingle => h'.single k key (h.single k key hsingle)
  case under_le => exact fun k key => Nat.le_trans (h.under_le k key) (h'.under_le k key)

/-! ### After a call -/

section Calls

variable {payload : Row k} {field : RefField} {target : Nat}

/-- Creating an object under a key changes nothing under the others. -/
theorem under_create_of_key_ne {k' : Kind} {key' : Key} (hkey : rowKey k payload = some key)
    (hne : ¬ (k' = k ∧ key' = key)) : (n.create k payload).under k' key' = n.under k' key' := by
  unfold NetboxState.under
  by_cases hk : k' = k
  · subst hk
    have hother : rowKey k' payload ≠ some key' := by
      intro hkey'
      exact hne ⟨rfl, (Option.some.inj (hkey.symm.trans hkey')).symm⟩
    rw [table_create, Table.matching_insert, decide_eq_false hother]
    exact List.append_nil _
  · rw [table_create_of_ne hk]

/-- A creation under a free key extends the tables, -/
theorem extends_create (hnew : n.under k key = []) (hkey : rowKey k payload = some key) :
    Extends n (n.create k payload) := by
  constructor
  case next =>
    intro k'
    by_cases hk : k' = k
    · subst hk
      rw [table_create]
      exact Nat.le_succ _
    · rw [table_create_of_ne hk]
  case rows =>
    intro k' e he
    by_cases hk : k' = k
    · subst hk
      rw [table_create] at he
      rcases Table.mem_insert.mp he with he | rfl
      · exact .inl ⟨e.2, he, rfl⟩
      · exact .inr (Nat.le_refl _)
    · rw [table_create_of_ne hk] at he
      exact .inl ⟨e.2, he, rfl⟩
  case idAt =>
    rintro k' key' id ⟨row, hunder⟩
    exact ⟨row, under_create_of_under hnew hkey hunder⟩
  case single =>
    intro k' key' hsingle
    -- under the key of the new row there was none
    by_cases hsame : k' = k ∧ key' = key
    · obtain ⟨rfl, rfl⟩ := hsame
      unfold Single
      rw [under_create hnew hkey]
      exact Nat.le_refl 1
    · unfold Single
      rw [under_create_of_key_ne hkey hsame]
      exact hsingle
  case under_le =>
    intro k' key'
    by_cases hsame : k' = k ∧ key' = key
    · obtain ⟨rfl, rfl⟩ := hsame
      rw [hnew]
      exact Nat.zero_le _
    · rw [under_create_of_key_ne hkey hsame]

/-- and a write leaves as many objects under each key -/
theorem length_under_updateRef (k : Kind) (key : Key) :
    ((n.updateRef id field target).under k key).length = (n.under k key).length := by
  by_cases hk : k = .interface
  · subst hk
    rw [under_updateRef, List.length_map]
  · rw [under_updateRef_of_ne hk]

/-- and so extends them, too. -/
theorem extends_updateRef : Extends n (n.updateRef id field target) := by
  constructor
  case next =>
    intro k
    by_cases hk : k = .interface
    · subst hk
      rw [table_updateRef]
      exact Nat.le_refl _
    · rw [table_updateRef_of_ne hk]
  case rows =>
    intro k e he
    by_cases hk : k = .interface
    · subst hk
      rw [table_updateRef] at he
      obtain ⟨e', he', rfl⟩ := Table.mem_modify.mp he
      left
      -- a reference is no part of the key of a row
      by_cases hid : e'.1 = id
      · subst hid
        rw [Table.modifyEntry_self]
        exact ⟨e'.2, he', (rowKey_setRef e'.2 field target).symm⟩
      · rw [Table.modifyEntry_of_ne _ hid]
        exact ⟨e'.2, he', rfl⟩
    · rw [table_updateRef_of_ne hk] at he
      exact .inl ⟨e.2, he, rfl⟩
  case idAt =>
    rintro k key id' ⟨row, hunder⟩
    by_cases hk : k = .interface
    · subst hk
      refine ⟨(Table.modifyEntry id (fun row => row.setRef field target) (id', row)).2, ?_⟩
      rw [under_updateRef, hunder, List.map_singleton]
      exact congrArg (fun e => [e]) (Prod.ext (Table.modifyEntry_fst id _ (id', row)) rfl)
    · exact ⟨row, (under_updateRef_of_ne hk).trans hunder⟩
  case single =>
    intro k key hsingle
    unfold Single
    rw [length_under_updateRef]
    exact hsingle
  case under_le =>
    intro k key
    rw [length_under_updateRef]

end Calls

/-- So does a whole run. -/
theorem Steps.extends (h : Steps fixtures n n') : Extends n n' := by
  induction h with
  | refl => exact Extends.refl n
  | tail _ hstep ih =>
    refine ih.trans ?_
    cases hstep with
    | create hnew hkey herase hprovided => exact extends_create hnew hkey
    | assign hw hresolves => exact extends_updateRef

/-! ## What the database sees to -/

/-- Ids are positive, and the objects that VLANs and interfaces refer to exist. -/
structure NetboxState.Sound (n : NetboxState) : Prop where
  positive : ∀ k, 0 < (n.table k).next ∧ ∀ e ∈ (n.table k).rows, 0 < e.1
  vlanSite : ∀ e ∈ (n.table .vlan).rows, ∀ site, e.2.site = some site → ∃ row,
    (site, row) ∈ (n.table .site).rows
  interfaceDevice : ∀ e ∈ (n.table .interface).rows, ∃ row, (e.2.device, row) ∈ (n.table .device).rows

/-- Ids stay positive. -/
theorem Extends.positive (h : Extends n n') (hn : n.Sound) : ∀ e ∈ (n'.table k).rows, 0 < e.1 := by
  intro e he
  obtain ⟨hnext, hrows⟩ := hn.positive k
  rcases h.rows k e he with ⟨row, hrow, -⟩ | hnew
  · exact hrows (e.1, row) hrow
  · exact Nat.lt_of_lt_of_le hnext hnew

/-- An object is one that was there, or new. -/
theorem Extends.old_or_new (h : Extends n n') (hsingle : Single n k key) (hat : IdAt n' k key id) :
    IdAt n k key id ∨ (n.table k).next ≤ id := by
  obtain ⟨row, hunder⟩ := hat
  obtain ⟨hmem, hkey⟩ := mem_of_under hunder
  rcases h.rows k (id, row) hmem with ⟨row', hrow', hkey'⟩ | hnew
  · -- its row had the same key before
    left
    have hold : (id, row') ∈ n.under k key :=
      Table.mem_matching.mpr ⟨hrow', decide_eq_true (hkey'.trans hkey)⟩
    exact ⟨row', hsingle.under_eq hold⟩
  · exact .inr hnew

/-- A key that no row has is that of no object. -/
theorem single_of_forall (h : ∀ e ∈ (n.table k).rows, rowKey k e.2 ≠ some key) : Single n k key := by
  have hnone : n.under k key = [] := by
    refine List.eq_nil_iff_forall_not_mem.mpr ?_
    intro e he
    obtain ⟨hrow, hkey⟩ := Table.mem_matching.mp he
    exact h e hrow (of_decide_eq_true hkey)
  unfold Single
  rw [hnone]
  exact Nat.zero_le 1

/-- A site that is not there yet has no VLANs, -/
theorem single_vlan_of_new (hn : n.Sound) {site : Nat} (hnew : (n.table .site).next ≤ site) (vid : Int) :
    Single n .vlan (.vid site vid) := by
  apply single_of_forall
  intro e he hkey
  obtain ⟨site', hsite', hkey⟩ := Option.map_eq_some_iff.mp hkey
  obtain ⟨rfl, -⟩ := Key.vid.inj hkey
  obtain ⟨row, hrow⟩ := hn.vlanSite e he site' hsite'
  have hlt : site' < (n.table .site).next := (n.table .site).lt_next (site', row) hrow
  omega

/-- and such a device no interfaces. -/
theorem single_interface_of_new (hn : n.Sound) {device : Nat} (hnew : (n.table .device).next ≤ device)
    (name : String) : Single n .interface (.iface device name) := by
  apply single_of_forall
  intro e he hkey
  obtain ⟨rfl, -⟩ := Key.iface.inj (Option.some.inj hkey)
  obtain ⟨row, hrow⟩ := hn.interfaceDevice e he
  have hlt : e.2.device < (n.table .device).next := (n.table .device).lt_next (e.2.device, row) hrow
  omega

/-! ## The condition -/

/-- The keys the fixture's objects are looked up by have one object at most. -/
structure Lookups (n : NetboxState) (fx : HostFixture) : Prop where
  site : Single n .site (.text fx.site)
  manufacturer : Single n .manufacturer (.text (slugify fx.deviceType.manufacturer))
  deviceType : Single n .deviceType (.text fx.deviceType.slug)
  deviceRole : Single n .deviceRole (.text fx.deviceRole)
  vlan : ∀ site, IdAt n .site (.text fx.site) site → ∀ vlan ∈ fx.vlans, Single n .vlan (.vid site vlan.vid)
  device : Single n .device (.text fx.assetTag)
  interface : ∀ device, IdAt n .device (.text fx.assetTag) device → ∀ spec ∈ fx.interfaces,
    Single n .interface (.iface device spec.name)
  macAddress : ∀ spec ∈ fx.interfaces, ∀ mac, truthy spec.mac = some mac → Single n .macAddress (.text mac)
  ipAddress : ∀ spec ∈ fx.interfaces, ∀ ip, truthy spec.ip = some ip → Single n .ipAddress (.text ip)

/-- Later lookups find one object at most, too. -/
theorem Lookups.vlan_later (h : Lookups n fx) (hn : n.Sound) (hextends : Extends n n') {site : Nat}
    (hat : IdAt n' .site (.text fx.site) site) {vlan : VlanSpec} (hvlan : vlan ∈ fx.vlans) :
    Single n' .vlan (.vid site vlan.vid) := by
  apply hextends.single
  rcases hextends.old_or_new h.site hat with hold | hnew
  · exact h.vlan site hold vlan hvlan
  · exact single_vlan_of_new hn hnew vlan.vid

/-- An unambiguous lookup stays so during the run, under the id the device has by then. -/
theorem Lookups.interface_later (h : Lookups n fx) (hn : n.Sound) (hextends : Extends n n') {device : Nat}
    (hat : IdAt n' .device (.text fx.assetTag) device) (hspec : spec ∈ fx.interfaces) :
    Single n' .interface (.iface device spec.name) := by
  apply hextends.single
  rcases hextends.old_or_new h.device hat with hold | hnew
  · exact h.interface device hold spec hspec
  · exact single_interface_of_new hn hnew spec.name

/-- What is the only one of its key later has not been doubled before. -/
theorem single_of_idAt_later (h : Extends n n') (hat : IdAt n' k key id) : Single n k key :=
  Nat.le_trans (h.under_le k key) (single_of_idAt hat)

/-- A passed check is of an object there is. -/
theorem Passes.idAt {check : Nat × Row k → Except FixtureExc Unit} (h : Passes n k key check) :
    ∃ id, IdAt n k key id := by
  obtain ⟨found, hunder, -⟩ := h
  exact ⟨found.1, found.2, hunder⟩

/-- Where a run has found one object under every key, there was no second one to begin with. -/
theorem lookups_of_applied (h : Extends n n') (happlied : Applied n' fx) : Lookups n fx := by
  obtain ⟨site, hsite, hvlans⟩ := happlied.site
  obtain ⟨device, hdevice, -, hinterfaces⟩ := happlied.device
  constructor
  case site => exact single_of_idAt_later h hsite
  case manufacturer => exact single_of_idAt_later h happlied.manufacturer.choose_spec
  case deviceType => exact single_of_idAt_later h happlied.deviceType.idAt.choose_spec
  case deviceRole => exact single_of_idAt_later h happlied.deviceRole.choose_spec
  case vlan =>
    intro site' hat vlan hvlan
    obtain rfl := hsite.unique (h.idAt .site _ _ hat)
    exact single_of_idAt_later h (hvlans vlan hvlan).idAt.choose_spec
  case device => exact single_of_idAt_later h ⟨device.2, hdevice⟩
  case interface =>
    intro device' hat spec hspec
    obtain rfl := IdAt.unique ⟨device.2, hdevice⟩ (h.idAt .device _ _ hat)
    exact single_of_idAt_later h (hinterfaces.interfaces spec hspec).choose_spec
  case macAddress =>
    intro spec hspec mac hmac
    obtain ⟨iface, -, hpasses⟩ := hinterfaces.macs spec hspec mac hmac
    exact single_of_idAt_later h hpasses.idAt.choose_spec
  case ipAddress =>
    intro spec hspec ip hip
    obtain ⟨iface, -, hpasses⟩ := hinterfaces.ips spec hspec ip hip
    exact single_of_idAt_later h hpasses.idAt.choose_spec

/-! ## What is raised -/

/-- The run from `s` raises conflicts only, and ends with `Q` if it returns. -/
abbrev Conflicts {α : Type} (s : PopulateState) (x : PopulateM α) (Q : α → PopulateState → Prop) : Prop :=
  Meets s x Q FixtureExc.IsConflict

/-- **`_ensure` raises nothing but its check's conflict** where the lookup is unambiguous. -/
theorem ensure_conflicts {check : Nat × Row k → Except FixtureExc Unit} {payload : Row k}
    (hsingle : Single s.netbox k key) (hkey : rowKey k payload = some key)
    (hcheck : ∀ found e, check found = .error e → e.IsConflict) :
    Conflicts s (ensure k key check payload) fun found t =>
      IdAt t.netbox k key found.1 ∧ Extends s.netbox t.netbox := by
  constructor
  case returns =>
    intro found t hrun
    unfold ensure at hrun
    split at hrun
    · rename_i hnew
      obtain ⟨rfl, rfl⟩ := Prod.mk.inj (Except.ok.inj hrun)
      exact ⟨⟨payload, under_create hnew hkey⟩, extends_create hnew hkey⟩
    · rename_i found' hunder
      split at hrun
      · cases hrun
      · obtain ⟨rfl, rfl⟩ := Prod.mk.inj (Except.ok.inj hrun)
        exact ⟨⟨found'.2, hunder⟩, Extends.refl s.netbox⟩
    · cases hrun
  case raises =>
    intro e hrun
    unfold ensure at hrun
    split at hrun
    · cases hrun
    · rename_i found hunder
      split at hrun
      · rename_i e' he'
        rw [← Except.error.inj hrun]
        exact hcheck found e' he'
      · cases hrun
    · -- `get` raises here, but there is no second object to be found
      rename_i hunder
      unfold Single at hsingle
      rw [hunder] at hsingle
      simp only [List.length_cons] at hsingle
      omega

/-- A collected name raises nothing, -/
theorem objectOf_conflicts {objects : Objects} {name : String} (h : objects name ≠ none) :
    Conflicts s (objectOf objects name) fun _ t => s = t := by
  constructor
  case returns =>
    intro iface t hrun
    exact (objectOf_eq_ok.mp hrun).2
  case raises =>
    intro e hrun
    unfold objectOf at hrun
    cases hobject : objects name with
    | none =>
      -- the `KeyError`
      exact absurd hobject h
    | some iface =>
      rw [hobject] at hrun
      cases hrun

/-- and neither does a reference that is written. -/
theorem setRef_conflicts {refreshes : Bool} {field : RefField} {iface : Iface} {target : Nat} :
    Conflicts s (setRef refreshes field iface target) fun _ t => Extends s.netbox t.netbox := by
  constructor
  case returns =>
    intro iface' t hrun
    unfold setRef at hrun
    split at hrun
    · obtain ⟨-, rfl⟩ := Prod.mk.inj (Except.ok.inj hrun)
      exact Extends.refl s.netbox
    · obtain ⟨-, rfl⟩ := Prod.mk.inj (Except.ok.inj hrun)
      exact extends_updateRef
  case raises =>
    intro e hrun
    unfold setRef at hrun
    split at hrun <;> cases hrun

/-! ### The passes -/

/-- The objects of all the fixture's interfaces are in memory. -/
def Has (fx : HostFixture) (objects : Objects) : Prop := ∀ name ∈ names fx, objects name ≠ none

/-- Refreshing a collected object keeps the others. -/
theorem Has.update {objects : Objects} (h : Has fx objects) (name : String) (iface : Iface) :
    Has fx (Function.update objects name (some iface)) := by
  intro name' hname'
  by_cases hname : name' = name
  · subst hname
    rw [Function.update_self]
    exact Option.some_ne_none iface
  · rw [Function.update_of_ne hname]
    exact h name' hname'

section Passes

variable {refreshes : Bool} {objects : Objects} {device : Nat}

/-- Each part of a host's application raises conflicts alone: a reference of a known interface, -/
theorem setRefOf_conflicts {field : RefField} {name : String} {target : Nat} (hextends : Extends n s.netbox)
    (hhas : Has fx objects) (hname : name ∈ names fx) :
    Conflicts s (setRefOf refreshes field objects name target) fun objects t =>
      Extends n t.netbox ∧ Has fx objects := by
  refine (objectOf_conflicts (hhas name hname)).bind ?_
  rintro iface _ rfl
  refine setRef_conflicts.bind ?_
  intro iface' t hst
  exact Meets.pure ⟨hextends.trans hst, hhas.update name iface'⟩

section

variable (hspec : spec ∈ fx.interfaces) (hextends : Extends n s.netbox)

include hspec hextends

/-- an interface, -/
theorem addInterface_conflicts {vlanByVid : Int → Option Nat} (hn : n.Sound) (hlookups : Lookups n fx)
    (hdevice : IdAt s.netbox .device (.text fx.assetTag) device) :
    Conflicts s (addInterface device vlanByVid objects spec) fun objects' t => Extends n t.netbox ∧
      IdAt t.netbox .device (.text fx.assetTag) device ∧
        ∃ iface, objects' = Function.update objects spec.name (some iface) := by
  have hsingle := hlookups.interface_later hn hextends hdevice hspec
  refine Meets.bind (P := fun _ t => Extends s.netbox t.netbox) ?_ ?_
  · refine Meets.bind (ensure_conflicts hsingle rfl unchecked_conflict) ?_
    rintro found t ⟨-, hst⟩
    exact Meets.pure hst
  · intro iface t hst
    exact Meets.pure ⟨hextends.trans hst, hst.idAt _ _ _ hdevice, iface, rfl⟩

variable (hhas : Has fx objects)

include hhas

/-- its members, -/
theorem wireMembers_conflicts (hknown : ∀ w ∈ references fx, Known fx w) :
    Conflicts s (wireMembers refreshes objects spec) fun objects t => Extends n t.netbox ∧
      Has fx objects := by
  unfold wireMembers
  split
  · exact Meets.pure ⟨hextends, hhas⟩
  · refine (objectOf_conflicts (hhas spec.name (List.mem_map_of_mem hspec))).bind ?_
    rintro lag _ rfl
    have hmembers : ∀ member ∈ spec.lagMembers, member ∈ names fx := by
      intro member hmember
      have hw : (⟨fx.assetTag, .lag, member, spec.name⟩ : Reference) ∈ memberReferences fx spec :=
        mem_memberReferences.mpr ⟨member, hmember, rfl⟩
      exact (hknown _ (mem_references_of_wire hspec (List.mem_append_left _ hw))).1
    -- the invariant: the members that are left are the fixture's own
    refine (Meets.foldlM (I := fun left objects t => (∀ member ∈ left, member ∈ names fx) ∧
      Extends n t.netbox ∧ Has fx objects) ?_ ⟨hmembers, hextends, hhas⟩).mono fun _ _ h => h.2
    rintro member left objects' u ⟨hleft, hu, hobjects⟩
    refine (setRefOf_conflicts hu hobjects (hleft member List.mem_cons_self)).mono ?_
    intro objects'' t h
    exact ⟨fun member' hmember' => hleft member' (List.mem_cons_of_mem _ hmember'), h⟩

/-- its parent, -/
theorem wireParent_conflicts (hknown : ∀ w ∈ references fx, Known fx w) :
    Conflicts s (wireParent refreshes objects spec) fun objects t => Extends n t.netbox ∧ Has fx objects := by
  unfold wireParent
  cases hparent : truthy spec.parent with
  | none => exact Meets.pure ⟨hextends, hhas⟩
  | some parent =>
    have hname : spec.name ∈ names fx := List.mem_map_of_mem hspec
    have hw : (⟨fx.assetTag, .parent, spec.name, parent⟩ : Reference) ∈ parentReferences fx spec :=
      mem_parentReferences.mpr ⟨parent, hparent, rfl⟩
    have htarget : parent ∈ names fx := by
      rcases (hknown _ (mem_references_of_wire hspec (List.mem_append_right _ hw))).2 with hmac | htarget
      · cases hmac
      · exact htarget
    refine (objectOf_conflicts (hhas spec.name hname)).bind ?_
    rintro child _ rfl
    refine (objectOf_conflicts (hhas parent htarget)).bind ?_
    rintro parentIface _ rfl
    exact setRefOf_conflicts hextends hhas hname

/-- both, -/
theorem wireRelationships_conflicts (hknown : ∀ w ∈ references fx, Known fx w) :
    Conflicts s (wireRelationships refreshes objects spec) fun objects t => Extends n t.netbox ∧
      Has fx objects := by
  refine (wireMembers_conflicts hspec hextends hhas hknown).bind ?_
  rintro objects' u ⟨hu, hobjects⟩
  exact wireParent_conflicts hspec hu hobjects hknown

/-- its MAC, -/
theorem assignMac_conflicts (hlookups : Lookups n fx) :
    Conflicts s (assignMac refreshes objects spec) fun objects t => Extends n t.netbox ∧ Has fx objects := by
  unfold assignMac
  cases hmac : truthy spec.mac with
  | none => exact Meets.pure ⟨hextends, hhas⟩
  | some mac =>
    have hname : spec.name ∈ names fx := List.mem_map_of_mem hspec
    refine (objectOf_conflicts (hhas spec.name hname)).bind ?_
    rintro iface _ rfl
    have hsingle := hextends.single _ _ (hlookups.macAddress spec hspec mac hmac)
    refine Meets.bind (ensure_conflicts hsingle rfl (checkMacAddress_conflict mac iface.id)) ?_
    rintro macAddress u ⟨-, hsu⟩
    exact setRefOf_conflicts (hextends.trans hsu) hhas hname

/-- and its address. -/
theorem assignIp_conflicts (hlookups : Lookups n fx) :
    Conflicts s (assignIp objects spec) fun objects t => Extends n t.netbox ∧ Has fx objects := by
  unfold assignIp
  cases hip : truthy spec.ip with
  | none => exact Meets.pure ⟨hextends, hhas⟩
  | some ip =>
    refine (objectOf_conflicts (hhas spec.name (List.mem_map_of_mem hspec))).bind ?_
    rintro iface _ rfl
    have hsingle := hextends.single _ _ (hlookups.ipAddress spec hspec ip hip)
    refine Meets.bind (ensure_conflicts hsingle rfl fun _ _ h => conflict_of_ite h) ?_
    rintro address u ⟨-, hsu⟩
    exact Meets.pure ⟨hextends.trans hsu, hhas⟩

end

/-- A pass whose iterations keep the objects in memory keeps them. -/
theorem pass_conflicts {pass : Objects → InterfaceSpec → PopulateM Objects} (hextends : Extends n s.netbox)
    (hhas : Has fx objects)
    (hpass : ∀ spec ∈ fx.interfaces, ∀ objects u, Extends n u.netbox → Has fx objects →
      Conflicts u (pass objects spec) fun objects t => Extends n t.netbox ∧ Has fx objects) :
    Conflicts s (fx.interfaces.foldlM pass objects) fun objects t => Extends n t.netbox ∧ Has fx objects := by
  refine (Meets.foldlM (I := fun left objects t => (∀ spec ∈ left, spec ∈ fx.interfaces) ∧
    Extends n t.netbox ∧ Has fx objects) ?_ ⟨fun _ h => h, hextends, hhas⟩).mono fun _ _ h => h.2
  rintro spec left objects' u ⟨hleft, hu, hobjects⟩
  refine (hpass spec (hleft spec List.mem_cons_self) objects' u hu hobjects).mono ?_
  intro objects'' t h
  exact ⟨fun spec' hspec' => hleft spec' (List.mem_cons_of_mem _ hspec'), h⟩

variable (hn : n.Sound) (hlookups : Lookups n fx) (hextends : Extends n s.netbox)

include hn hlookups hextends

/-- Pass 1 brings them there. -/
theorem addInterfaces_conflicts {vlanByVid : Int → Option Nat}
    (hdevice : IdAt s.netbox .device (.text fx.assetTag) device) :
    Conflicts s (fx.interfaces.foldlM (addInterface device vlanByVid) fun _ => none) fun objects t =>
      Extends n t.netbox ∧ Has fx objects := by
  -- the invariant: what is not in memory yet is among the interfaces that are left
  have hstart : ∀ name ∈ names fx, name ∈ fx.interfaces.map (·.name) ∨ (none : Option Iface) ≠ none :=
    fun _ h => .inl h
  refine (Meets.foldlM (I := fun left objects t => (∀ spec ∈ left, spec ∈ fx.interfaces) ∧
    (∀ name ∈ names fx, name ∈ left.map (·.name) ∨ objects name ≠ none) ∧ Extends n t.netbox ∧
      IdAt t.netbox .device (.text fx.assetTag) device) ?_ ⟨fun _ h => h, hstart, hextends, hdevice⟩).mono ?_
  · rintro spec left objects u ⟨hleft, hhas, hu, hat⟩
    refine (addInterface_conflicts (hleft spec List.mem_cons_self) hu hn hlookups hat).mono ?_
    rintro objects' t ⟨ht, hat', iface, rfl⟩
    refine ⟨fun spec' hspec' => hleft spec' (List.mem_cons_of_mem _ hspec'), ?_, ht, hat'⟩
    intro name hname
    by_cases hsame : name = spec.name
    · right
      rw [hsame, Function.update_self]
      exact Option.some_ne_none iface
    · rw [Function.update_of_ne hsame]
      rcases hhas name hname with hmem | hobject
      · rw [List.map_cons, List.mem_cons] at hmem
        exact .inl (hmem.resolve_left hsame)
      · exact .inr hobject
  · rintro objects t ⟨-, hhas, ht, -⟩
    refine ⟨ht, ?_⟩
    intro name hname
    exact (hhas name hname).resolve_left List.not_mem_nil

/-- So do the four passes, -/
theorem applyInterfaces_conflicts {vlanByVid : Int → Option Nat} (hknown : ∀ w ∈ references fx, Known fx w)
    (hdevice : IdAt s.netbox .device (.text fx.assetTag) device) :
    Conflicts s (applyInterfaces refreshes device vlanByVid fx.interfaces) fun _ t => Extends n t.netbox := by
  refine (addInterfaces_conflicts hn hlookups hextends hdevice).bind ?_
  rintro objects₁ s₁ ⟨hs₁, hhas₁⟩
  refine (pass_conflicts hs₁ hhas₁ fun spec hspec objects u hu hhas =>
    wireRelationships_conflicts hspec hu hhas hknown).bind ?_
  rintro objects₂ s₂ ⟨hs₂, hhas₂⟩
  refine (pass_conflicts hs₂ hhas₂ fun spec hspec objects u hu hhas =>
    assignMac_conflicts hspec hu hhas hlookups).bind ?_
  rintro objects₃ s₃ ⟨hs₃, hhas₃⟩
  refine (pass_conflicts hs₃ hhas₃ fun spec hspec objects u hu hhas =>
    assignIp_conflicts hspec hu hhas hlookups).mono ?_
  exact fun _ _ h => h.1

/-- and one fixture. -/
theorem applyOne_conflicts (hknown : ∀ w ∈ references fx, Known fx w) :
    Conflicts s (applyOne refreshes fx) fun _ t => Extends n t.netbox := by
  refine Meets.bind (ensure_conflicts (hextends.single _ _ hlookups.site) rfl unchecked_conflict) ?_
  rintro site s₁ ⟨hsite, hs₁⟩
  have h₁ := hextends.trans hs₁
  refine Meets.bind (ensure_conflicts (h₁.single _ _ hlookups.manufacturer) rfl unchecked_conflict) ?_
  rintro manufacturer s₂ ⟨-, hs₂⟩
  have h₂ := h₁.trans hs₂
  refine Meets.bind (ensure_conflicts (h₂.single _ _ hlookups.deviceType) rfl
    (checkDeviceType_conflict fx.deviceType)) ?_
  rintro deviceType s₃ ⟨-, hs₃⟩
  have h₃ := h₂.trans hs₃
  refine Meets.bind (ensure_conflicts (h₃.single _ _ hlookups.deviceRole) rfl unchecked_conflict) ?_
  rintro role s₄ ⟨-, hs₄⟩
  have h₄ := h₃.trans hs₄
  have hsite₄ := hs₄.idAt _ _ _ (hs₃.idAt _ _ _ (hs₂.idAt _ _ _ hsite))
  -- the VLANs of the site
  refine Meets.bind (Meets.foldlM (I := fun left _ t => (∀ vlan ∈ left, vlan ∈ fx.vlans) ∧
    Extends n t.netbox ∧
    IdAt t.netbox .site (.text fx.site) site.1) ?_ ⟨fun _ h => h, h₄, hsite₄⟩) ?_
  · rintro vlan left vlanByVid u ⟨hleft, hu, hat⟩
    have hsingle := hlookups.vlan_later hn hu hat (hleft vlan List.mem_cons_self)
    refine Meets.bind (ensure_conflicts hsingle rfl fun _ _ h => conflict_of_ite h) ?_
    rintro found t ⟨-, hut⟩
    exact Meets.pure ⟨fun vlan' hvlan' => hleft vlan' (List.mem_cons_of_mem _ hvlan'), hu.trans hut,
      hut.idAt _ _ _ hat⟩
  rintro vlanByVid s₅ ⟨-, h₅, -⟩
  refine Meets.bind (ensure_conflicts (h₅.single _ _ hlookups.device) rfl fun _ _ h => conflict_of_ite h) ?_
  rintro device s₆ ⟨hdevice, hs₆⟩
  refine (applyInterfaces_conflicts hn hlookups (h₅.trans hs₆) hknown hdevice).bind ?_
  intro _ t ht
  exact Meets.pure ht

end Passes

/-- **Where every key that is looked up has one object at most, and the fixtures have the interfaces they
    name, `populate` raises nothing but conflicts.** -/
theorem populate_raises {refreshes : Bool} {e : FixtureExc} (hn : n.Sound)
    (hlookups : ∀ fx ∈ fixtures, Lookups n fx) (hknown : ∀ fx ∈ fixtures, ∀ w ∈ references fx, Known fx w)
    (h : populate refreshes fixtures n = .error e) : e.IsConflict := by
  unfold populate at h
  split at h
  · rename_i e' hrun
    obtain rfl := Except.error.inj h
    have hloop := Meets.foldlM (E := FixtureExc.IsConflict) (s := ⟨n, ⟨[], []⟩⟩) (l := fixtures) (b := ())
      (f := fun _ fx => applyOne refreshes fx)
      (I := fun left _ t => (∀ fx ∈ left, fx ∈ fixtures) ∧ Extends n t.netbox) ?_
      ⟨fun _ h => h, Extends.refl n⟩
    · exact hloop.raises e' hrun
    · rintro fx left _ u ⟨hleft, hu⟩
      have hfx := hleft fx List.mem_cons_self
      refine (applyOne_conflicts hn (hlookups fx hfx) hu (hknown fx hfx)).mono ?_
      intro _ t ht
      exact ⟨fun fx' hfx' => hleft fx' (List.mem_cons_of_mem _ hfx'), ht⟩
  · cases h

end Fixtures
end HostConfig
