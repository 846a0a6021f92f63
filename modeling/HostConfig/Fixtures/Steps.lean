import Mathlib.Logic.Relation
import HostConfig.Fixtures.Populate

/-!
# `Fixtures.Steps` — what fixtures can do to Netbox

Fixtures ask for objects (`Provided`) and for references between them (`listed`). A `Step` creates one
object they ask for, under a key no object has, or writes one reference they list; it says nothing of an
order.

What steps keep is proved here for one step and then for any number of them. Objects stay under their keys,
with all but their references as they were (`Grows`). A reference that no other one of the fixtures
contradicts stays written (`steps_holds`). From an empty Netbox, every row is asked for and every reference
listed (`Mirrors`). And the log of calls grows with every step, so steps do not lead back
(`steps_antisymm`).
-/

namespace HostConfig
namespace Fixtures

open Relation

variable {fixtures : List HostFixture} {n n' : NetboxState} {k : Kind} {key key' : Key} {id id' : Nat}

/-! ## Objects under a key -/

/-- The object under the key, the only one, has this id. -/
def IdAt (n : NetboxState) (k : Kind) (key : Key) (id : Nat) : Prop := ∃ row, n.under k key = [(id, row)]

theorem mem_of_under {e : Nat × Row k} (h : n.under k key = [e]) :
    e ∈ (n.table k).rows ∧ rowKey k e.2 = some key := by
  have hmem : e ∈ n.under k key := h ▸ List.mem_singleton_self e
  obtain ⟨hrow, hkey⟩ := Table.mem_matching.mp hmem
  exact ⟨hrow, of_decide_eq_true hkey⟩

/-- The row with the id of the object under a key is that object. -/
theorem IdAt.under {row : Row k} (h : IdAt n k key id) (hrow : (id, row) ∈ (n.table k).rows) :
    n.under k key = [(id, row)] := by
  obtain ⟨row', h⟩ := h
  rw [h, Table.row_unique (mem_of_under h).1 hrow]

/-- One object is under a key, -/
theorem IdAt.unique (h : IdAt n k key id) (h' : IdAt n k key id') : id = id' := by
  obtain ⟨row, h⟩ := h
  obtain ⟨row', h'⟩ := h'
  have he : (id, row) = (id', row') := List.cons_eq_cons.mp (h.symm.trans h') |>.1
  exact congrArg Prod.fst he

/-- and an object is under one key. -/
theorem IdAt.key_unique (h : IdAt n k key id) (h' : IdAt n k key' id) : key = key' := by
  obtain ⟨row, h⟩ := h
  obtain ⟨row', h'⟩ := h'
  obtain ⟨hrow, hkey⟩ := mem_of_under h
  obtain ⟨hrow', hkey'⟩ := mem_of_under h'
  obtain rfl := Table.row_unique hrow hrow'
  exact Option.some.inj (hkey.symm.trans hkey')

theorem erase_of_ne (hk : k ≠ .interface) (row : Row k) : erase k row = row := by
  cases k <;> first | rfl | exact absurd rfl hk

@[simp] theorem erase_setRef (row : InterfaceRow) (field : RefField) (target : Nat) :
    erase .interface (row.setRef field target) = erase .interface row := rfl

@[simp] theorem rowKey_setRef (row : InterfaceRow) (field : RefField) (target : Nat) :
    rowKey .interface (row.setRef field target) = rowKey .interface row := rfl

/-! ### After a call -/

section Calls

variable {payload : Row k} {field : RefField} {target : Nat}

theorem table_create : (n.create k payload).table k = (n.table k).insert payload := Function.update_self ..

theorem table_create_of_ne {k' : Kind} (hk : k' ≠ k) : (n.create k payload).table k' = n.table k' :=
  Function.update_of_ne hk ..

theorem table_updateRef : (n.updateRef id field target).table .interface =
    (n.table .interface).modify id fun row => row.setRef field target := by
  unfold NetboxState.updateRef
  exact Function.update_self Kind.interface _ n.table

theorem table_updateRef_of_ne (hk : k ≠ .interface) : (n.updateRef id field target).table k = n.table k :=
  Function.update_of_ne hk ..

/-- A created object is under its key. -/
theorem under_create (hnew : n.under k key = []) (hkey : rowKey k payload = some key) :
    (n.create k payload).under k key = [((n.table k).next, payload)] := by
  unfold NetboxState.under at hnew ⊢
  rw [table_create, Table.matching_insert, hnew, hkey, decide_eq_true rfl]
  rfl

/-- The objects that were there are under their keys as before. -/
theorem under_create_of_under {k' : Kind} {e : Nat × Row k'} (hnew : n.under k key = [])
    (hkey : rowKey k payload = some key) (h : n.under k' key' = [e]) :
    (n.create k payload).under k' key' = [e] := by
  by_cases hk : k' = k
  · subst hk
    have hne : rowKey k' payload ≠ some key' := by
      intro hkey'
      obtain rfl := Option.some.inj (hkey.symm.trans hkey')
      rw [hnew] at h
      cases h
    unfold NetboxState.under at h ⊢
    rw [table_create, Table.matching_insert, h, decide_eq_false hne]
    rfl
  · unfold NetboxState.under at h ⊢
    rw [table_create_of_ne hk]
    exact h

theorem under_updateRef : (n.updateRef id field target).under .interface key =
    (n.under .interface key).map (Table.modifyEntry id fun row => row.setRef field target) := by
  unfold NetboxState.under
  rw [table_updateRef]
  exact Table.matching_modify (fun row => by rw [rowKey_setRef]) id

theorem under_updateRef_of_ne (hk : k ≠ .interface) :
    (n.updateRef id field target).under k key = n.under k key := by
  unfold NetboxState.under
  rw [table_updateRef_of_ne hk]

end Calls

/-! ## What fixtures ask for -/

/-- A reference as a fixture names it: the field of the interface of this name on the device with this asset
    tag should be the object named `target`. -/
structure Reference where
  assetTag : String
  field : RefField
  iface : String
  target : String
deriving DecidableEq

/-- What the reference is written to. -/
def Reference.slot (w : Reference) : String × RefField × String := (w.assetTag, w.field, w.iface)

def memberReferences (fx : HostFixture) (spec : InterfaceSpec) : List Reference :=
  spec.lagMembers.map fun member => ⟨fx.assetTag, .lag, member, spec.name⟩

def parentReferences (fx : HostFixture) (spec : InterfaceSpec) : List Reference :=
  (truthy spec.parent).toList.map fun parent => ⟨fx.assetTag, .parent, spec.name, parent⟩

def macReferences (fx : HostFixture) (spec : InterfaceSpec) : List Reference :=
  (truthy spec.mac).toList.map fun mac => ⟨fx.assetTag, .primaryMacAddress, spec.name, mac⟩

def references (fx : HostFixture) : List Reference :=
  fx.interfaces.flatMap (fun spec => memberReferences fx spec ++ parentReferences fx spec) ++
    fx.interfaces.flatMap (macReferences fx)

section References

variable {fx : HostFixture} {spec : InterfaceSpec} {w : Reference}

/-- The references of an interface: one for each member, -/
theorem mem_memberReferences : w ∈ memberReferences fx spec ↔
    ∃ member, member ∈ spec.lagMembers ∧ w = ⟨fx.assetTag, .lag, member, spec.name⟩ := by
  unfold memberReferences
  rw [List.mem_map]
  exact exists_congr fun member => and_congr Iff.rfl eq_comm

/-- one to its parent, if it has one, -/
theorem mem_parentReferences : w ∈ parentReferences fx spec ↔
    ∃ parent, truthy spec.parent = some parent ∧ w = ⟨fx.assetTag, .parent, spec.name, parent⟩ := by
  unfold parentReferences
  rw [List.mem_map]
  exact exists_congr fun parent => and_congr Option.mem_toList eq_comm

/-- one to its MAC, -/
theorem mem_macReferences : w ∈ macReferences fx spec ↔
    ∃ mac, truthy spec.mac = some mac ∧ w = ⟨fx.assetTag, .primaryMacAddress, spec.name, mac⟩ := by
  unfold macReferences
  rw [List.mem_map]
  exact exists_congr fun mac => and_congr Option.mem_toList eq_comm

/-- and these are all. -/
theorem mem_references : w ∈ references fx ↔
    (∃ spec ∈ fx.interfaces, w ∈ memberReferences fx spec ++ parentReferences fx spec) ∨
      ∃ spec ∈ fx.interfaces, w ∈ macReferences fx spec := by
  unfold references
  rw [List.mem_append, List.mem_flatMap, List.mem_flatMap]

/-- A reference to a primary MAC is one of an interface's MAC. -/
theorem mem_macReferences_of_field (hw : w ∈ references fx) (hfield : w.field = .primaryMacAddress) :
    ∃ spec ∈ fx.interfaces, w ∈ macReferences fx spec := by
  rcases mem_references.mp hw with ⟨spec, -, hw⟩ | hmac
  · rcases List.mem_append.mp hw with hw | hw
    · obtain ⟨member, -, rfl⟩ := mem_memberReferences.mp hw
      cases hfield
    · obtain ⟨parent, -, rfl⟩ := mem_parentReferences.mp hw
      cases hfield
  · exact hmac

end References

def listed (fixtures : List HostFixture) : List Reference := fixtures.flatMap references

/-- The kind of object a field refers to, and the key the fixture's name for it is. -/
def RefField.kind : RefField → Kind
  | .lag | .parent     => .interface
  | .primaryMacAddress => .macAddress

def RefField.keyOn (device : Nat) : RefField → String → Key
  | .lag, name | .parent, name => .iface device name
  | .primaryMacAddress, mac    => .text mac

/-- The names of the reference, resolved. -/
structure Resolves (n : NetboxState) (w : Reference) (device iface target : Nat) : Prop where
  deviceAt : IdAt n .device (.text w.assetTag) device
  ifaceAt : IdAt n .interface (.iface device w.iface) iface
  targetAt : IdAt n w.field.kind (w.field.keyOn device w.target) target

/-- The reference is written. -/
def Holds (n : NetboxState) (w : Reference) : Prop :=
  ∃ device iface target, Resolves n w device iface target ∧
    ∃ row, (iface, row) ∈ (n.table .interface).rows ∧ row.refs w.field = some target

/-- No reference the fixtures list contradicts this one. -/
def Uncontested (fixtures : List HostFixture) (w : Reference) : Prop :=
  ∀ v ∈ listed fixtures, v.slot = w.slot → v.target = w.target

/-- The row is of an object some fixture asks for. -/
def Provided (fixtures : List HostFixture) (n : NetboxState) : (k : Kind) → Row k → Prop
  | .site, row         => ∃ fx ∈ fixtures, row.slug = fx.site
  | .manufacturer, row => ∃ fx ∈ fixtures, row.slug = slugify fx.deviceType.manufacturer
  | .deviceType, row   => ∃ fx ∈ fixtures, row.slug = fx.deviceType.slug
  | .deviceRole, row   => ∃ fx ∈ fixtures, row.slug = fx.deviceRole
  | .vlan, row         => ∃ fx ∈ fixtures, ∃ vlan ∈ fx.vlans, row.vid = vlan.vid ∧ row.name = vlan.name
  | .device, row       => ∃ fx ∈ fixtures, row.assetTag = some fx.assetTag ∧ row.name = some fx.hostname ∧
      ∃ role, row.role = some role ∧ IdAt n .deviceRole (.text fx.deviceRole) role
  | .interface, row    =>
    ∃ fx ∈ fixtures, ∃ spec ∈ fx.interfaces, IdAt n .device (.text fx.assetTag) row.device ∧
      row.name = spec.name ∧ row.mtu = nonzero spec.mtu ∧ row.customFields = spec.customFields ∧
      ∀ vlan, row.untaggedVlan = some vlan →
        ∃ site vid, spec.untaggedVlan = some vid ∧ IdAt n .vlan (.vid site vid) vlan
  | .macAddress, row   => ∃ fx ∈ fixtures, ∃ spec ∈ fx.interfaces, truthy spec.mac = some row.macAddress ∧
      row.assignedObjectType = some "dcim.interface" ∧ ∃ device iface, IdAt n .device (.text fx.assetTag) device ∧
        IdAt n .interface (.iface device spec.name) iface ∧ row.assignedObjectId = some iface
  | .ipAddress, row    => ∃ fx ∈ fixtures, ∃ spec ∈ fx.interfaces, truthy spec.ip = some row.address ∧
      row.assignedObjectType = some "dcim.interface" ∧ ∃ device iface, IdAt n .device (.text fx.assetTag) device ∧
        IdAt n .interface (.iface device spec.name) iface ∧ row.assignedObjectId = some iface

/-- One call that fixtures ask for. -/
inductive Step (fixtures : List HostFixture) : NetboxState → NetboxState → Prop
  | create {n : NetboxState} {k : Kind} {key : Key} {payload : Row k} (hnew : n.under k key = [])
      (hkey : rowKey k payload = some key) (herase : erase k payload = payload)
      (hprovided : Provided fixtures n k payload) : Step fixtures n (n.create k payload)
  | assign {n : NetboxState} {w : Reference} {device iface target : Nat} (hw : w ∈ listed fixtures)
      (hresolves : Resolves n w device iface target) : Step fixtures n (n.updateRef iface w.field target)

abbrev Steps (fixtures : List HostFixture) : NetboxState → NetboxState → Prop := ReflTransGen (Step fixtures)

/-! ## Objects stay -/

/-- Every object is still under its key, and has at most other references. -/
def Grows (n n' : NetboxState) : Prop :=
  ∀ k key id row, n.under k key = [(id, row)] → ∃ row', n'.under k key = [(id, row')] ∧
    erase k row' = erase k row

/-- No step removes an object or changes what it was made with, -/
theorem Step.grows (h : Step fixtures n n') : Grows n n' := by
  intro k key id row hunder
  cases h with
  | create hnew hkey herase hprovided => exact ⟨row, under_create_of_under hnew hkey hunder, rfl⟩
  | @assign w device iface target hw hresolves =>
    by_cases hk : k = .interface
    · subst hk
      rw [under_updateRef, hunder, List.map_singleton]
      by_cases hid : id = iface
      · subst hid
        exact ⟨row.setRef w.field target, by rw [Table.modifyEntry_mk], erase_setRef row w.field target⟩
      · exact ⟨row, by rw [Table.modifyEntry_of_ne _ hid], rfl⟩
    · exact ⟨row, (under_updateRef_of_ne hk).trans hunder, rfl⟩

/-- and no run does. -/
theorem Steps.grows (h : Steps fixtures n n') : Grows n n' := by
  induction h with
  | refl => exact fun k key id row hunder => ⟨row, hunder, rfl⟩
  | tail _ hstep ih =>
    intro k key id row hunder
    obtain ⟨row', hunder', herase'⟩ := ih k key id row hunder
    obtain ⟨row'', hunder'', herase''⟩ := hstep.grows k key id row' hunder'
    exact ⟨row'', hunder'', herase''.trans herase'⟩

/-- So an id stays under its key. -/
theorem IdAt.grows (hgrows : Grows n n') (h : IdAt n k key id) : IdAt n' k key id := by
  obtain ⟨row, hunder⟩ := h
  obtain ⟨row', hunder', -⟩ := hgrows k key id row hunder
  exact ⟨row', hunder'⟩

/-- An object that is not an interface stays as it is. -/
theorem under_grows {e : Nat × Row k} (hgrows : Grows n n') (hk : k ≠ .interface) (h : n.under k key = [e]) :
    n'.under k key = [e] := by
  obtain ⟨row', hunder', herase⟩ := hgrows k key e.1 e.2 h
  rw [erase_of_ne hk, erase_of_ne hk] at herase
  rw [hunder', herase]

/-- A reference resolves as before, -/
theorem Resolves.grows {w : Reference} {device iface target : Nat} (hgrows : Grows n n')
    (h : Resolves n w device iface target) : Resolves n' w device iface target :=
  ⟨h.deviceAt.grows hgrows, h.ifaceAt.grows hgrows, h.targetAt.grows hgrows⟩

/-- and what the fixtures provide stays so. -/
theorem Provided.grows {row : Row k} (hgrows : Grows n n') (h : Provided fixtures n k row) :
    Provided fixtures n' k row := by
  cases k with
  | device =>
    obtain ⟨fx, hfx, htag, hname, role, hrole, hat⟩ := h
    exact ⟨fx, hfx, htag, hname, role, hrole, hat.grows hgrows⟩
  | interface =>
    obtain ⟨fx, hfx, spec, hspec, hdevice, hname, hmtu, hfields, hvlan⟩ := h
    refine ⟨fx, hfx, spec, hspec, hdevice.grows hgrows, hname, hmtu, hfields, ?_⟩
    intro vlan hv
    obtain ⟨site, vid, hvid, hat⟩ := hvlan vlan hv
    exact ⟨site, vid, hvid, hat.grows hgrows⟩
  | macAddress =>
    obtain ⟨fx, hfx, spec, hspec, hmac, htype, device, iface, hdevice, hiface, hassigned⟩ := h
    exact ⟨fx, hfx, spec, hspec, hmac, htype, device, iface, hdevice.grows hgrows,
      hiface.grows hgrows, hassigned⟩
  | ipAddress =>
    obtain ⟨fx, hfx, spec, hspec, hip, htype, device, iface, hdevice, hiface, hassigned⟩ := h
    exact ⟨fx, hfx, spec, hspec, hip, htype, device, iface, hdevice.grows hgrows,
      hiface.grows hgrows, hassigned⟩
  | site | manufacturer | deviceType | deviceRole | vlan => exact h

/-! ## References stay -/

/-- The names of a reference resolve in one way. -/
theorem Resolves.unique {w : Reference} {device iface target device' iface' target' : Nat}
    (h : Resolves n w device iface target) (h' : Resolves n w device' iface' target') :
    device = device' ∧ iface = iface' ∧ target = target' := by
  obtain rfl := h.deviceAt.unique h'.deviceAt
  exact ⟨rfl, h.ifaceAt.unique h'.ifaceAt, h.targetAt.unique h'.targetAt⟩

/-- A name is looked up under a key of its own. -/
theorem keyOn_inj {field : RefField} {device : Nat} {a b : String}
    (h : field.keyOn device a = field.keyOn device b) : a = b := by
  cases field <;> cases h <;> rfl

/-- References that are written to the same place name it alike, -/
theorem slot_eq_of_resolves {v w : Reference} {device iface target device' target' : Nat}
    (hv : Resolves n v device iface target) (hw : Resolves n w device' iface target')
    (hfield : v.field = w.field) : v.slot = w.slot := by
  obtain ⟨rfl, hname⟩ := Key.iface.inj (hv.ifaceAt.key_unique hw.ifaceAt)
  have htag := Key.text.inj (hv.deviceAt.key_unique hw.deviceAt)
  unfold Reference.slot
  rw [htag, hfield, hname]

/-- and name the same object if that is the same. -/
theorem eq_of_resolves {v w : Reference} {device iface target device' : Nat}
    (hv : Resolves n v device iface target) (hw : Resolves n w device' iface target)
    (hfield : v.field = w.field) : v = w := by
  obtain ⟨rfl, hname⟩ := Key.iface.inj (hv.ifaceAt.key_unique hw.ifaceAt)
  have htag := Key.text.inj (hv.deviceAt.key_unique hw.deviceAt)
  obtain ⟨tag, field, iface', target'⟩ := v
  obtain ⟨tag', field', iface'', target''⟩ := w
  obtain rfl : field = field' := hfield
  obtain rfl := keyOn_inj (hv.targetAt.key_unique hw.targetAt)
  obtain rfl : tag = tag' := htag
  obtain rfl : iface' = iface'' := hname
  rfl

theorem mem_rows_updateRef {id : Nat} {row : InterfaceRow} (iface : Nat) (field : RefField) (target : Nat)
    (h : (id, row) ∈ (n.table .interface).rows) :
    (id, if id = iface then row.setRef field target else row) ∈
      ((n.updateRef iface field target).table .interface).rows := by
  rw [table_updateRef]
  refine Table.mem_modify.mpr ⟨(id, row), h, ?_⟩
  by_cases hid : id = iface
  · subst hid
    rw [Table.modifyEntry_mk, if_pos rfl]
  · rw [Table.modifyEntry_of_ne _ hid, if_neg hid]

theorem setRef_self (row : InterfaceRow) (field : RefField) (target : Nat) :
    (row.setRef field target).refs field = some target := Function.update_self ..

theorem setRef_of_ne (row : InterfaceRow) {field field' : RefField} (target : Nat) (h : field' ≠ field) :
    (row.setRef field target).refs field' = row.refs field' := Function.update_of_ne h ..

/-- Writing a reference makes it hold. -/
theorem Resolves.holds {w : Reference} {device iface target : Nat} (h : Resolves n w device iface target)
    (hgrows : Grows n (n.updateRef iface w.field target)) : Holds (n.updateRef iface w.field target) w := by
  obtain ⟨row, hunder⟩ := h.ifaceAt
  refine ⟨device, iface, target, h.grows hgrows, row.setRef w.field target, ?_,
    setRef_self row w.field target⟩
  have hmem := mem_rows_updateRef iface w.field target (mem_of_under hunder).1
  rwa [if_pos rfl] at hmem

/-- A reference that holds and is not contested is not written otherwise. -/
theorem Step.holds {w : Reference} (h : Step fixtures n n') (hw : Uncontested fixtures w)
    (hholds : Holds n w) : Holds n' w := by
  have hgrows := h.grows
  obtain ⟨device, iface, target, hresolves, row, hrow, href⟩ := hholds
  cases h with
  | @create k key payload hnew hkey herase hprovided =>
    have hunder := under_create_of_under hnew hkey (hresolves.ifaceAt.under hrow)
    exact ⟨device, iface, target, hresolves.grows hgrows, row, (mem_of_under hunder).1, href⟩
  | @assign v device' iface' target' hv hwritten =>
    have hmem := mem_rows_updateRef iface' v.field target' hrow
    refine ⟨device, iface, target, hresolves.grows hgrows, _, hmem, ?_⟩
    by_cases hiface : iface = iface'
    · subst hiface
      rw [if_pos rfl]
      by_cases hfield : v.field = w.field
      · -- the write is to the slot of `w`: it agrees
        have hslot := slot_eq_of_resolves hwritten hresolves hfield
        obtain rfl : v = w := by
          have htarget := hw v hv hslot
          obtain ⟨tag, rest⟩ := Prod.mk.inj hslot
          obtain ⟨-, hname⟩ := Prod.mk.inj rest
          cases v
          cases w
          congr
        obtain ⟨-, -, rfl⟩ := hwritten.unique hresolves
        exact setRef_self row v.field target'
      · rw [setRef_of_ne row target' (Ne.symm hfield)]
        exact href
    · rw [if_neg hiface]
      exact href

/-- **A reference no other contradicts stays written.** -/
theorem Steps.holds {w : Reference} (h : Steps fixtures n n') (hw : Uncontested fixtures w)
    (hholds : Holds n w) : Holds n' w := by
  induction h with
  | refl => exact hholds
  | tail _ hstep ih => exact hstep.holds hw ih

/-! ## Netbox mirrors the fixtures -/

/-- All rows are asked for and all references listed. -/
structure Mirrors (fixtures : List HostFixture) (n : NetboxState) : Prop where
  provided : ∀ k, ∀ e ∈ (n.table k).rows, Provided fixtures n k e.2
  refs : ∀ e ∈ (n.table .interface).rows, ∀ field target, e.2.refs field = some target →
    ∃ w ∈ listed fixtures, w.field = field ∧ ∃ device, Resolves n w device e.1 target

/-- Empty tables hold nothing of which the fixtures do not speak. -/
theorem mirrors_of_empty (h : n.Empty) : Mirrors fixtures n := by
  constructor
  · intro k e he
    rw [h k] at he
    exact absurd he List.not_mem_nil
  · intro e he
    rw [h .interface] at he
    exact absurd he List.not_mem_nil

theorem refs_of_erase {row : InterfaceRow} (h : erase .interface row = row) (field : RefField) :
    row.refs field = none := by
  rw [← h]
  rfl

theorem Step.mirrors (h : Step fixtures n n') (hn : Mirrors fixtures n) : Mirrors fixtures n' := by
  have hgrows := h.grows
  cases h with
  | @create k key payload hnew hkey herase hprovided =>
    constructor
    · intro k' e he
      refine Provided.grows hgrows ?_
      by_cases hk : k' = k
      · subst hk
        rw [table_create] at he
        rcases Table.mem_insert.mp he with he | rfl
        · exact hn.provided k' e he
        · exact hprovided
      · rw [table_create_of_ne hk] at he
        exact hn.provided k' e he
    · intro e he field target href
      -- a row with a reference is an old one: what is created has none
      have hold : e ∈ (n.table .interface).rows := by
        by_cases hk : k = .interface
        · subst hk
          rw [table_create] at he
          rcases Table.mem_insert.mp he with he | rfl
          · exact he
          · rw [refs_of_erase herase field] at href
            cases href
        · rwa [table_create_of_ne (Ne.symm hk)] at he
      obtain ⟨w, hw, hfield, device, hresolves⟩ := hn.refs e hold field target href
      exact ⟨w, hw, hfield, device, hresolves.grows hgrows⟩
  | @assign v device iface target hv hresolves =>
    constructor
    · intro k e he
      refine Provided.grows hgrows ?_
      by_cases hk : k = .interface
      · subst hk
        rw [table_updateRef] at he
        obtain ⟨e', he', rfl⟩ := Table.mem_modify.mp he
        have hold := hn.provided .interface e' he'
        by_cases hid : e'.1 = iface
        · -- what is asked for does not mention the references
          subst hid
          rw [Table.modifyEntry_self]
          exact hold
        · rwa [Table.modifyEntry_of_ne _ hid]
      · rw [table_updateRef_of_ne hk] at he
        exact hn.provided k e he
    · intro e he field target' href
      rw [table_updateRef] at he
      obtain ⟨e', he', rfl⟩ := Table.mem_modify.mp he
      by_cases hid : e'.1 = iface
      · subst hid
        rw [Table.modifyEntry_self] at href ⊢
        by_cases hfield : field = v.field
        · -- the reference just written is listed
          subst hfield
          obtain rfl : target = target' := Option.some.inj ((setRef_self e'.2 v.field target).symm.trans href)
          exact ⟨v, hv, rfl, device, hresolves.grows hgrows⟩
        · have hold : e'.2.refs field = some target' := (setRef_of_ne e'.2 target hfield).symm.trans href
          obtain ⟨w, hw, hwf, device', hres⟩ := hn.refs e' he' field target' hold
          exact ⟨w, hw, hwf, device', hres.grows hgrows⟩
      · rw [Table.modifyEntry_of_ne _ hid] at href ⊢
        obtain ⟨w, hw, hwf, device', hres⟩ := hn.refs e' he' field target' href
        exact ⟨w, hw, hwf, device', hres.grows hgrows⟩

/-- **What fixtures do to a Netbox they mirror, mirrors them.** -/
theorem Steps.mirrors (h : Steps fixtures n n') (hn : Mirrors fixtures n) : Mirrors fixtures n' := by
  induction h with
  | refl => exact hn
  | tail _ hstep ih => exact hstep.mirrors ih

/-! ## Steps do not lead back -/

theorem Step.calls (h : Step fixtures n n') : n'.calls.length = n.calls.length + 1 := by
  cases h <;> exact List.length_append

theorem Steps.calls_le (h : Steps fixtures n n') : n.calls.length ≤ n'.calls.length := by
  induction h with
  | refl => exact Nat.le_refl _
  | tail _ hstep ih =>
    rw [hstep.calls]
    omega

theorem steps_antisymm (h : Steps fixtures n n') (h' : Steps fixtures n' n) : n = n' := by
  cases ReflTransGen.cases_head h with
  | inl heq => exact heq
  | inr hstep =>
    obtain ⟨u, hstep, hrest⟩ := hstep
    have hu := hstep.calls
    have hun' := Steps.calls_le hrest
    have hn'n := Steps.calls_le h'
    omega

end Fixtures
end HostConfig
