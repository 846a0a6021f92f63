import HostConfig.Fixtures.Calls
import HostConfig.Fixtures.Runs

/-!
# `Fixtures.Resumption` — `populate` after an interruption

A run of `populate` can end between any two calls: the process is killed, or Netbox does not answer. What it
made until then stays. `populate_resumes` is that running it again is enough, however often that happens:
the last run ends as one run without interruptions would have, in the same exception or with the same
objects, ids and references.

A second run is `Behind` the first one. The objects the first one made are there for it (`Alike`), so it
creates none; references may be later ones than the first run had at this point, and are written once more
where they are. That the two runs have the same objects in memory, and that a reference which is skipped is
there (`Coherent`), is what carries the argument.
-/

namespace HostConfig
namespace Fixtures

open StateRuns Relation

variable {n n' n'' : NetboxState} {k : Kind} {key : Key}

/-! ## Netbox but for the references -/

/-- The objects are the same but for the references between them. -/
def Alike (n n' : NetboxState) : Prop := ∀ k, (n.table k).view (erase k) = (n'.table k).view (erase k)

/-- The reference of the interface with this id. -/
def NetboxState.refAt (n : NetboxState) (id : Nat) (field : RefField) : Option Nat :=
  ((n.table .interface).find id).bind (·.refs field)

@[simp] theorem rowKey_erase (row : Row k) : rowKey k (erase k row) = rowKey k row := by cases k <;> rfl

namespace Alike

theorem refl (n : NetboxState) : Alike n n := fun _ => rfl

theorem symm (h : Alike n n') : Alike n' n := fun k => (h k).symm

theorem trans (h : Alike n n') (h' : Alike n' n'') : Alike n n'' := fun k => (h k).trans (h' k)

/-- Tables that differ in references have the same objects under each key, up to these, -/
theorem under (h : Alike n n') (k : Kind) (key : Key) :
    ((n.under k key).map fun e => (e.1, erase k e.2)) = (n'.under k key).map fun e => (e.1, erase k e.2) := by
  unfold NetboxState.under
  rw [Table.matching_view (by simp), Table.matching_view (by simp), h k]

theorem grows (h : Alike n n') : Grows n n' := by
  intro k key id row hunder
  have hmap := h.under k key
  rw [hunder, List.map_singleton, eq_comm, List.map_eq_singleton_iff] at hmap
  obtain ⟨⟨id', row'⟩, hunder', he⟩ := hmap
  obtain ⟨rfl, herase⟩ := Prod.mk.inj he
  exact ⟨row', hunder', herase⟩

/-- so a free key is free in both, -/
theorem under_eq_nil (h : Alike n n') (hnew : n.under k key = []) : n'.under k key = [] := by
  have hmap := h.under k key
  rw [hnew, List.map_nil, eq_comm, List.map_eq_nil_iff] at hmap
  exact hmap

/-- and the objects of other kinds are the same. -/
theorem under_of_ne (h : Alike n n') (hk : k ≠ .interface) : n.under k key = n'.under k key := by
  have hmap := h.under k key
  simpa [erase_of_ne hk] using hmap

/-- A creation keeps them alike, as both give the same id, -/
theorem create (h : Alike n n') (payload : Row k) : Alike (n.create k payload) (n'.create k payload) := by
  intro k'
  by_cases hk : k' = k
  · subst hk
    rw [table_create, table_create, Table.view_insert, Table.view_insert, h k']
  · rw [table_create_of_ne hk, table_create_of_ne hk]
    exact h k'

/-- and a write of a reference makes no difference. -/
theorem updateRef (n : NetboxState) (id : Nat) (field : RefField) (target : Nat) :
    Alike (n.updateRef id field target) n := by
  intro k
  by_cases hk : k = .interface
  · subst hk
    rw [table_updateRef, Table.view_modify (fun row => erase_setRef row field target)]
  · rw [table_updateRef_of_ne hk]

/-- A key of several objects is one in both. -/
theorem under_many (h : Alike n n') {a b : Nat × Row k} {l : List (Nat × Row k)}
    (hmany : n.under k key = a :: b :: l) : ∃ a' b' l', n'.under k key = a' :: b' :: l' := by
  have hmap := h.under k key
  rw [hmany, List.map_cons, List.map_cons, eq_comm] at hmap
  obtain ⟨a', l₁, ha', -, hl₁⟩ := List.map_eq_cons_iff.mp hmap
  obtain ⟨b', l', hb', -, -⟩ := List.map_eq_cons_iff.mp hl₁
  exact ⟨a', b', l', by rw [ha', hb']⟩

theorem next (h : Alike n n') (k : Kind) : (n.table k).next = (n'.table k).next := congrArg Prod.fst (h k)

/-- With the references, the objects are the same. -/
theorem table_eq (h : Alike n n') (hrefs : ∀ id field, n.refAt id field = n'.refAt id field) :
    n.table = n'.table := by
  funext k
  refine Table.eq_of_view (h k) ?_
  intro id row row' hrow hrow' herase
  by_cases hk : k = .interface
  · subst hk
    have hfields : row.refs = row'.refs := by
      funext field
      have href := hrefs id field
      unfold NetboxState.refAt at href
      rwa [hrow, hrow'] at href
    cases row
    cases row'
    simp only [erase, InterfaceRow.mk.injEq] at herase hfields ⊢
    simp [herase, hfields]
  · rwa [erase_of_ne hk, erase_of_ne hk] at herase

end Alike

/-! ### After a call -/

/-- A new object has no references yet. -/
theorem refAt_create {payload : Row k} (herase : erase k payload = payload) (id : Nat) (field : RefField) :
    (n.create k payload).refAt id field = n.refAt id field := by
  unfold NetboxState.refAt
  by_cases hk : k = .interface
  · subst hk
    rw [table_create, Table.find_insert]
    split
    · rename_i hid
      rw [hid, Table.find_next]
      exact refs_of_erase herase field
    · rfl
  · rw [table_create_of_ne (Ne.symm hk)]

/-- A write sets one reference, and no other. -/
theorem refAt_updateRef {id : Nat} {row : InterfaceRow} (hrow : (id, row) ∈ (n.table .interface).rows)
    (field : RefField) (target id' : Nat) (field' : RefField) :
    (n.updateRef id field target).refAt id' field' =
      if id' = id ∧ field' = field then some target else n.refAt id' field' := by
  unfold NetboxState.refAt
  rw [table_updateRef, Table.find_modify]
  by_cases hid : id' = id
  · subst hid
    rw [Table.find_eq_some.mpr hrow]
    by_cases hfield : field' = field
    · subst hfield
      simp [setRef_self]
    · simp [hfield, setRef_of_ne row target hfield]
  · simp [hid]

theorem refAt_of_under {id : Nat} {row : InterfaceRow} (h : n.under .interface key = [(id, row)])
    (field : RefField) :
    n.refAt id field = row.refs field := by
  unfold NetboxState.refAt
  rw [Table.find_eq_some.mpr (mem_of_under h).1]
  rfl

theorem Grows.trans (h : Grows n n') (h' : Grows n' n'') : Grows n n'' := by
  intro k key id row hunder
  obtain ⟨row', hunder', herase'⟩ := h k key id row hunder
  obtain ⟨row'', hunder'', herase''⟩ := h' k key id row' hunder'
  exact ⟨row'', hunder'', herase''.trans herase'⟩

theorem Keeps.grows (h : Keeps n n') : Grows n n' := fun k key id row hunder =>
    ⟨row, h k key (id, row) hunder, rfl⟩

/-! ## What a demand does -/

/-- The objects in memory are of rows, and read no reference as one the row does not have. -/
def Coherent (s : Session) : Prop := ∃ names, Tracks s.netbox s.device names s.objects

/-- At most an object without references is new. -/
structure Added (n n' : NetboxState) : Prop where
  keeps : Keeps n n'
  refs : ∀ id field, n'.refAt id field = n.refAt id field

section Demands

variable {refreshes : Bool} {s u : Session}

theorem Added.refl (n : NetboxState) : Added n n := ⟨fun _ _ _ h => h, fun _ _ => rfl⟩

/-- What `_ensure` returns is alone under its key and passes its check; nothing else is added. -/
theorem ensure_adds {check : Nat × Row k → Except FixtureExc Unit} {payload : Row k} {found : Nat × Row k}
    {s t : PopulateState} (hkey : rowKey k payload = some key) (herase : erase k payload = payload)
    (hpasses : ∀ id, check (id, payload) = .ok ()) (h : ensure k key check payload s = .ok (found, t)) :
    t.netbox.under k key = [found] ∧ check found = .ok () ∧ Added s.netbox t.netbox := by
  unfold ensure at h
  split at h
  · rename_i hnew
    obtain ⟨rfl, rfl⟩ := Prod.mk.inj (Except.ok.inj h)
    exact ⟨under_create hnew hkey, hpasses _, fun _ _ _ hunder => under_create_of_under hnew hkey hunder,
      refAt_create herase⟩
  · rename_i found' hunder
    split at h
    · cases h
    · rename_i hpass
      obtain ⟨rfl, rfl⟩ := Prod.mk.inj (Except.ok.inj h)
      exact ⟨hunder, hpass, .refl _⟩
  · cases h

/-- `_ensure` by what is under the key: an object that passes is skipped, -/
theorem ensure_of_under {check : Nat × Row k → Except FixtureExc Unit} {payload : Row k} {found : Nat × Row k}
    {s : PopulateState} (hunder : s.netbox.under k key = [found]) (hpass : check found = .ok ()) :
    ensure k key check payload s = .ok (found, { s with report := s.report.addSkipped k.name }) := by
  unfold ensure
  simp [hunder, hpass]

/-- a free key is created under, -/
theorem ensure_of_new (check : Nat × Row k → Except FixtureExc Unit) (payload : Row k) {s : PopulateState}
    (hnew : s.netbox.under k key = []) : ensure k key check payload s =
      .ok (((s.netbox.table k).next, payload), ⟨s.netbox.create k payload, s.report.addCreated k.name⟩) := by
  unfold ensure
  rw [hnew]

/-- and several objects are an error. -/
theorem ensure_of_many {check : Nat × Row k → Except FixtureExc Unit} {payload : Row k} {s : PopulateState}
    {a b : Nat × Row k} {l : List (Nat × Row k)} (hmany : s.netbox.under k key = a :: b :: l) :
    ensure k key check payload s = .error .valueError := by
  unfold ensure
  rw [hmany]

theorem Wanted.erase (wanted : Wanted k) : Fixtures.erase k wanted.payload = wanted.payload :=
  erase_of_ne wanted.kind wanted.payload

/-- An interface is in memory. -/
theorem Tracks.add {device : Nat} {names : List String} {objects : Objects} {name : String}
    {e : Nat × InterfaceRow}
    (h : Tracks n device names objects) (hunder : n.under .interface (.iface device name) = [e]) :
    Tracks n device (name :: names) (Function.update objects name (some (Iface.read e))) := by
  intro name' iface' hiface'
  by_cases hname : name' = name
  · subst hname
    rw [Function.update_self] at hiface'
    obtain rfl := Option.some.inj hiface'
    exact ⟨List.mem_cons_self, e.2, hunder, fun field id hid => by simpa [Iface.read] using hid⟩
  · rw [Function.update_of_ne hname] at hiface'
    obtain ⟨hmem, hrow⟩ := h name' iface' hiface'
    exact ⟨List.mem_cons_of_mem name hmem, hrow⟩

/-- What setting a reference does, whether it is skipped or written. -/
structure SetsRef (n n' : NetboxState) (device : Nat) (objects : Objects) (name : String)
    (iface iface' : Iface) (field : RefField) (target : Nat) : Prop where
  id : iface'.id = iface.id
  alike : Alike n' n
  tracks : ∀ names, Tracks n device names objects →
    Tracks n' device names (Function.update objects name (some iface'))
  refs : ∀ id field', n'.refAt id field' = if id = iface.id ∧
    field' = field then some target else n.refAt id field'

/-- A reference of a collected interface is set, whatever it was. -/
theorem setRef_sets (refreshes : Bool) (field : RefField) (target : Nat) {name : String} {device : Nat}
    {objects : Objects} {iface : Iface} {names : List String} {s : PopulateState}
    (htracks : Tracks s.netbox device names objects) (hiface : objects name = some iface) :
    ∃ iface' t, setRef refreshes field iface target s = .ok (iface', t) ∧
      SetsRef s.netbox t.netbox device objects name iface iface' field target := by
  obtain ⟨-, row, hunder, hrefs⟩ := htracks name iface hiface
  unfold setRef
  split
  · -- skipped: the row has the reference
    rename_i hcurrent
    refine ⟨_, _, rfl, rfl, .refl _, ?_, ?_⟩
    · intro names' htracks'
      rwa [Function.update_eq_self_iff.mpr hiface.symm]
    · intro id field'
      split
      · rename_i h
        obtain ⟨rfl, rfl⟩ := h
        rw [refAt_of_under hunder]
        exact hrefs field' target hcurrent
      · rfl
  · exact ⟨_, _, rfl, rfl, .updateRef _ _ _ _, fun _ htracks' => htracks'.write hiface,
      refAt_updateRef (mem_of_under hunder).1 field target⟩

theorem setRef_ok {field : RefField} {target : Nat} {name : String} {device : Nat} {objects : Objects}
    {iface iface' : Iface} {names : List String} {s t : PopulateState}
    (htracks : Tracks s.netbox device names objects)
    (hiface : objects name = some iface) (h : setRef refreshes field iface target s = .ok (iface', t)) :
    SetsRef s.netbox t.netbox device objects name iface iface' field target := by
  obtain ⟨iface₁, s₁, hset, hsets⟩ := setRef_sets refreshes field target htracks hiface
  obtain ⟨rfl, rfl⟩ := Prod.mk.inj (Except.ok.inj (hset.symm.trans h))
  exact hsets

/-- Setting one makes the tables differ in references alone. -/
theorem setRef_alike {field : RefField} {target : Nat} {iface iface' : Iface} {s t : PopulateState}
    (h : setRef refreshes field iface target s = .ok (iface', t)) : Alike t.netbox s.netbox := by
  unfold setRef at h
  split at h
  · obtain ⟨-, rfl⟩ := Prod.mk.inj (Except.ok.inj h)
    exact .refl _
  · obtain ⟨-, rfl⟩ := Prod.mk.inj (Except.ok.inj h)
    exact .updateRef _ _ _ _

/-- What an answered demand has done: for an object, -/
theorem object_ok {wanted : Wanted k} {r : Nat} (h : demand refreshes (.object k wanted) s = .ok (r, u)) :
    ∃ found s', r = found.1 ∧ u = { s with toPopulateState := s' } ∧ s'.netbox.under k wanted.key = [found] ∧
      wanted.check found = .ok () ∧ Added s.netbox s'.netbox := by
  rw [demand_object] at h
  obtain ⟨⟨found, s'⟩, hensure, he⟩ := Traverse.map_eq_ok.mp h
  obtain ⟨rfl, rfl⟩ := Prod.mk.inj he
  exact ⟨found, s', rfl, rfl, ensure_adds wanted.keyed wanted.erase wanted.passes hensure⟩

/-- for an interface, -/
theorem interface_ok {spec : InterfaceSpec} {vlanByVid : Int → Option Nat} {r : Unit}
    (h : demand refreshes (.interface spec vlanByVid) s = .ok (r, u)) :
    ∃ found s', u = ⟨s', s.device, Function.update s.objects spec.name (some (Iface.read found))⟩ ∧
      s'.netbox.under .interface (.iface s.device spec.name) = [found] ∧ Added s.netbox s'.netbox := by
  rw [demand_interface] at h
  obtain ⟨⟨found, s'⟩, hensure, he⟩ := Traverse.map_eq_ok.mp h
  obtain ⟨-, rfl⟩ := Prod.mk.inj he
  obtain ⟨hunder, -, hadded⟩ := ensure_adds rfl rfl (fun _ => rfl) hensure
  exact ⟨found, s', rfl, hunder, hadded⟩

/-- for an id, -/
theorem idOf_ok {name : String} {r : Nat} (h : demand refreshes (.idOf name) s = .ok (r, u)) :
    ∃ iface, s.objects name = some iface ∧ r = iface.id ∧ u = s := by
  cases hiface : s.objects name with
  | none =>
    rw [demand_idOf_of_none hiface] at h
    cases h
  | some iface =>
    rw [demand_idOf hiface] at h
    obtain ⟨rfl, rfl⟩ := Prod.mk.inj (Except.ok.inj h)
    exact ⟨iface, rfl, rfl, rfl⟩

/-- and for a reference. -/
theorem reference_ok {field : RefField} {name : String} {target : Nat} {r : Unit}
    (h : demand refreshes (.reference field name target) s = .ok (r, u)) :
    ∃ iface iface' s', s.objects name = some iface ∧
      setRef refreshes field iface target s.toPopulateState = .ok (iface', s') ∧
        u = ⟨s', s.device, Function.update s.objects name (some iface')⟩ := by
  cases hiface : s.objects name with
  | none =>
    rw [demand_reference_of_none field target hiface] at h
    cases h
  | some iface =>
    rw [demand_reference field target hiface] at h
    obtain ⟨⟨iface', s'⟩, hset, he⟩ := Traverse.map_eq_ok.mp h
    obtain ⟨-, rfl⟩ := Prod.mk.inj he
    exact ⟨iface, iface', s', rfl, hset, rfl⟩

/-- No demand takes an object away. -/
theorem demand_grows {c : Demand} {r : c.Reply} (h : demand refreshes c s = .ok (r, u)) :
    Grows s.netbox u.netbox := by
  cases c with
  | object k wanted =>
    obtain ⟨found, s', -, rfl, -, -, hadded⟩ := object_ok h
    exact hadded.keeps.grows
  | device id =>
    obtain ⟨-, rfl⟩ := Prod.mk.inj (Except.ok.inj h)
    exact (Alike.refl _).grows
  | interface spec vlanByVid =>
    obtain ⟨found, s', rfl, -, hadded⟩ := interface_ok h
    exact hadded.keeps.grows
  | idOf name =>
    obtain ⟨iface, -, -, rfl⟩ := idOf_ok h
    exact (Alike.refl _).grows
  | reference field name target =>
    obtain ⟨iface, iface', s', -, hset, rfl⟩ := reference_ok h
    exact (setRef_alike hset).symm.grows

/-- The tables grow as a run goes on. -/
theorem reaches_grows {m : Session} (h : Script.Reaches (demand refreshes) s m) :
    Grows s.netbox m.netbox := by
  induction h with
  | refl => exact (Alike.refl _).grows
  | tail _ hstep ih =>
    obtain ⟨c, r, hstep⟩ := hstep
    exact ih.trans (demand_grows hstep)

end Demands

/-! ## The second run -/

/-- The second run is where the first one was in `s`, before it came to `m`. -/
structure Behind (s m t : Session) : Prop where
  device : s.device = t.device
  ids : ∀ name, (s.objects name).map (·.id) = (t.objects name).map (·.id)
  first : Coherent s
  second : Coherent t
  alike : Alike m.netbox t.netbox
  refs : ∀ id field,
    t.netbox.refAt id field = m.netbox.refAt id field ∨ t.netbox.refAt id field = s.netbox.refAt id field

section Behind

variable {s m t : Session} {names : List String}

/-- Additions keep a session coherent. -/
theorem Coherent.added {s' : PopulateState} (h : Coherent s) (hadded : Added s.netbox s'.netbox) :
    Coherent { s with toPopulateState := s' } := by
  obtain ⟨names, htracks⟩ := h
  exact ⟨names, htracks.keeps hadded.keeps⟩

theorem Behind.refs_added {n : NetboxState} (h : Behind s m t) (hadded : Added s.netbox n) (id : Nat)
    (field : RefField) :
    t.netbox.refAt id field = m.netbox.refAt id field ∨ t.netbox.refAt id field = n.refAt id field := by
  rw [hadded.refs]
  exact h.refs id field

/-- The run behind has collected what the other one has, -/
theorem Behind.found (h : Behind s m t) {name : String} {iface : Iface}
    (hiface : s.objects name = some iface) :
    ∃ iface', t.objects name = some iface' ∧ iface'.id = iface.id := by
  have hid := h.ids name
  rw [hiface, eq_comm] at hid
  exact Option.map_eq_some_iff.mp hid

/-- and nothing more. -/
theorem Behind.missing (h : Behind s m t) {name : String} (hnone : s.objects name = none) :
    t.objects name = none := by
  have hid := h.ids name
  rw [hnone, eq_comm] at hid
  exact Option.map_eq_none_iff.mp hid

theorem ids_update {objects objects' : Objects}
    (h : ∀ name, (objects name).map (·.id) = (objects' name).map (·.id))
    {iface iface' : Iface} (hid : iface.id = iface'.id) (name name' : String) :
    (Function.update objects name (some iface) name').map (·.id) =
      (Function.update objects' name (some iface') name').map (·.id) := by
  by_cases hname : name' = name
  · subst hname
    simp [hid]
  · simp [hname, h name']

/-- Both runs have set the reference. -/
theorem Behind.setRef {field : RefField} {name : String} {target : Nat} {iface iface' iface₁ iface₁' : Iface}
    {s' t' : PopulateState} (h : Behind s m t) (hid : iface'.id = iface.id)
    (hs : SetsRef s.netbox s'.netbox s.device s.objects name iface iface₁ field target)
    (ht : SetsRef t.netbox t'.netbox t.device t.objects name iface' iface₁' field target) :
    Behind ⟨s', s.device, Function.update s.objects name (some iface₁)⟩ m
      ⟨t', t.device, Function.update t.objects name (some iface₁')⟩ := by
  obtain ⟨names, htracks⟩ := h.first
  obtain ⟨names', htracks'⟩ := h.second
  refine ⟨h.device, ids_update h.ids (by rw [hs.id, ht.id, hid]) name, ⟨names, hs.tracks names htracks⟩,
    ⟨names', ht.tracks names' htracks'⟩, h.alike.trans ht.alike.symm, ?_⟩
  intro id field'
  rw [hs.refs, ht.refs, hid]
  split
  · exact .inr rfl
  · exact h.refs id field'

end Behind

variable {refreshes refreshes' : Bool}

/-- What the first run made is there for the second one. -/
theorem demand_catches : Script.Catches (demand refreshes) (demand refreshes') Behind := by
  intro c s u r m t hstep hreaches hbehind
  have hgrows := reaches_grows hreaches
  cases c with
  | object k wanted =>
    obtain ⟨found, s', rfl, rfl, hunder, hpass, hadded⟩ := object_ok hstep
    have hthere : t.netbox.under k wanted.key = [found] := by
      rw [← hbehind.alike.under_of_ne wanted.kind]
      exact under_grows hgrows wanted.kind hunder
    refine ⟨{ t with report := t.report.addSkipped k.name }, ?_, ?_⟩
    · rw [demand_object, ensure_of_under hthere hpass]
      rfl
    · exact ⟨hbehind.device, hbehind.ids, hbehind.first.added hadded, hbehind.second, hbehind.alike,
        hbehind.refs_added hadded⟩
  | device id =>
    obtain ⟨-, rfl⟩ := Prod.mk.inj (Except.ok.inj hstep)
    refine ⟨{ t with device := id, objects := fun _ => none }, rfl, rfl, fun _ => rfl, ⟨[], ?_⟩, ⟨[], ?_⟩,
      hbehind.alike, hbehind.refs⟩
    · intro name iface hiface
      cases hiface
    · intro name iface hiface
      cases hiface
  | interface spec vlanByVid =>
    obtain ⟨found, s', rfl, hunder, hadded⟩ := interface_ok hstep
    -- the row is there, perhaps with other references
    obtain ⟨row, hthere, -⟩ := (hgrows.trans hbehind.alike.grows) _ _ _ _ hunder
    rw [hbehind.device] at hthere
    obtain ⟨names, htracks⟩ := hbehind.first
    obtain ⟨names', htracks'⟩ := hbehind.second
    have hid : (Iface.read found).id = (Iface.read (found.1, row)).id := rfl
    refine ⟨⟨{ t.toPopulateState with report := t.report.addSkipped Kind.interface.name }, t.device,
      Function.update t.objects spec.name (some (Iface.read (found.1, row)))⟩, ?_, ?_⟩
    · rw [demand_interface, ensure_of_under hthere rfl]
      rfl
    · exact ⟨hbehind.device, ids_update hbehind.ids hid spec.name,
        ⟨_, (htracks.keeps hadded.keeps).add hunder⟩,
        ⟨_, htracks'.add hthere⟩, hbehind.alike, hbehind.refs_added hadded⟩
  | idOf name =>
    obtain ⟨iface, hiface, rfl, rfl⟩ := idOf_ok hstep
    obtain ⟨iface', hiface', hid⟩ := hbehind.found hiface
    rw [← hid]
    exact ⟨t, demand_idOf hiface', hbehind⟩
  | reference field name target =>
    obtain ⟨iface, iface₁, s', hiface, hset, rfl⟩ := reference_ok hstep
    obtain ⟨iface', hiface', hid⟩ := hbehind.found hiface
    obtain ⟨names, htracks⟩ := hbehind.first
    obtain ⟨names', htracks'⟩ := hbehind.second
    obtain ⟨iface₁', t', hset', hsets'⟩ := setRef_sets refreshes' field target htracks' hiface'
    refine ⟨_, ?_, hbehind.setRef hid (setRef_ok htracks hiface hset) hsets'⟩
    rw [demand_reference field target hiface', hset']
    rfl

section Agrees

variable {s t u : Session}

/-- A call that made no object has left the second run as far behind. -/
theorem Behind.on (h : Behind s s t) (halike : Alike u.netbox s.netbox) : Behind s u t :=
  ⟨h.device, h.ids, h.first, h.second, halike.trans h.alike, fun id field =>
    .inr (or_self_iff.mp (h.refs id field))⟩

/-- Both runs have created an object. -/
theorem Behind.refs_created {n n' : NetboxState} (h : Behind s s t) (hadded : Added s.netbox n)
    (hadded' : Added t.netbox n') (id : Nat) (field : RefField) :
    n'.refAt id field = n.refAt id field ∨ n'.refAt id field = n.refAt id field := by
  rw [hadded.refs, hadded'.refs]
  exact h.refs id field

/-- A demand that adds nothing is answered alike in both runs. -/
theorem agree_of_alike {c : Demand} {r : c.Reply} (hbehind : Behind s s t)
    (hstep : demand refreshes c s = .ok (r, u)) (halike : Alike u.netbox s.netbox) :
    Script.Agree (fun s t => Behind s s t) (demand refreshes c s) (demand refreshes' c t) := by
  obtain ⟨v, hstep', hv⟩ : ∃ v, demand refreshes' c t = .ok (r, v) ∧ Behind u u v :=
    demand_catches hstep .refl (hbehind.on halike)
  rw [hstep, hstep']
  exact ⟨rfl, hv⟩

/-- Both raise, or the object is there, or both create it. -/
theorem ensure_agrees {check : Nat × Row k → Except FixtureExc Unit} (payload : Row k) {s t : PopulateState}
    (halike : Alike s.netbox t.netbox)
    (hchecks : ∀ found found', s.netbox.under k key = [found] → t.netbox.under k key = [found'] →
      check found = check found') :
    (∃ e, ensure k key check payload s = .error e ∧ ensure k key check payload t = .error e) ∨
      (∃ found s', ensure k key check payload s = .ok (found, s') ∧ s'.netbox = s.netbox) ∨
        (s.netbox.under k key = [] ∧ t.netbox.under k key = []) := by
  match hunder : s.netbox.under k key with
  | [] => exact .inr (.inr ⟨rfl, halike.under_eq_nil hunder⟩)
  | [found] =>
    obtain ⟨row', hunder', -⟩ := halike.grows _ _ _ _ hunder
    cases hcheck : check found with
    | ok _ => exact .inr (.inl ⟨found, _, ensure_of_under hunder hcheck, rfl⟩)
    | error e =>
      have hcheck' : check (found.1, row') = .error e := (hchecks _ _ hunder hunder').symm.trans hcheck
      refine .inl ⟨e, ?_, ?_⟩
      · unfold ensure
        simp [hunder, hcheck]
      · unfold ensure
        simp [hunder', hcheck']
  | a :: b :: l =>
    obtain ⟨a', b', l', hmany⟩ := halike.under_many hunder
    exact .inl ⟨.valueError, ensure_of_many hunder, ensure_of_many hmany⟩

/-- The two runs agree on each demand: for an object, -/
theorem object_agrees (hbehind : Behind s s t) (wanted : Wanted k) : Script.Agree (fun s t => Behind s s t)
    (demand refreshes (.object k wanted) s) (demand refreshes' (.object k wanted) t) := by
  have hchecks : ∀ found found', s.netbox.under k wanted.key = [found] →
      t.netbox.under k wanted.key = [found'] →
      wanted.check found = wanted.check found' := by
    intro found found' hunder hunder'
    rw [hbehind.alike.under_of_ne wanted.kind, hunder'] at hunder
    rw [(List.cons.inj hunder).1]
  rcases ensure_agrees wanted.payload hbehind.alike hchecks with
    ⟨e, hs, ht⟩ | ⟨found, s', hs, hsame⟩ | ⟨hs, ht⟩
  · rw [demand_object, demand_object, hs, ht]
    exact rfl
  · have hstep : demand refreshes (.object k wanted) s = _ := demand_object wanted
    rw [hs] at hstep
    refine agree_of_alike hbehind hstep ?_
    rw [hsame]
    exact .refl _
  · -- new: both create it, under the same id
    have hadded := (ensure_adds wanted.keyed wanted.erase wanted.passes (ensure_of_new _ _ hs)).2.2
    have hadded' := (ensure_adds wanted.keyed wanted.erase wanted.passes (ensure_of_new _ _ ht)).2.2
    rw [demand_object, demand_object, ensure_of_new _ _ hs, ensure_of_new _ _ ht]
    exact ⟨hbehind.alike.next k, hbehind.device, hbehind.ids, hbehind.first.added hadded,
      hbehind.second.added hadded', hbehind.alike.create wanted.payload, hbehind.refs_created hadded hadded'⟩

/-- for an interface -/
theorem interface_agrees (hbehind : Behind s s t) (spec : InterfaceSpec) (vlanByVid : Int → Option Nat) :
    Script.Agree (fun s t => Behind s s t)
      (demand refreshes (.interface spec vlanByVid) s) (demand refreshes' (.interface spec vlanByVid) t) := by
  have halike := hbehind.alike
  let payload : Row .interface := interfacePayload spec s.device vlanByVid
  have hchecks : ∀ found found', s.netbox.under .interface (.iface s.device spec.name) = [found] →
      t.netbox.under .interface (.iface s.device spec.name) = [found'] →
        (Except.ok () : Except FixtureExc Unit) = .ok () := fun _ _ _ _ => rfl
  rcases ensure_agrees payload halike hchecks with
    ⟨e, hs, ht⟩ | ⟨found, s', hs, hsame⟩ | ⟨hs, ht⟩
  · rw [demand_interface, demand_interface, ← hbehind.device, hs, ht]
    exact rfl
  · have hstep : demand refreshes (.interface spec vlanByVid) s = _ := demand_interface spec vlanByVid
    rw [hs] at hstep
    refine agree_of_alike hbehind hstep ?_
    rw [hsame]
    exact .refl _
  · have hensure := ensure_of_new (fun _ => .ok ()) payload hs
    have hensure' := ensure_of_new (fun _ => .ok ()) payload ht
    obtain ⟨hunder, -, hadded⟩ := ensure_adds rfl rfl (fun _ => rfl) hensure
    obtain ⟨hunder', -, hadded'⟩ := ensure_adds rfl rfl (fun _ => rfl) hensure'
    obtain ⟨names, htracks⟩ := hbehind.first
    obtain ⟨names', htracks'⟩ := hbehind.second
    rw [← hbehind.device] at htracks'
    rw [demand_interface, demand_interface, ← hbehind.device, hensure, hensure']
    exact ⟨rfl, rfl, ids_update hbehind.ids (halike.next .interface) spec.name,
      ⟨_, (htracks.keeps hadded.keeps).add hunder⟩, ⟨_, (htracks'.keeps hadded'.keeps).add hunder'⟩,
      halike.create _, hbehind.refs_created hadded hadded'⟩

/-- and for a reference. -/
theorem reference_agrees (hbehind : Behind s s t) (field : RefField) (name : String) (target : Nat) :
    Script.Agree (fun s t => Behind s s t)
      (demand refreshes (.reference field name target) s)
        (demand refreshes' (.reference field name target) t) := by
  cases hiface : s.objects name with
  | none =>
    rw [demand_reference_of_none field target hiface,
      demand_reference_of_none field target (hbehind.missing hiface)]
    exact rfl
  | some iface =>
    obtain ⟨names, htracks⟩ := hbehind.first
    obtain ⟨iface₁, s', hset, hsets⟩ := setRef_sets refreshes field target htracks hiface
    have hstep : demand refreshes (.reference field name target) s = _ := demand_reference field target hiface
    rw [hset] at hstep
    exact agree_of_alike hbehind hstep hsets.alike

/-- Where nothing is behind, the runs do the same. -/
theorem demand_agrees : Script.Agrees (demand refreshes) (demand refreshes') fun s t => Behind s s t := by
  intro c s t hbehind
  cases c with
  | object k wanted => exact object_agrees hbehind wanted
  | device id => exact agree_of_alike hbehind rfl (.refl _)
  | interface spec vlanByVid => exact interface_agrees hbehind spec vlanByVid
  | idOf name =>
    cases hiface : s.objects name with
    | none =>
      rw [demand_idOf_of_none hiface, demand_idOf_of_none (hbehind.missing hiface)]
      exact rfl
    | some iface => exact agree_of_alike hbehind (demand_idOf hiface) (.refl _)
  | reference field name target => exact reference_agrees hbehind field name target

end Agrees

/-! ## Interrupted runs -/

/-- A run of `populate` from the first Netbox can be interrupted at the second one. -/
def Interrupted (fixtures : List HostFixture) (n n' : NetboxState) : Prop :=
  ∃ refreshes u, Script.Stops (demand refreshes) (Calls.populate fixtures) (Session.start n) u ∧ u.netbox = n'

/-- Any number of runs, each interrupted, and the next one begun where it was. -/
def Attempts (fixtures : List HostFixture) : NetboxState → NetboxState → Prop :=
  ReflTransGen (Interrupted fixtures)

/-- A session starts coherent, as nothing is collected. -/
theorem coherent_start (n : NetboxState) : Coherent (Session.start n) := by
  refine ⟨[], ?_⟩
  intro name iface hiface
  cases hiface

variable {fixtures : List HostFixture}

/-- What the outcome of a run shows: the exception, or the objects. -/
theorem tables_of_agree {x y : Except FixtureExc (Unit × Session)}
    (h : Script.Agree (fun s t => Behind s s t) x y) :
    x.map (fun p => p.2.netbox.table) = y.map (fun p => p.2.netbox.table) := by
  rcases Script.agree_iff.mp h with ⟨e, rfl, rfl⟩ | ⟨a, s, t, rfl, rfl, hbehind⟩
  · rfl
  · have hrefs : ∀ id field, s.netbox.refAt id field = t.netbox.refAt id field :=
      fun id field => (or_self_iff.mp (hbehind.refs id field)).symm
    exact congrArg Except.ok (hbehind.alike.table_eq hrefs)

/-- The script ends in the tables of `populate`, or with its exception. -/
theorem populate_tables (refreshes : Bool) (fixtures : List HostFixture) (n : NetboxState) :
    (populate refreshes fixtures n).map (fun p => p.2.table) =
      ((Calls.populate fixtures).run (demand refreshes) (Session.start n)).map fun p => p.2.netbox.table := by
  rw [← run_populate]
  cases (Calls.populate fixtures).run (demand refreshes) (Session.start n) <;> rfl

/-- **A run from where another one was stopped ends in its tables.** -/
theorem tables_of_stops {refreshes refreshes' : Bool} {u : Session}
    (h : Script.Stops (demand refreshes) (Calls.populate fixtures) (Session.start n) u) :
    (populate refreshes' fixtures u.netbox).map (fun p => p.2.table) =
      (populate refreshes fixtures n).map fun p => p.2.table := by
  have hbehind : Behind (Session.start n) u (Session.start u.netbox) :=
    ⟨rfl, fun _ => rfl, coherent_start n, coherent_start u.netbox, .refl _, fun _ _ => .inl rfl⟩
  rw [populate_tables, populate_tables]
  exact (tables_of_agree (Script.resumed demand_catches demand_agrees h hbehind)).symm

theorem Interrupted.tables {refreshes : Bool} (h : Interrupted fixtures n n') :
    (populate refreshes fixtures n').map (fun p => p.2.table) =
      (populate refreshes fixtures n).map fun p => p.2.table := by
  obtain ⟨refreshes', u, hstops, rfl⟩ := h
  exact (tables_of_stops hstops).trans (tables_of_stops (.here _ _))

end Fixtures
end HostConfig
