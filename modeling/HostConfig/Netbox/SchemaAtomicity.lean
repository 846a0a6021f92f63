import HostConfig.Netbox.Schema

/-!
# `Netbox.SchemaAtomicity` — when a `SchemaError` leaves Netbox alone

The loop raises at the first spec whose field has drift that cannot be patched, and what it wrote before
stays. So the run is all-or-nothing exactly when every spec in front of that one matches its field already
(`atomic_iff`).

Which spec that is can be read off the list and the store before the run. A spec whose name no earlier one
has meets its field as it was; a spec with the name of an earlier one meets what that one left, which has
the earlier one's type and object types. `Invariant` carries this through the loop.
-/

namespace HostConfig
namespace Netbox

/-! ## The attributes that cannot be patched -/

section

variable {spec other : CustomFieldSpec} {existing record : Record} {wraps : Bool}

/-- The keys outside the allowlist, with the values declared. -/
def CustomFieldSpec.fixedKeys (spec : CustomFieldSpec) : Payload :=
  [("name", .str spec.name), ("type", .str spec.type.value), ("object_types", .list spec.objectTypes)]

/-- The record agrees with the spec on the keys that cannot be patched. -/
def Keeps (spec : CustomFieldSpec) (existing : Record) : Prop :=
  ∀ e ∈ spec.fixedKeys, valuesEqual e.1 e.2 (existing e.1) = .ok true

/-- Two specs declare one type and the same object types. -/
def Compatible (spec other : CustomFieldSpec) : Prop :=
  spec.type.value = other.type.value ∧ normalized spec.objectTypes = normalized other.objectTypes

theorem fixedKeys_subset {e : String × Value} (he : e ∈ spec.fixedKeys) : e ∈ spec.toPayload := by
  refine CustomFieldSpec.mem_toPayload.mpr (.inl ?_)
  simp only [CustomFieldSpec.fixedKeys, List.mem_cons, List.not_mem_nil, or_false] at he
  rcases he with rfl | rfl | rfl <;> simp [CustomFieldSpec.fixedPayload]

theorem notMem_recoverable {e : String × Value} (he : e ∈ spec.fixedKeys) : e.1 ∉ recoverableDriftKeys := by
  simp only [CustomFieldSpec.fixedKeys, List.mem_cons, List.not_mem_nil, or_false] at he
  rcases he with rfl | rfl | rfl <;> simp [recoverableDriftKeys]

/-- A key of the payload is one of these or in the allowlist. -/
theorem mem_fixedKeys_or_recoverable {e : String × Value} (he : e ∈ spec.toPayload) :
    e ∈ spec.fixedKeys ∨ e.1 ∈ recoverableDriftKeys := by
  obtain ⟨key, v⟩ := e
  rcases CustomFieldSpec.mem_toPayload.mp he with hfixed | hoptional
  · simp only [CustomFieldSpec.fixedPayload, List.mem_cons, List.not_mem_nil, or_false,
      Prod.mk.injEq] at hfixed
    rcases hfixed with ⟨rfl, rfl⟩ | ⟨rfl, rfl⟩ | ⟨rfl, rfl⟩ | ⟨rfl, rfl⟩ | ⟨rfl, rfl⟩ <;>
      simp [CustomFieldSpec.fixedKeys, recoverableDriftKeys]
  · refine .inr ?_
    have hkey : key ∈ spec.optional.map (·.1) := List.mem_map.mpr ⟨_, hoptional, rfl⟩
    simp only [CustomFieldSpec.optional, List.map_cons, List.map_nil, List.mem_cons, List.not_mem_nil,
      or_false] at hkey
    rcases hkey with hkey | hkey | hkey | hkey | hkey <;> simp [hkey, recoverableDriftKeys]

/-- **Drift is recoverable exactly when the other keys agree.** -/
theorem isRecoverable_iff {drift : List String} (h : diff spec existing = .ok drift) :
    isRecoverable drift = true ↔ Keeps spec existing := by
  have hdrift := mem_drifted h
  rw [isRecoverable, List.all_eq_true]
  constructor
  · intro hall e he
    obtain ⟨equal, hequal⟩ := ok_of_drifted h e (fixedKeys_subset he)
    cases equal with
    | true => exact hequal
    | false =>
      have hmem := hall e.1 ((hdrift e.1).mpr ⟨e.2, fixedKeys_subset he, hequal⟩)
      exact absurd (List.contains_iff_mem.mp hmem) (notMem_recoverable he)
  · intro hkeeps key hkey
    obtain ⟨want, hmem, hdiff⟩ := (hdrift key).mp hkey
    rcases mem_fixedKeys_or_recoverable hmem with hfixed | hrecoverable
    · rw [hkeeps _ hfixed] at hdiff
      cases hdiff
    · exact List.contains_iff_mem.mpr hrecoverable

/-- Without a drift the fixed keys are as declared. -/
theorem keeps_of_diff_nil (h : diff spec existing = .ok []) : Keeps spec existing := by
  intro e he
  exact drifted_eq_nil.mp h e (fixedKeys_subset he)

theorem eq_str_iff {s : String} {v : Value} : (Value.str s).eq v = true ↔ v = .str s := by
  cases v <;> simp [Value.eq, Value.number, eq_comm]

/-- The three fixed keys, one by one. -/
theorem keeps_iff : Keeps spec existing ↔ (existing "name").unwrap = .str spec.name ∧
    (existing "type").unwrap = .str spec.type.value ∧
    ∃ got, (existing "object_types").unwrap.elements = some got ∧
      normalized spec.objectTypes = normalized got := by
  unfold Keeps CustomFieldSpec.fixedKeys
  simp only [List.forall_mem_cons, List.not_mem_nil, false_implies, implies_true, and_true]
  rw [valuesEqual_of_ne (by decide), valuesEqual_of_ne (by decide), valuesEqual_objectTypes, Except.ok.injEq,
    Except.ok.injEq, eq_str_iff, eq_str_iff]
  refine and_congr Iff.rfl (and_congr Iff.rfl ?_)
  cases (existing "object_types").unwrap.elements <;> simp

/-- What is as declared can be compared. -/
theorem iterable_of_keeps (h : Keeps spec existing) : Iterable existing := by
  obtain ⟨-, -, got, hgot, -⟩ := keeps_iff.mp h
  exact Option.isSome_iff_exists.mpr ⟨got, hgot⟩

/-- A record that agrees with one spec agrees with those compatible with it. -/
theorem keeps_iff_compatible (hname : spec.name = other.name) (h : Keeps spec existing) :
    Keeps other existing ↔ Compatible spec other := by
  obtain ⟨hn, ht, got, hgot, ho⟩ := keeps_iff.mp h
  rw [keeps_iff, hn, ht, hgot, hname, Compatible]
  constructor
  · rintro ⟨-, htype, got', hgot', hobjects⟩
    obtain rfl := Option.some.inj hgot'
    exact ⟨Value.str.inj htype, ho.trans hobjects.symm⟩
  · rintro ⟨htype, hobjects⟩
    exact ⟨rfl, by rw [htype], got, rfl, hobjects.symm.trans ho⟩

/-- A record a payload was written over agrees with its spec. -/
theorem keeps_overwrite : Keeps spec ((record.overwrite spec.toPayload).shown wraps) := by
  have hmem : ∀ {e}, e ∈ spec.fixedKeys → (record.overwrite spec.toPayload) e.1 = e.2 := fun he =>
    Record.overwrite_of_mem _ _ (fixedKeys_subset he)
  have hname := hmem (e := ("name", .str spec.name)) (by simp [CustomFieldSpec.fixedKeys])
  have htype := hmem (e := ("type", .str spec.type.value)) (by simp [CustomFieldSpec.fixedKeys])
  have hobjects := hmem (e := ("object_types", .list spec.objectTypes)) (by simp [CustomFieldSpec.fixedKeys])
  dsimp only at hname htype hobjects
  refine keeps_iff.mpr ⟨?_, ?_, spec.objectTypes, ?_, rfl⟩
  · rw [Record.unwrap_shown _ (by rw [hname]; rfl), hname]
  · rw [Record.unwrap_shown _ (by rw [htype]; rfl), htype]
  · rw [Record.unwrap_shown _ (by rw [hobjects]; rfl), hobjects]
    rfl

/-- What a spec has settled is as declared. -/
theorem keeps_of_settles {found : Option Record} {outcome : Outcome}
    (h : Settles wraps spec found outcome record) : Keeps spec (record.shown wraps) := by
  cases h with
  | created => exact keeps_overwrite
  | updated => exact keeps_overwrite
  | unchanged hdiff => exact keeps_of_diff_nil hdiff

/-- A conflict is a record that can be compared and is not as declared. -/
theorem conflictsWith_iff : ConflictsWith wraps spec record ↔
    Iterable (record.shown wraps) ∧ ¬ Keeps spec (record.shown wraps) := by
  constructor
  · rintro ⟨drift, hdrift, hrecoverable⟩
    refine ⟨diff_ok_iff.mp ⟨drift, hdrift⟩, ?_⟩
    rw [← isRecoverable_iff hdrift, hrecoverable]
    exact Bool.false_ne_true
  · rintro ⟨hiterable, hkeeps⟩
    obtain ⟨drift, hdrift⟩ := diff_ok_iff.mpr hiterable
    refine ⟨drift, hdrift, ?_⟩
    rw [← isRecoverable_iff hdrift] at hkeeps
    exact Bool.not_eq_true _ ▸ hkeeps

end

/-! ## Which spec conflicts, before the run -/

section

variable (wraps : Bool) (start : FieldStore)

/-- The spec's field is there and has no drift. -/
def Matches (spec : CustomFieldSpec) : Prop :=
  ∃ record, start.fields spec.name = some record ∧ diff spec (record.shown wraps) = .ok []

/-- No spec of the list has the name. -/
def Fresh (earlier : List CustomFieldSpec) (name : String) : Prop := ∀ s ∈ earlier, s.name ≠ name

/-- The spec, coming after the `earlier` ones, raises a `SchemaError`. -/
def Conflicts (earlier : List CustomFieldSpec) (spec : CustomFieldSpec) : Prop :=
  (∃ s ∈ earlier, s.name = spec.name ∧ ¬ Compatible s spec) ∨
    Fresh earlier spec.name ∧ ∃ record, start.fields spec.name = some record ∧ ConflictsWith wraps spec record

/-- The spec, coming after the `earlier` ones, finds object types that cannot be looped over. -/
def Fails (earlier : List CustomFieldSpec) (spec : CustomFieldSpec) : Prop :=
  Fresh earlier spec.name ∧ ∃ record, start.fields spec.name = some record ∧ ¬ Iterable (record.shown wraps)

/-- No spec of the list raises. -/
def Passes (earlier : List CustomFieldSpec) : List CustomFieldSpec → Prop
  | []            => True
  | spec :: specs =>
      ¬ Conflicts wraps start earlier spec ∧ ¬ Fails wraps start earlier spec ∧
        Passes (earlier ++ [spec]) specs

/-- The specs in front of `spec` do not raise, and `spec` raises a `SchemaError`. -/
def FirstConflict (specs before : List CustomFieldSpec) (spec : CustomFieldSpec) : Prop :=
  (∃ rest, specs = before ++ spec :: rest) ∧ Passes wraps start [] before ∧ Conflicts wraps start before spec

/-! ## The loop -/

/-- What the loop keeps: only the fields of earlier specs are touched, and these agree with their specs. -/
structure Invariant (earlier : List CustomFieldSpec) (store : FieldStore) : Prop where
  untouched : ∀ name, Fresh earlier name → store.fields name = start.fields name
  settled : ∀ s ∈ earlier, ∃ record, store.fields s.name = some record ∧ Keeps s (record.shown wraps)

variable {wraps start} {earlier : List CustomFieldSpec} {store t : FieldStore} {spec : CustomFieldSpec}
  {outcome : Outcome} {record : Record}

/-- A name is new, or one of an earlier spec. -/
theorem fresh_or (earlier : List CustomFieldSpec) (name : String) :
    Fresh earlier name ∨ ∃ s ∈ earlier, s.name = name := by
  by_cases h : ∃ s ∈ earlier, s.name = name
  · exact .inr h
  · exact .inl fun s hs hname => h ⟨s, hs, hname⟩

/-- What a spec finds in the loop is decided before the run. -/
theorem Invariant.conflicts_iff (h : Invariant wraps start earlier store) :
    Conflicts wraps start earlier spec ↔
    ∃ record, store.fields spec.name = some record ∧ ConflictsWith wraps spec record := by
  rcases fresh_or earlier spec.name with hfresh | ⟨s, hs, hname⟩
  · rw [h.untouched spec.name hfresh, Conflicts]
    constructor
    · rintro (⟨s, hs, hname, -⟩ | ⟨-, hconflict⟩)
      · exact absurd hname (hfresh s hs)
      · exact hconflict
    · intro hconflict
      exact .inr ⟨hfresh, hconflict⟩
  · constructor
    · rintro (⟨s', hs', hname', hincompatible⟩ | ⟨hfresh, -⟩)
      · obtain ⟨record, hfound, hkeeps⟩ := h.settled s' hs'
        rw [hname'] at hfound
        refine ⟨record, hfound, conflictsWith_iff.mpr ⟨iterable_of_keeps hkeeps, ?_⟩⟩
        rwa [keeps_iff_compatible hname' hkeeps]
      · exact absurd hname (hfresh s hs)
    · rintro ⟨record, hfound, hconflict⟩
      obtain ⟨record', hfound', hkeeps⟩ := h.settled s hs
      rw [hname, hfound] at hfound'
      obtain rfl := Option.some.inj hfound'
      refine .inl ⟨s, hs, hname, ?_⟩
      rw [← keeps_iff_compatible hname hkeeps]
      exact (conflictsWith_iff.mp hconflict).2

/-- A spec fails before it is settled exactly if the record cannot be compared. -/
theorem Invariant.fails_iff (h : Invariant wraps start earlier store) : Fails wraps start earlier spec ↔
    ∃ record, store.fields spec.name = some record ∧ ¬ Iterable (record.shown wraps) := by
  rcases fresh_or earlier spec.name with hfresh | ⟨s, hs, hname⟩
  · rw [h.untouched spec.name hfresh, Fails]
    exact and_iff_right hfresh
  · refine iff_of_false (fun hfails => hfails.1 s hs hname) ?_
    rintro ⟨record, hfound, hiterable⟩
    obtain ⟨record', hfound', hkeeps⟩ := h.settled s hs
    rw [hname, hfound] at hfound'
    obtain rfl := Option.some.inj hfound'
    exact hiterable (iterable_of_keeps hkeeps)

/-- Settling a spec leaves the other fields -/
theorem settle_of_ne {name : String} (hne : name ≠ spec.name) :
    (store.settle spec.name record outcome).fields name = store.fields name := by
  cases outcome with
  | created | updated => exact FieldStore.put_of_ne _ _ _ _ hne
  | unchanged => rfl

/-- and puts its own. -/
theorem settle_self (h : Settles wraps spec (store.fields spec.name) outcome record) :
    (store.settle spec.name record outcome).fields spec.name = some record := by
  generalize hfound : store.fields spec.name = found at h
  cases h with
  | created | updated => exact FieldStore.put_self _ _ _ _
  | unchanged => exact hfound

/-- **An iteration keeps the invariant.** -/
theorem Invariant.settle (h : Invariant wraps start earlier store)
    (hconflicts : ¬ Conflicts wraps start earlier spec)
    (hsettles : Settles wraps spec (store.fields spec.name) outcome record) :
    Invariant wraps start (earlier ++ [spec]) (store.settle spec.name record outcome) := by
  have hkeeps := keeps_of_settles hsettles
  constructor
  · intro name hfresh
    have hne : spec.name ≠ name := hfresh spec (by simp)
    rw [settle_of_ne hne.symm]
    exact h.untouched name fun s hs => hfresh s (List.mem_append_left _ hs)
  · intro s hs
    rcases List.mem_append.mp hs with hs | hs
    · by_cases hname : s.name = spec.name
      · -- the record now is that of a compatible spec
        refine ⟨record, by rw [hname]; exact settle_self hsettles, ?_⟩
        have hcompatible : Compatible s spec := by
          by_contra hincompatible
          exact hconflicts (.inl ⟨s, hs, hname, hincompatible⟩)
        refine (keeps_iff_compatible hname.symm hkeeps).mpr ?_
        exact ⟨hcompatible.1.symm, hcompatible.2.symm⟩
      · obtain ⟨record', hfound, hkeeps'⟩ := h.settled s hs
        exact ⟨record', by rw [settle_of_ne hname]; exact hfound, hkeeps'⟩
    · obtain rfl := List.mem_singleton.mp hs
      exact ⟨record, settle_self hsettles, hkeeps⟩

/-- An iteration writes exactly when the field does not match. -/
theorem settle_writes (h : Settles wraps spec (store.fields spec.name) outcome record) :
    (Matches wraps store spec ∧ store.settle spec.name record outcome = store) ∨
      (¬ Matches wraps store spec ∧ ∃ w,
        (store.settle spec.name record outcome).writes = store.writes ++ [w]) := by
  unfold Matches
  generalize store.fields spec.name = found at h
  cases h with
  | created => exact .inr ⟨by simp, _, rfl⟩
  | updated hdiff hdrift =>
    refine .inr ⟨?_, _, rfl⟩
    rintro ⟨record', hfound, hmatches⟩
    obtain rfl := Option.some.inj hfound
    rw [hdiff] at hmatches
    exact hdrift (Except.ok.inj hmatches)
  | unchanged hdiff => exact .inl ⟨⟨_, rfl, hdiff⟩, rfl⟩

/-- **A list that does not raise**: the loop goes on after it, and has written exactly if some
    spec did not match. -/
theorem run_passes {specs : List CustomFieldSpec} (hpasses : Passes wraps start earlier specs)
    (h : Invariant wraps start earlier store) (report : SchemaApplyReport) (rest : List CustomFieldSpec) :
    ∃ report' t ws, applyFrom (FieldStore.endpoint wraps) report store (specs ++ rest) =
        applyFrom (FieldStore.endpoint wraps) report' t rest ∧
      Invariant wraps start (earlier ++ specs) t ∧ t.writes = store.writes ++ ws ∧
      (t = store ↔ ∀ s ∈ specs, Matches wraps store s) := by
  induction specs generalizing earlier store report with
  | nil => exact ⟨report, store, [], rfl, by rwa [List.append_nil], by simp, by simp⟩
  | cons spec specs ih =>
    obtain ⟨hconflicts, hfails, hpasses⟩ := hpasses
    rcases applyOne_cases wraps spec store with ⟨outcome, record, hsettles, hone⟩ |
      ⟨record, drift, hfound, hconflict, -⟩ | ⟨record, e, hfound, hiterable, -, -⟩
    · obtain ⟨report', t, ws, hrun, hinv, hwrites, hsame⟩ :=
        ih hpasses (h.settle hconflicts hsettles) (report.add outcome spec.name)
      have happend : earlier ++ spec :: specs = (earlier ++ [spec]) ++ specs := by simp
      rw [happend, List.cons_append, applyFrom, hone, List.forall_mem_cons]
      rcases settle_writes hsettles with ⟨hmatches, hkept⟩ | ⟨hmatches, w, hwritten⟩
      · rw [hkept] at hrun hwrites hsame ⊢
        exact ⟨report', t, ws, hrun, hinv, hwrites, by rw [hsame]; simp [hmatches]⟩
      · refine ⟨report', t, w :: ws, hrun, hinv, by rw [hwrites, hwritten]; simp, ?_⟩
        refine iff_of_false ?_ fun hall => hmatches hall.1
        rintro rfl
        have hlength := congrArg List.length hwrites
        simp [hwritten] at hlength
    · exact absurd (h.conflicts_iff.mpr ⟨record, hfound, hconflict⟩) hconflicts
    · exact absurd (h.fails_iff.mpr ⟨record, hfound, hiterable⟩) hfails

/-- A `SchemaError` comes from a spec that conflicts, the first one that raises. -/
theorem exists_conflict {specs : List CustomFieldSpec} (h : Invariant wraps start earlier store)
    {report : SchemaApplyReport} {name : String} {drift : List String} {observed : Record}
    (hrun : applyFrom (FieldStore.endpoint wraps) report store specs =
      (.error (.schemaError name drift observed), t)) :
    ∃ before spec rest, specs = before ++ spec :: rest ∧ Passes wraps start earlier before ∧
      Conflicts wraps start (earlier ++ before) spec := by
  induction specs generalizing earlier store report with
  | nil => simp [applyFrom] at hrun
  | cons spec specs ih =>
    by_cases hconflicts : Conflicts wraps start earlier spec
    · exact ⟨[], spec, specs, rfl, trivial, by rwa [List.append_nil]⟩
    · rcases applyOne_cases wraps spec store with ⟨outcome, record, hsettles, hone⟩ |
        ⟨record, drift', hfound, hconflict, -⟩ | ⟨record, e, hfound, hiterable, hne, hone⟩
      · -- the spec is settled, so the conflict comes later
        have hfails : ¬ Fails wraps start earlier spec := by
          rw [h.fails_iff]
          rintro ⟨found, hfound, hiterable⟩
          generalize store.fields spec.name = o at hsettles hfound
          cases hsettles with
          | created => cases hfound
          | updated hdiff | unchanged hdiff =>
            obtain rfl := Option.some.inj hfound
            exact hiterable (diff_ok_iff.mp ⟨_, hdiff⟩)
        rw [applyFrom, hone] at hrun
        obtain ⟨before, s, rest, rfl, hpasses, hconflict⟩ := ih (h.settle hconflicts hsettles) hrun
        refine ⟨spec :: before, s, rest, rfl, ⟨hconflicts, hfails, hpasses⟩, ?_⟩
        rwa [List.append_assoc] at hconflict
      · exact absurd (h.conflicts_iff.mpr ⟨record, hfound, hconflict⟩) hconflicts
      · rw [applyFrom, hone] at hrun
        exact absurd (Except.error.inj (Prod.mk.inj hrun).1) (hne name drift observed)

theorem invariant_start : Invariant wraps start [] start :=
  ⟨fun _ _ => rfl, fun _ hs => absurd hs List.not_mem_nil⟩

end

/-! ## All or nothing -/

/-- If `apply_schema` raises a `SchemaError`, it has written nothing and the custom fields
    are as they were. -/
def Atomic (wraps : Bool) (start : FieldStore) (specs : List CustomFieldSpec) : Prop :=
  ∀ name drift observed t, applySchema (FieldStore.endpoint wraps) specs start =
    (.error (.schemaError name drift observed), t) → t = start

/-- **All-or-nothing exactly when the specs in front of the conflicting one match already.** -/
theorem atomic_iff (wraps : Bool) (start : FieldStore) (specs : List CustomFieldSpec) :
    Atomic wraps start specs ↔
    ∀ before spec, FirstConflict wraps start specs before spec → ∀ s ∈ before, Matches wraps start s := by
  constructor
  · rintro hatomic before spec ⟨⟨rest, rfl⟩, hpasses, hconflict⟩
    obtain ⟨report, t, ws, hrun, hinv, -, hsame⟩ :=
      run_passes hpasses invariant_start ⟨[], [], []⟩ (spec :: rest)
    obtain ⟨record, hfound, hconflict⟩ := hinv.conflicts_iff.mp hconflict
    obtain ⟨drift, hone⟩ := applyOne_of_conflictsWith hfound hconflict
    rw [← hsame]
    refine hatomic spec.name drift (record.shown wraps) t ?_
    rw [applySchema, hrun, applyFrom, hone]
  · intro hmatches name drift observed t herror
    obtain ⟨before, spec, rest, rfl, hpasses, hconflict⟩ := exists_conflict invariant_start herror
    obtain ⟨report, t', ws, hrun, hinv, -, hsame⟩ :=
      run_passes hpasses invariant_start ⟨[], [], []⟩ (spec :: rest)
    have hkept := hsame.mpr (hmatches before spec ⟨⟨rest, rfl⟩, hpasses, hconflict⟩)
    obtain ⟨record, hfound, hconflict⟩ := hinv.conflicts_iff.mp hconflict
    obtain ⟨drift', hone⟩ := applyOne_of_conflictsWith hfound hconflict
    rw [applySchema, hrun, applyFrom, hone] at herror
    exact (Prod.mk.inj herror).2.symm.trans hkept

/-- Netbox with one custom field, `roce_tc`, as text. -/
def roceTcAsText : FieldStore where
  fields name :=
    if name = "roce_tc" then
      some (Record.blank.overwrite [("name", .str "roce_tc"), ("type", .str "text"),
        ("object_types", .list ["dcim.interface"])])
    else none
  writes := []

/-- The default schema creates `bf3_mode` there before it raises. -/
theorem roceTcAsText_not_atomic : ¬ Atomic true roceTcAsText defaultFields := by
  intro h
  have hwrites := congrArg FieldStore.writes (h _ _ _ _ rfl)
  have hposted : (applySchema (FieldStore.endpoint true) defaultFields roceTcAsText).2.writes =
      [.post "bf3_mode"] := rfl
  rw [show roceTcAsText.writes = [] from rfl] at hwrites
  exact absurd (hposted.symm.trans hwrites) (by simp)

end Netbox
end HostConfig
