import HostConfig.Netbox.CustomFields

/-!
# `Netbox.Schema` — `apply_schema`

For each spec in turn: the existing field is fetched, created if it is absent, compared with the spec if it
is there, and patched if it differs in nothing but recoverable keys. The first field that differs in another
key ends the run with a `SchemaError`; what was written before stays written.

`applySchema` runs on any endpoint. On the store, `Settles` says what one iteration does to its field
(`applyOne_eq_ok`, `applyOne_eq_error`).
-/

namespace HostConfig
namespace Netbox

open StableSort

/-! ## The comparison -/

/-- What leaves `apply_schema` as an exception. -/
inductive SchemaExc
  /-- The field, the drifted keys in order, and the record observed. -/
  | schemaError (fieldName : String) (drift : List String) (observed : Record)
  | netboxQueryError (operation : String) (cause : String)
  | typeError

/-- `s.split("/")[-2] if "/" in s else s` -/
def shortName (s : String) : String :=
  if '/' ∈ s.toList then
    let pieces := s.toList.splitOn '/'
    String.ofList (pieces.getD (pieces.length - 2) [])
  else s

def normalized (objectTypes : List String) : List String := sortedBy (· ≤ ·) id (objectTypes.map shortName)

/-- `_values_equal` -/
def valuesEqual (key : String) (want got : Value) : Except SchemaExc Bool :=
  let got := got.unwrap
  if key = "object_types" then
    match want.elements, got.elements with
    | some want, some got => .ok (normalized want = normalized got)
    | _,         _        => .error .typeError
  else .ok (want.eq got)

/-- The keys of a payload whose values differ from the record's. -/
def drifted (existing : Record) : Payload → Except SchemaExc (List String)
  | []                  => .ok []
  | (key, want) :: rest =>
      match valuesEqual key want (existing key) with
      | .error e  => .error e
      | .ok equal =>
          match drifted existing rest with
          | .error e  => .error e
          | .ok drift => .ok (if equal then drift else key :: drift)

/-- `_diff` -/
def diff (spec : CustomFieldSpec) (existing : Record) : Except SchemaExc (List String) :=
  drifted existing spec.toPayload

def recoverableDriftKeys : List String :=
  ["label", "description", "required", "default", "choices", "validation_minimum", "validation_maximum"]

/-- `_is_recoverable` -/
def isRecoverable (drift : List String) : Bool := drift.all fun key => recoverableDriftKeys.contains key

/-! ## The loop -/

inductive Outcome
  | created | updated | unchanged
deriving DecidableEq

structure SchemaApplyReport where
  created : List String
  updated : List String
  unchanged : List String
deriving DecidableEq

/-- Where the loop appends the name of a spec. -/
def SchemaApplyReport.add (report : SchemaApplyReport) (outcome : Outcome) (name : String) :
    SchemaApplyReport :=
  match outcome with
  | .created   => { report with created := report.created ++ [name] }
  | .updated   => { report with updated := report.updated ++ [name] }
  | .unchanged => { report with unchanged := report.unchanged ++ [name] }

section

variable {σ : Type} (client : CustomFields σ)

/-- `_fetch_existing` -/
def fetchExisting (name : String) (s : σ) : Except SchemaExc (Option Record) :=
  (client.get name s).mapError (.netboxQueryError "get_custom_field")

/-- `_create` -/
def create (spec : CustomFieldSpec) (s : σ) : Except SchemaExc Unit × σ :=
  let (result, s) := client.create spec.toPayload s
  (result.mapError (.netboxQueryError "create_custom_field"), s)

/-- `_patch`: the record is fetched again; `None.update` is caught like a failed call. -/
def patch (spec : CustomFieldSpec) (s : σ) : Except SchemaExc Unit × σ :=
  match client.get spec.name s with
  | .error cause => (.error (.netboxQueryError "update_custom_field" cause), s)
  | .ok none     =>
    (.error (.netboxQueryError "update_custom_field" "'NoneType' object has no attribute 'update'"), s)
  | .ok (some _) =>
      let (result, s) := client.update spec.name spec.toPayload s
      (result.mapError (.netboxQueryError "update_custom_field"), s)

/-- The body of the loop. -/
def applyOne (spec : CustomFieldSpec) (s : σ) : Except SchemaExc Outcome × σ :=
  match fetchExisting client spec.name s with
  | .error e => (.error e, s)
  | .ok none =>
      match create client spec s with
      | (.error e, s) => (.error e, s)
      | (.ok _, s)    => (.ok .created, s)
  | .ok (some existing) =>
      match diff spec existing with
      | .error e  => (.error e, s)
      | .ok drift =>
          if drift = [] then (.ok .unchanged, s)
          else if !isRecoverable drift then
            (.error (.schemaError spec.name (sortedBy (· ≤ ·) id drift) existing), s)
          else
            match patch client spec s with
            | (.error e, s) => (.error e, s)
            | (.ok _, s)    => (.ok .updated, s)

def applyFrom (report : SchemaApplyReport) (s : σ) : List CustomFieldSpec →
    Except SchemaExc SchemaApplyReport × σ
  | []          => (.ok report, s)
  | spec :: specs =>
      match applyOne client spec s with
      | (.error e, s)    => (.error e, s)
      | (.ok outcome, s) => applyFrom (report.add outcome spec.name) s specs

/-- `apply_schema` -/
def applySchema (specs : List CustomFieldSpec) (s : σ) : Except SchemaExc SchemaApplyReport × σ :=
  applyFrom client ⟨[], [], []⟩ s specs

end

/-- `DEFAULT_FIELDS` -/
def defaultFields : List CustomFieldSpec :=
  [{ name := "bf3_mode"
     label := "BlueField-3 mode"
     type := .text
     objectTypes := ["dcim.device"]
     description := "Operating mode of host's BF-3 DPUs. Allowed: nic | dpu | separated-host. v1 lab uses 'nic'."
     default := .str "nic" },
   { name := "roce_tc"
     label := "RoCE traffic class"
     type := .integer
     objectTypes := ["dcim.interface"]
     description := "RoCE v2 traffic class (PFC priority). Standard is 3."
     validationMinimum := some 0
     validationMaximum := some 7 },
   { name := "numa_node"
     label := "NUMA node"
     type := .integer
     objectTypes := ["dcim.interface"]
     description := "NUMA node ID the interface's PCIe root complex sits on."
     validationMinimum := some 0
     validationMaximum := some 7 },
   { name := "sriov_vfs"
     label := "SR-IOV VF count"
     type := .integer
     objectTypes := ["dcim.interface"]
     description := "Target number of SR-IOV virtual functions to provision on this PF."
     validationMinimum := some 0
     validationMaximum := some 128 },
   { name := "gpu_affinity"
     label := "GPU affinity"
     type := .text
     objectTypes := ["dcim.interface"]
     description :=
       "Identifier of the GPU this NIC is paired with on the PCIe topology (e.g., 'GPU0'). For east-west NICs only." },
   { name := "observed_mac"
     label := "Observed MAC"
     type := .text
     objectTypes := ["dcim.interface"]
     description := "MAC last reported by discovery. Disagreement with the canonical mac_address signals NIC " ++
       "replacement or stale inventory." },
   { name := "observed_firmware"
     label := "Observed firmware"
     type := .longtext
     objectTypes := ["dcim.device"]
     description := "JSON blob of observed firmware versions from discovery." }]

/-! ## What the comparison finds -/

section

variable {existing : Record} {payload : Payload} {drift : List String}

theorem valuesEqual_of_ne {key : String} (hkey : key ≠ "object_types") (want got : Value) :
    valuesEqual key want got = .ok (want.eq got.unwrap) := if_neg hkey

theorem valuesEqual_objectTypes (want : List String) (got : Value) :
    valuesEqual "object_types" (.list want) got =
    match got.unwrap.elements with
    | some got => .ok (normalized want = normalized got)
    | none     => .error .typeError := by
  unfold valuesEqual
  rw [if_pos rfl]
  cases got.unwrap.elements <;> rfl

/-- Sorted lists are equal exactly when they hold the same short names. -/
theorem normalized_eq_iff {l m : List String} :
    normalized l = normalized m ↔ (l.map shortName).Perm (m.map shortName) := by
  have hl : (normalized l).Perm (l.map shortName) := sortedBy_perm id (l.map shortName)
  have hm : (normalized m).Perm (m.map shortName) := sortedBy_perm id (m.map shortName)
  constructor
  · intro h
    rw [h] at hl
    exact hl.symm.trans hm
  · intro h
    exact sortedBy_eq_of_perm (fun a _ b _ hab => hab) h

/-- A comparison raises nothing but a `TypeError`, -/
theorem error_of_valuesEqual {key : String} {want got : Value} {e : SchemaExc}
    (h : valuesEqual key want got = .error e) : e = .typeError := by
  unfold valuesEqual at h
  by_cases hkey : key = "object_types"
  · rw [if_pos hkey] at h
    cases hwant : want.elements <;> cases hgot : got.unwrap.elements <;>
      simp [hwant, hgot] at h <;> exact h.symm
  · rw [if_neg hkey] at h
    cases h

/-- and so it is with the drift of a record. -/
theorem error_of_drifted {e : SchemaExc} (h : drifted existing payload = .error e) : e = .typeError := by
  induction payload with
  | nil => cases h
  | cons entry payload ih =>
    obtain ⟨key, want⟩ := entry
    rw [drifted] at h
    cases hequal : valuesEqual key want (existing key) with
    | error e' =>
      simp only [hequal, Except.error.injEq] at h
      rw [← h]
      exact error_of_valuesEqual hequal
    | ok equal =>
      cases hrest : drifted existing payload with
      | error e' =>
        simp only [hequal, hrest, Except.error.injEq] at h
        exact ih (by rw [hrest, h])
      | ok rest => simp [hequal, hrest] at h

/-- Nothing drifted exactly when every value compares equal. -/
theorem drifted_eq_nil : drifted existing payload = .ok [] ↔
    ∀ e ∈ payload, valuesEqual e.1 e.2 (existing e.1) = .ok true := by
  induction payload with
  | nil => simp [drifted]
  | cons e payload ih =>
    obtain ⟨key, want⟩ := e
    rw [drifted, List.forall_mem_cons, ← ih]
    cases valuesEqual key want (existing key) with
    | error e => simp
    | ok equal =>
      cases drifted existing payload with
      | error e => simp
      | ok drift => cases equal <;> simp

/-- What drifted is what compares different. -/
theorem mem_drifted (h : drifted existing payload = .ok drift) (key : String) :
    key ∈ drift ↔ ∃ want, (key, want) ∈ payload ∧ valuesEqual key want (existing key) = .ok false := by
  induction payload generalizing drift with
  | nil =>
    obtain rfl := Except.ok.inj h
    simp
  | cons e payload ih =>
    obtain ⟨key', want'⟩ := e
    rw [drifted] at h
    cases hequal : valuesEqual key' want' (existing key') with
    | error e => simp [hequal] at h
    | ok equal =>
      cases hrest : drifted existing payload with
      | error e => simp [hequal, hrest] at h
      | ok rest =>
        simp only [hequal, hrest, Except.ok.injEq] at h
        have ih := ih hrest
        -- the key of this entry is in the drift exactly if the values differ
        cases equal with
        | true =>
          obtain rfl : rest = drift := h
          rw [ih]
          constructor
          · rintro ⟨want, hmem, hdiff⟩
            exact ⟨want, List.mem_cons_of_mem _ hmem, hdiff⟩
          · rintro ⟨want, hmem, hdiff⟩
            rcases List.mem_cons.mp hmem with heq | hmem
            · obtain ⟨rfl, rfl⟩ := Prod.mk.inj heq
              rw [hequal] at hdiff
              cases hdiff
            · exact ⟨want, hmem, hdiff⟩
        | false =>
          obtain rfl : key' :: rest = drift := h
          rw [List.mem_cons, ih]
          constructor
          · rintro (rfl | ⟨want, hmem, hdiff⟩)
            · exact ⟨want', List.mem_cons_self, hequal⟩
            · exact ⟨want, List.mem_cons_of_mem _ hmem, hdiff⟩
          · rintro ⟨want, hmem, hdiff⟩
            rcases List.mem_cons.mp hmem with heq | hmem
            · exact .inl (Prod.mk.inj heq).1
            · exact .inr ⟨want, hmem, hdiff⟩

/-- The drift is found where each key can be compared, -/
theorem drifted_of_ok (h : ∀ e ∈ payload, ∃ equal, valuesEqual e.1 e.2 (existing e.1) = .ok equal) :
    ∃ drift, drifted existing payload = .ok drift := by
  induction payload with
  | nil => exact ⟨[], rfl⟩
  | cons e payload ih =>
    obtain ⟨⟨equal, hequal⟩, hrest⟩ := List.forall_mem_cons.mp h
    obtain ⟨drift, hdrift⟩ := ih hrest
    exact ⟨_, by rw [drifted, hequal, hdrift]⟩

/-- and only there. -/
theorem ok_of_drifted (h : drifted existing payload = .ok drift) :
    ∀ e ∈ payload, ∃ equal, valuesEqual e.1 e.2 (existing e.1) = .ok equal := by
  induction payload generalizing drift with
  | nil => exact fun e he => absurd he List.not_mem_nil
  | cons e payload ih =>
    obtain ⟨key, want⟩ := e
    rw [drifted] at h
    cases hequal : valuesEqual key want (existing key) with
    | error e => simp [hequal] at h
    | ok equal =>
      cases hrest : drifted existing payload with
      | error e => simp [hequal, hrest] at h
      | ok rest => exact List.forall_mem_cons.mpr ⟨⟨equal, hequal⟩, ih hrest⟩

end

/-- The loop over the observed object types does not fail. -/
def Iterable (existing : Record) : Prop := ((existing "object_types").unwrap.elements).isSome

section

variable {spec : CustomFieldSpec} {existing : Record}

theorem mem_objectTypes : ("object_types", .list spec.objectTypes) ∈ spec.toPayload :=
  CustomFieldSpec.mem_toPayload.mpr (.inl (by simp [CustomFieldSpec.fixedPayload]))

/-- The payload's value for a key that is not `object_types` always compares; that one if the
    loop does not fail. -/
theorem valuesEqual_ok (hiterable : Iterable existing) {e : String × Value} (he : e ∈ spec.toPayload) :
    ∃ equal, valuesEqual e.1 e.2 (existing e.1) = .ok equal := by
  by_cases hkey : e.1 = "object_types"
  · obtain ⟨key, want⟩ := e
    obtain rfl : key = "object_types" := hkey
    have hwant := List.inj_on_of_nodup_map CustomFieldSpec.nodup_keys_toPayload he mem_objectTypes rfl
    obtain rfl := (Prod.mk.inj hwant).2
    obtain ⟨got, hgot⟩ := Option.isSome_iff_exists.mp hiterable
    exact ⟨decide (normalized spec.objectTypes = normalized got), by rw [valuesEqual_objectTypes, hgot]⟩
  · exact ⟨_, valuesEqual_of_ne hkey _ _⟩

/-- **`_diff` fails exactly on object types that cannot be looped over.** -/
theorem diff_ok_iff : (∃ drift, diff spec existing = .ok drift) ↔ Iterable existing := by
  constructor
  · rintro ⟨drift, hdrift⟩
    obtain ⟨equal, hequal⟩ := ok_of_drifted hdrift _ mem_objectTypes
    rw [valuesEqual_objectTypes] at hequal
    unfold Iterable
    cases hgot : (existing "object_types").unwrap.elements with
    | some got => rfl
    | none => simp [hgot] at hequal
  · intro hiterable
    exact drifted_of_ok fun e he => valuesEqual_ok hiterable he

end

/-! ## One iteration on the store -/

section

variable {wraps : Bool} {spec : CustomFieldSpec} {store t : FieldStore} {outcome : Outcome}

/-- What an iteration that does not raise makes of the record it finds. -/
inductive Settles (wraps : Bool) (spec : CustomFieldSpec) : Option Record → Outcome → Record → Prop
  | created : Settles wraps spec none .created (Record.blank.overwrite spec.toPayload)
  | updated {record : Record} {drift : List String} (hdiff : diff spec (record.shown wraps) = .ok drift)
      (hdrift : drift ≠ []) (hrecoverable : isRecoverable drift = true) :
      Settles wraps spec (some record) .updated (record.overwrite spec.toPayload)
  | unchanged {record : Record} (hdiff : diff spec (record.shown wraps) = .ok []) :
      Settles wraps spec (some record) .unchanged record

/-- The store with the record an iteration leaves. -/
def FieldStore.settle (store : FieldStore) (name : String) (record : Record) : Outcome → FieldStore
  | .created   => store.put name record (.post name)
  | .updated   => store.put name record (.patch name)
  | .unchanged => store

/-- An iteration raises a `SchemaError` on a record with drift that is not recoverable. -/
def ConflictsWith (wraps : Bool) (spec : CustomFieldSpec) (record : Record) : Prop :=
  ∃ drift, diff spec (record.shown wraps) = .ok drift ∧ isRecoverable drift = false

theorem payloadName_toPayload : FieldStore.payloadName spec.toPayload = spec.name := rfl

/-- **What one iteration does.** -/
theorem applyOne_cases (wraps : Bool) (spec : CustomFieldSpec) (store : FieldStore) :
    (∃ outcome record, Settles wraps spec (store.fields spec.name) outcome record ∧
      applyOne (FieldStore.endpoint wraps) spec store = (.ok outcome,
        store.settle spec.name record outcome)) ∨
    (∃ record drift, store.fields spec.name = some record ∧ ConflictsWith wraps spec record ∧
      applyOne (FieldStore.endpoint wraps) spec store =
        (.error (.schemaError spec.name drift (record.shown wraps)), store)) ∨
    (∃ record e, store.fields spec.name = some record ∧ ¬ Iterable (record.shown wraps) ∧
      (∀ name drift observed, e ≠ .schemaError name drift observed) ∧
      applyOne (FieldStore.endpoint wraps) spec store = (.error e, store)) := by
  have hfetch : fetchExisting (FieldStore.endpoint wraps) spec.name store =
    .ok ((store.fields spec.name).map (Record.shown wraps)) := rfl
  unfold applyOne
  rw [hfetch]
  cases hfound : store.fields spec.name with
  | none =>
    refine .inl ⟨.created, _, .created, ?_⟩
    simp only [Option.map_none, create, FieldStore.endpoint, payloadName_toPayload]
    rfl
  | some record =>
    rw [Option.map_some]
    dsimp only
    cases hdiff : diff spec (record.shown wraps) with
    | error e =>
      -- the comparison raised: a list was expected and is none
      refine .inr (.inr ⟨record, e, rfl, ?_, ?_, rfl⟩)
      · intro hiterable
        obtain ⟨drift, hdrift⟩ := diff_ok_iff.mpr hiterable
        rw [hdiff] at hdrift
        cases hdrift
      · rw [error_of_drifted hdiff]
        intro name drift observed h
        cases h
    | ok drift =>
      -- no drift, drift that can be patched, drift that cannot
      by_cases hnil : drift = []
      · subst hnil
        exact .inl ⟨.unchanged, record, .unchanged hdiff, rfl⟩
      · dsimp only
        rw [if_neg hnil]
        cases hrecoverable : isRecoverable drift with
        | false => exact .inr (.inl ⟨record, _, rfl, ⟨drift, hdiff, hrecoverable⟩, rfl⟩)
        | true =>
          refine .inl ⟨.updated, _, .updated hdiff hnil hrecoverable, ?_⟩
          simp only [Bool.not_true, patch, FieldStore.endpoint, hfound, Option.map_some]
          rfl

/-- A record in conflict is not settled, -/
theorem not_settles_of_conflictsWith {record record' : Record} (h : ConflictsWith wraps spec record) :
    ¬ Settles wraps spec (some record) outcome record' := by
  obtain ⟨drift, hdrift, hrecoverable⟩ := h
  intro hsettles
  cases hsettles with
  | updated hdiff _ hrecoverable' =>
    rw [hdrift] at hdiff
    obtain rfl := Except.ok.inj hdiff
    rw [hrecoverable] at hrecoverable'
    cases hrecoverable'
  | unchanged hdiff =>
    rw [hdrift] at hdiff
    obtain rfl := Except.ok.inj hdiff
    cases hrecoverable

/-- but refused, with its drift, and the store is left. -/
theorem applyOne_of_conflictsWith {record : Record} (hfound : store.fields spec.name = some record)
    (h : ConflictsWith wraps spec record) : ∃ drift, applyOne (FieldStore.endpoint wraps) spec store =
      (.error (.schemaError spec.name drift (record.shown wraps)), store) := by
  rcases applyOne_cases wraps spec store with ⟨outcome, record', hsettles, -⟩ |
    ⟨record', drift, hfound', -, hone⟩ |
    ⟨record', e, hfound', hiterable, -, -⟩
  · rw [hfound] at hsettles
    exact absurd hsettles (not_settles_of_conflictsWith h)
  · rw [hfound] at hfound'
    obtain rfl := Option.some.inj hfound'
    exact ⟨drift, hone⟩
  · rw [hfound] at hfound'
    obtain rfl := Option.some.inj hfound'
    obtain ⟨drift, hdrift, -⟩ := h
    exact absurd (diff_ok_iff.mp ⟨drift, hdrift⟩) hiterable

end

end Netbox
end HostConfig
