import HostConfig.Netbox.SchemaAtomicity

/-!
# `Netbox.SchemaConvergence` — what a run that returns has done

With pairwise distinct names the iterations do not meet: each spec settles its own field, and the report
says how (`run_settles`). Two results come from this. A second run finds no drift and does nothing
(`applySchema_twice`). The fields have the declared shape, but for the attributes a spec leaves unset: these
are in no payload, so whatever a record has there stays (`converged_iff`).
-/

namespace HostConfig
namespace Netbox

open StableSort

/-! ## The report -/

def Write.posted : Write → Option String
  | .post name => some name
  | .patch _   => none

def Write.patched : Write → Option String
  | .post _     => none
  | .patch name => some name

section

variable (wraps : Bool)

/-- What becomes of a spec, by the field it finds. -/
def outcomeOf (spec : CustomFieldSpec) : Option Record → Outcome
  | none        => .created
  | some record =>
      match diff spec (record.shown wraps) with
      | .ok [] => .unchanged
      | _      => .updated

/-- The names of the specs with this outcome, in spec order. -/
def namesWith (store : FieldStore) (outcome : Outcome) (specs : List CustomFieldSpec) : List String :=
  (specs.filter fun spec => outcomeOf wraps spec (store.fields spec.name) = outcome).map (·.name)

variable {wraps} {spec : CustomFieldSpec} {store t : FieldStore} {specs : List CustomFieldSpec}
  {outcome : Outcome} {record : Record} {found : Option Record}

/-- The outcome of a settled spec can be read off the record before it. -/
theorem outcomeOf_settles (h : Settles wraps spec found outcome record) :
    outcomeOf wraps spec found = outcome := by
  cases h with
  | created => rfl
  | updated hdiff hdrift =>
    unfold outcomeOf
    dsimp only
    rw [hdiff]
    split
    · next hnil => exact absurd (Except.ok.inj hnil) hdrift
    · rfl
  | unchanged hdiff =>
    unfold outcomeOf
    dsimp only
    rw [hdiff]

theorem namesWith_cons (o : Outcome) : namesWith wraps store o (spec :: specs) =
    (if outcomeOf wraps spec (store.fields spec.name) = o then [spec.name] else []) ++
      namesWith wraps store o specs := by
  unfold namesWith
  by_cases h : outcomeOf wraps spec (store.fields spec.name) = o <;> simp [h]

/-- The outcomes depend on the specs' own fields only. -/
theorem namesWith_congr (h : ∀ s ∈ specs, t.fields s.name = store.fields s.name) (o : Outcome) :
    namesWith wraps t o specs = namesWith wraps store o specs := by
  unfold namesWith
  rw [List.filter_congr fun s hs => by rw [h s hs]]

/-- **A run that returns, with distinct names.** -/
theorem run_settles {report report' : SchemaApplyReport} (hnames : (specs.map (·.name)).Nodup)
    (h : applyFrom (FieldStore.endpoint wraps) report store specs = (.ok report', t)) :
    (∀ spec ∈ specs, ∃ record, t.fields spec.name = some record ∧
        Settles wraps spec (store.fields spec.name) (outcomeOf wraps spec (store.fields spec.name)) record) ∧
      (∀ name ∉ specs.map (·.name), t.fields name = store.fields name) ∧
      report' = ⟨report.created ++ namesWith wraps store .created specs,
        report.updated ++ namesWith wraps store .updated specs,
        report.unchanged ++ namesWith wraps store .unchanged specs⟩ ∧
      ∃ ws, t.writes = store.writes ++ ws ∧ ws.filterMap Write.posted = namesWith wraps store .created specs ∧
        ws.filterMap Write.patched = namesWith wraps store .updated specs := by
  induction specs generalizing store report with
  | nil =>
    obtain ⟨hreport, rfl⟩ := Prod.mk.inj h
    obtain rfl := Except.ok.inj hreport
    exact ⟨fun _ hs => absurd hs List.not_mem_nil, fun _ _ => rfl, by simp [namesWith], [], by simp, rfl, rfl⟩
  | cons spec specs ih =>
    rw [List.map_cons, List.nodup_cons] at hnames
    obtain ⟨hnew, hnames⟩ := hnames
    rw [applyFrom] at h
    rcases applyOne_cases wraps spec store with ⟨outcome, record, hsettles, hone⟩ |
      ⟨record, drift, hfound, -, hone⟩ | ⟨record, e, hfound, -, -, hone⟩
    · rw [hone] at h
      obtain ⟨hrest, hothers, hreport, ws, hwrites, hposted, hpatched⟩ := ih hnames h
      have houtcome := outcomeOf_settles hsettles
      -- the later specs find their fields as they were
      have hkept : ∀ s ∈ specs, (store.settle spec.name record outcome).fields s.name =
          store.fields s.name := by
        intro s hs
        apply settle_of_ne
        intro hname
        exact hnew (hname ▸ List.mem_map_of_mem hs)
      have hcongr : ∀ o, namesWith wraps (store.settle spec.name record outcome) o specs =
          namesWith wraps store o specs := namesWith_congr hkept
      refine ⟨?_, ?_, ?_, ?_⟩
      · refine List.forall_mem_cons.mpr ⟨⟨record, ?_, by rw [houtcome]; exact hsettles⟩, ?_⟩
        · rw [hothers spec.name hnew]
          exact settle_self hsettles
        · intro s hs
          have hs' := hrest s hs
          rwa [hkept s hs] at hs'
      · intro name hname
        rw [List.map_cons, List.mem_cons, not_or] at hname
        rw [hothers name hname.2]
        exact settle_of_ne hname.1
      · rw [hreport, hcongr, hcongr, hcongr, namesWith_cons, namesWith_cons, namesWith_cons, houtcome]
        cases outcome <;> simp [SchemaApplyReport.add]
      · rw [hcongr] at hposted hpatched
        rw [namesWith_cons, namesWith_cons, houtcome]
        cases outcome with
        | created =>
          refine ⟨.post spec.name :: ws, by rw [hwrites]; simp [FieldStore.settle], ?_, ?_⟩
          · simp [Write.posted, hposted]
          · simpa [List.filterMap_cons, Write.patched] using hpatched
        | updated =>
          refine ⟨.patch spec.name :: ws, by rw [hwrites]; simp [FieldStore.settle], ?_, ?_⟩
          · simpa [List.filterMap_cons, Write.posted] using hposted
          · simp [Write.patched, hpatched]
        | unchanged => exact ⟨ws, hwrites, by simpa using hposted, by simpa using hpatched⟩
    · rw [hone] at h
      cases (Prod.mk.inj h).1
    · rw [hone] at h
      cases (Prod.mk.inj h).1

/-- **What a run that returns has done**: each field settled from what it was, reported and logged once.
    -/
theorem applySchema_settles {report : SchemaApplyReport} (hnames : (specs.map (·.name)).Nodup)
    (h : applySchema (FieldStore.endpoint wraps) specs store = (.ok report, t)) :
    (∀ spec ∈ specs, ∃ record, t.fields spec.name = some record ∧
        Settles wraps spec (store.fields spec.name) (outcomeOf wraps spec (store.fields spec.name)) record) ∧
      report = ⟨namesWith wraps store .created specs, namesWith wraps store .updated specs,
        namesWith wraps store .unchanged specs⟩ ∧
      ∃ ws, t.writes = store.writes ++ ws ∧ ws.filterMap Write.posted = report.created ∧
        ws.filterMap Write.patched = report.updated := by
  obtain ⟨hsettled, -, hreport, ws, hwrites, hposted, hpatched⟩ := run_settles hnames h
  obtain rfl : report = ⟨namesWith wraps store .created specs, namesWith wraps store .updated specs,
    namesWith wraps store .unchanged specs⟩ := hreport
  exact ⟨hsettled, rfl, ws, hwrites, hposted, hpatched⟩

/-! ## The second run -/

/-- `None`, a string, a number, a boolean or a list of strings. -/
def Value.Plain : Value → Prop
  | .choice _ _ _ | .other _ _ => False
  | _ => True

/-- A plain value is not wrapped. -/
theorem unwrap_of_plain {v : Value} (h : v.Plain) : v.unwrap = v := by
  cases v with
  | choice | other => exact h.elim
  | null | bool | int | float | str | list => rfl

theorem plain_of_mem_toPayload (hdefault : spec.default.Plain) {e : String × Value}
    (he : e ∈ spec.toPayload) : e.2.Plain := by
  obtain ⟨key, v⟩ := e
  rcases CustomFieldSpec.mem_toPayload.mp he with hfixed | hoptional
  · simp only [CustomFieldSpec.fixedPayload, List.mem_cons, List.not_mem_nil, or_false,
      Prod.mk.injEq] at hfixed
    rcases hfixed with ⟨-, rfl⟩ | ⟨-, rfl⟩ | ⟨-, rfl⟩ | ⟨-, rfl⟩ | ⟨-, rfl⟩ <;> trivial
  · simp only [CustomFieldSpec.optional, List.mem_cons, List.not_mem_nil, or_false,
      Prod.mk.injEq] at hoptional
    rcases hoptional with ⟨-, h⟩ | ⟨-, h⟩ | ⟨-, h⟩ | ⟨-, h⟩ | ⟨-, h⟩
    · obtain ⟨-, h⟩ := Option.ite_none_right_eq_some.mp h.symm
      obtain rfl := Option.some.inj h
      trivial
    · obtain ⟨-, h⟩ := Option.ite_none_right_eq_some.mp h.symm
      obtain rfl := Option.some.inj h
      exact hdefault
    all_goals
      obtain ⟨_, -, rfl⟩ := Option.map_eq_some_iff.mp h.symm
      trivial

/-- A value the payload wrote reads back as it was written, `type` wrapped or not. -/
theorem unwrap_written (hdefault : spec.default.Plain) {e : String × Value} (he : e ∈ spec.toPayload) :
    ((record.overwrite spec.toPayload).shown wraps e.1).unwrap = e.2 := by
  have hwritten : record.overwrite spec.toPayload e.1 = e.2 := Record.overwrite_of_mem record spec he
  have hplain := unwrap_of_plain (plain_of_mem_toPayload hdefault he)
  rw [Record.unwrap_shown _ (by rw [hwritten, hplain]), hwritten]

/-- **What was written has no drift.** -/
theorem diff_written (hdefault : spec.default.Plain) :
    diff spec ((record.overwrite spec.toPayload).shown wraps) = .ok [] := by
  refine drifted_eq_nil.mpr fun e he => ?_
  have hwritten : ((record.overwrite spec.toPayload).shown wraps e.1).unwrap = e.2 :=
    unwrap_written hdefault he
  by_cases hkey : e.1 = "object_types"
  · obtain ⟨key, want⟩ := e
    obtain rfl : key = "object_types" := hkey
    have hwant := List.inj_on_of_nodup_map CustomFieldSpec.nodup_keys_toPayload he mem_objectTypes rfl
    obtain rfl := (Prod.mk.inj hwant).2
    rw [valuesEqual_objectTypes, hwritten]
    simp [Value.elements]
  · rw [valuesEqual_of_ne hkey, hwritten, Value.eq_self]

/-- A settled record shows no drift. -/
theorem diff_settled (hdefault : spec.default.Plain) (h : Settles wraps spec found outcome record) :
    diff spec (record.shown wraps) = .ok [] := by
  cases h with
  | created => exact diff_written hdefault
  | updated => exact diff_written hdefault
  | unchanged hdiff => exact hdiff

/-- Specs that match are all reported unchanged, and nothing is written. -/
theorem run_matches {report : SchemaApplyReport} (h : ∀ spec ∈ specs, Matches wraps store spec) :
    applyFrom (FieldStore.endpoint wraps) report store specs =
      (.ok { report with unchanged := report.unchanged ++ specs.map (·.name) }, store) := by
  induction specs generalizing report with
  | nil => simp [applyFrom]
  | cons spec specs ih =>
    obtain ⟨⟨record, hfound, hdiff⟩, hrest⟩ := List.forall_mem_cons.mp h
    have hone : applyOne (FieldStore.endpoint wraps) spec store = (.ok .unchanged, store) := by
      rcases applyOne_cases wraps spec store with ⟨outcome, record', hsettles, hone⟩ |
        ⟨record', drift, hfound', ⟨drift', hdrift, hrecoverable⟩, -⟩ | ⟨record', e, hfound', hiterable, -, -⟩
      · have houtcome := outcomeOf_settles hsettles
        rw [hfound, outcomeOf, hdiff] at houtcome
        rw [hone, ← houtcome]
        rfl
      · rw [hfound] at hfound'
        obtain rfl := Option.some.inj hfound'
        rw [hdiff] at hdrift
        obtain rfl := Except.ok.inj hdrift
        cases hrecoverable
      · rw [hfound] at hfound'
        obtain rfl := Option.some.inj hfound'
        exact absurd (diff_ok_iff.mp ⟨[], hdiff⟩) hiterable
    rw [applyFrom, hone]
    dsimp only
    rw [ih hrest]
    simp [SchemaApplyReport.add]

/-- **A run that returns reports its writes, and a second run does nothing.** -/
theorem applySchema_twice {report : SchemaApplyReport} (hnames : (specs.map (·.name)).Nodup)
    (hdefaults : ∀ spec ∈ specs, spec.default.Plain)
    (h : applySchema (FieldStore.endpoint wraps) specs store = (.ok report, t)) :
    (∃ outcome : CustomFieldSpec → Outcome,
        report.created = (specs.filter fun spec => outcome spec = .created).map (·.name) ∧
        report.updated = (specs.filter fun spec => outcome spec = .updated).map (·.name) ∧
        report.unchanged = (specs.filter fun spec => outcome spec = .unchanged).map (·.name)) ∧
      (∃ ws, t.writes = store.writes ++ ws ∧ ws.filterMap Write.posted = report.created ∧
        ws.filterMap Write.patched = report.updated) ∧
      applySchema (FieldStore.endpoint wraps) specs t = (.ok ⟨[], [], specs.map (·.name)⟩, t) := by
  obtain ⟨hsettled, hreport, hwrites⟩ := applySchema_settles hnames h
  refine ⟨⟨fun spec => outcomeOf wraps spec (store.fields spec.name), ?_⟩, hwrites, ?_⟩
  · rw [hreport]
    exact ⟨rfl, rfl, rfl⟩
  · refine run_matches fun spec hspec => ?_
    obtain ⟨record, hfound, hsettles⟩ := hsettled spec hspec
    exact ⟨record, hfound, diff_settled (hdefaults spec hspec) hsettles⟩

end

/-- An empty Netbox. -/
def emptyFields : FieldStore := ⟨fun _ => none, []⟩

theorem applySchema_twice_default :
    ∃ t, applySchema (FieldStore.endpoint true) defaultFields emptyFields =
        (.ok ⟨defaultFields.map (·.name), [], []⟩, t) ∧
      applySchema (FieldStore.endpoint true) defaultFields t =
        (.ok ⟨[], [], defaultFields.map (·.name)⟩, t) := by
  have hrun : applySchema (FieldStore.endpoint true) defaultFields emptyFields =
    (.ok ⟨defaultFields.map (·.name), [], []⟩, _) := rfl
  have hnames : (defaultFields.map (·.name)).Nodup := by decide
  have hdefaults : ∀ spec ∈ defaultFields, spec.default.Plain := by
    simp [defaultFields, Value.Plain]
  exact ⟨_, hrun, (applySchema_twice hnames hdefaults hrun).2.2⟩

/-! ## The declared shape -/

/-- `want` is what the record has, as it is or under `value`. -/
def Same (want got : Value) : Prop := want.eq got = true ∨ want.eq got.unwrap = true

/-- Nothing is set under the key; a description is unset as the empty string too. -/
def IsUnset (key : String) (got : Value) : Prop := got = .null ∨ key = "description" ∧ got = .str ""

/-- The record has the shape the spec declares, in full. -/
structure Declared (spec : CustomFieldSpec) (existing : Record) : Prop where
  label : Same (.str spec.label) (existing "label")
  type : Same (.str spec.type.value) (existing "type")
  required : Same (.bool spec.required) (existing "required")
  /-- In any order and either spelling. -/
  objectTypes : ∃ got, (existing "object_types").unwrap.elements = some got ∧
    (spec.objectTypes.map shortName).Perm (got.map shortName)
  set : ∀ key v, (key, some v) ∈ spec.optional → Same v (existing key)
  unset : ∀ key, (key, none) ∈ spec.optional → IsUnset key (existing key)

/-- Every field has its declared shape after the run, and every field reported unchanged had it before. -/
def Converged (wraps : Bool) (store t : FieldStore) (report : SchemaApplyReport)
    (specs : List CustomFieldSpec) : Prop :=
  (∀ spec ∈ specs, ∃ record, t.fields spec.name = some record ∧ Declared spec (record.shown wraps)) ∧
    ∀ spec ∈ specs, spec.name ∈ report.unchanged →
      ∃ record, store.fields spec.name = some record ∧ Declared spec (record.shown wraps)

/-- What a spec leaves unset is unset in the field it finds, if it finds one. -/
def UnsetBefore (store : FieldStore) (spec : CustomFieldSpec) : Prop :=
  ∀ record, store.fields spec.name = some record → ∀ key, (key, none) ∈ spec.optional →
    IsUnset key (record key)

section

variable {wraps : Bool} {spec : CustomFieldSpec} {store t : FieldStore} {specs : List CustomFieldSpec}
  {outcome : Outcome} {record : Record} {found : Option Record}

/-- After an iteration, what its payload sets compares equal. -/
theorem same_of_settles (h : Settles wraps spec found outcome record) {key : String} {v : Value}
    (hmem : (key, v) ∈ spec.toPayload) (hkey : key ≠ "object_types") : Same v (record.shown wraps key) := by
  have hwritten : ∀ r : Record, Same v ((r.overwrite spec.toPayload).shown wraps key) := by
    intro r
    have hval : r.overwrite spec.toPayload key = v := Record.overwrite_of_mem r spec hmem
    unfold Record.shown
    by_cases hwrapped : (wraps && key = "type") = true
    · rw [if_pos hwrapped, hval]
      exact .inr (Value.eq_self v)
    · rw [if_neg hwrapped, hval]
      exact .inl (Value.eq_self v)
  cases h with
  | created => exact hwritten Record.blank
  | updated => exact hwritten _
  | unchanged hdiff =>
    have hequal : valuesEqual key v (record.shown wraps key) = .ok true := drifted_eq_nil.mp hdiff _ hmem
    rw [valuesEqual_of_ne hkey] at hequal
    exact .inr (Except.ok.inj hequal)

theorem mem_fixed {e : String × Value} (he : e ∈ spec.fixedPayload) : e ∈ spec.toPayload :=
  CustomFieldSpec.mem_toPayload.mpr (.inl he)

/-- **An iteration leaves the declared shape, but for what the spec leaves unset.** -/
theorem declared_iff_of_settles (h : Settles wraps spec found outcome record) :
    Declared spec (record.shown wraps) ↔ ∀ key, (key, none) ∈ spec.optional →
      IsUnset key (record.shown wraps key) := by
  refine ⟨fun hdeclared => hdeclared.unset, fun hunset => ?_⟩
  obtain ⟨-, -, got, hgot, hobjects⟩ := keeps_iff.mp (keeps_of_settles h)
  refine ⟨?_, ?_, ?_, ⟨got, hgot, normalized_eq_iff.mp hobjects⟩, ?_, hunset⟩
  · exact same_of_settles h (mem_fixed (by simp [CustomFieldSpec.fixedPayload])) (by decide)
  · exact same_of_settles h (mem_fixed (by simp [CustomFieldSpec.fixedPayload])) (by decide)
  · exact same_of_settles h (mem_fixed (by simp [CustomFieldSpec.fixedPayload])) (by decide)
  · intro key v hset
    have hmem := CustomFieldSpec.mem_toPayload.mpr (.inr hset)
    refine same_of_settles h hmem ?_
    have hkey : key ∈ spec.optional.map (·.1) := List.mem_map.mpr ⟨_, hset, rfl⟩
    rintro rfl
    simp [CustomFieldSpec.optional] at hkey

/-- **A key that is left unset keeps what it had.** -/
theorem unset_of_settles (h : Settles wraps spec found outcome record) {key : String}
    (hunset : (key, none) ∈ spec.optional) : record.shown wraps key = (found.getD Record.blank) key := by
  have hnotMem := CustomFieldSpec.notMem_keys_of_unset hunset
  have hkey : key ≠ "type" := by
    have hmem : key ∈ spec.optional.map (·.1) := List.mem_map.mpr ⟨_, hunset, rfl⟩
    rintro rfl
    simp [CustomFieldSpec.optional] at hmem
  rw [Record.shown_of_ne _ hkey]
  cases h with
  | created => exact Record.overwrite_of_notMem _ _ hnotMem
  | updated => exact Record.overwrite_of_notMem _ _ hnotMem
  | unchanged => rfl

/-- The record is as declared, defaults included, exactly if what the spec leaves unset was unset before.
    -/
theorem declared_iff (h : Settles wraps spec (store.fields spec.name) outcome record) :
    Declared spec (record.shown wraps) ↔ UnsetBefore store spec := by
  rw [declared_iff_of_settles h, UnsetBefore]
  constructor
  · intro hunset found hfound key hkey
    have hkept := unset_of_settles h hkey
    rw [hfound, Option.getD_some] at hkept
    rw [← hkept]
    exact hunset key hkey
  · intro hunset key hkey
    rw [unset_of_settles h hkey]
    cases hfound : store.fields spec.name with
    | none => exact .inl rfl
    | some found => exact hunset found hfound key hkey

/-- **The declared shape is reached exactly where nothing the specs leave unset was set.** -/
theorem converged_iff {report : SchemaApplyReport} (hnames : (specs.map (·.name)).Nodup)
    (h : applySchema (FieldStore.endpoint wraps) specs store = (.ok report, t)) :
    Converged wraps store t report specs ↔ ∀ spec ∈ specs, UnsetBefore store spec := by
  obtain ⟨hsettled, hreport, -⟩ := applySchema_settles hnames h
  constructor
  · rintro ⟨hdeclared, -⟩ spec hspec
    obtain ⟨record, hfound, hsettles⟩ := hsettled spec hspec
    obtain ⟨record', hfound', hshape⟩ := hdeclared spec hspec
    obtain rfl := Option.some.inj (hfound.symm.trans hfound')
    exact (declared_iff hsettles).mp hshape
  · intro hunset
    constructor
    · intro spec hspec
      obtain ⟨record, hfound, hsettles⟩ := hsettled spec hspec
      exact ⟨record, hfound, (declared_iff hsettles).mpr (hunset spec hspec)⟩
    · intro spec hspec hname
      obtain ⟨record, -, hsettles⟩ := hsettled spec hspec
      have hshape := (declared_iff hsettles).mpr (hunset spec hspec)
      -- the name is that of one spec, which was left alone
      rw [hreport] at hname
      obtain ⟨spec', hspec', hsame⟩ := List.mem_map.mp hname
      obtain ⟨hmem, houtcome⟩ := List.mem_filter.mp hspec'
      obtain rfl := List.inj_on_of_nodup_map hnames hmem hspec hsame
      rw [of_decide_eq_true houtcome] at hsettles
      generalize store.fields spec'.name = found at hsettles
      cases hsettles with
      | unchanged => exact ⟨record, rfl, hshape⟩

end

/-- Netbox with the field `gpu_affinity` of the default schema, and a default value for it. -/
def gpuAffinityDefault : FieldStore where
  fields name :=
    if name = "gpu_affinity" then
      some (Record.blank.overwrite [("name", .str "gpu_affinity"), ("label", .str "GPU affinity"),
        ("type", .str "text"),
        ("object_types", .list ["dcim.interface"]), ("required", .bool false),
        ("description", .str
          "Identifier of the GPU this NIC is paired with on the PCIe topology (e.g., 'GPU0'). For east-west NICs only."),
        ("default", .str "GPU0")])
    else none
  writes := []

/-- Netbox with two fields of the default schema: `roce_tc` under an older label, and
    `gpu_affinity` as declared. -/
def olderFields : FieldStore where
  fields name :=
    if name = "roce_tc" then
      some ((Record.blank.overwrite defaultFields[1].toPayload).overwrite [("label", .str "RoCE TC")])
    else if name = "gpu_affinity" then some (Record.blank.overwrite defaultFields[4].toPayload)
    else none
  writes := []

/-- What a spec leaves unset is unset in the field it is written to. -/
theorem blank_of_unset {spec : CustomFieldSpec} {key : String} (hkey : (key, none) ∈ spec.optional) :
    Record.blank.overwrite spec.toPayload key = .null := by
  rw [Record.overwrite_of_notMem _ _ (CustomFieldSpec.notMem_keys_of_unset hkey)]
  rfl

/-- The label is put right, the other field is left alone, and the rest is created. -/
theorem converged_iff_default : ∃ report t,
    applySchema (FieldStore.endpoint true) defaultFields olderFields = (.ok report, t) ∧
      report.updated = ["roce_tc"] ∧ report.unchanged = ["gpu_affinity"] ∧
        Converged true olderFields t report defaultFields := by
  have hnames : (defaultFields.map (·.name)).Nodup := by decide
  have hlabel : ∀ e ∈ defaultFields[1].optional, e.1 ≠ "label" := by decide
  refine ⟨_, _, rfl, rfl, rfl, (converged_iff hnames rfl).mpr ?_⟩
  intro spec hspec record hfound key hkey
  dsimp only [olderFields] at hfound
  split at hfound
  · rename_i hname
    obtain rfl := Option.some.inj hfound
    obtain rfl : spec = defaultFields[1] := List.inj_on_of_nodup_map hnames hspec (List.getElem_mem _) hname
    have hkept : ((Record.blank.overwrite defaultFields[1].toPayload).overwrite [("label", .str "RoCE TC")])
        key =
        Record.blank.overwrite defaultFields[1].toPayload key := by
      rw [Record.overwrite, List.lookup_cons, beq_false_of_ne (hlabel _ hkey)]
      rfl
    exact .inl (hkept.trans (blank_of_unset hkey))
  · split at hfound
    · rename_i hname
      obtain rfl := Option.some.inj hfound
      obtain rfl : spec = defaultFields[4] := List.inj_on_of_nodup_map hnames hspec (List.getElem_mem _) hname
      exact .inl (blank_of_unset hkey)
    · cases hfound

/-- The default stays, and the field is reported unchanged. -/
theorem gpuAffinity_not_converged :
    ∃ report t, applySchema (FieldStore.endpoint true) defaultFields gpuAffinityDefault = (.ok report, t) ∧
      report.unchanged = ["gpu_affinity"] ∧ ¬ Converged true gpuAffinityDefault t report defaultFields := by
  refine ⟨_, _, rfl, rfl, ?_⟩
  rintro ⟨-, hunchanged⟩
  obtain ⟨record, hfound, hdeclared⟩ := hunchanged defaultFields[4] (List.getElem_mem (by decide)) (by decide)
  obtain rfl := Option.some.inj hfound
  have hunset : IsUnset "default" (.str "GPU0") := hdeclared.unset "default" (by decide)
  rcases hunset with hnull | ⟨hkey, -⟩
  · cases hnull
  · exact absurd hkey (by decide)

end Netbox
end HostConfig
