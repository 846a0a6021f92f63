import HostConfig.Lib.Interleaving
import HostConfig.Netbox.SchemaConvergence

/-!
# `Netbox.SchemaDeployments` — `apply_schema`, run by several at once and cut off anywhere

A deployment is a run of `apply_schema` under way: a step of it is one call to Netbox. Any number of
deployments share one Netbox, in every order of their calls, and a call may be lost on the way there or on
the way back: the deployment raises then, though the field may be written. Alone, with every call served, a
deployment is `apply_schema` (`deployment_alone`).

All of them apply specs of one schema. Then a field is always as it was at the beginning or as its spec
settles it (`Within`), it is created at most once, and where one deployment has returned the fields are
those one run alone would have left (`deployed`).
-/

namespace HostConfig
namespace Netbox

/-! ## A call that may be lost -/

/-- What becomes of a call. -/
inductive Answer
  | served
  /-- The call does not reach Netbox. -/
  | lost (cause : String)
  /-- Netbox does what it is asked for, and the caller does not learn of it. -/
  | unanswered (cause : String)
deriving DecidableEq

/-- Why a read raises, if it does. -/
def Answer.failure : Answer → Option String
  | .served           => none
  | .lost cause       => some cause
  | .unanswered cause => some cause

/-- A write: what the caller gets, and the store after it. -/
def Answer.call (answer : Answer) (store : FieldStore) (written : Except String FieldStore) :
    Except String Unit × FieldStore :=
  match answer, written with
  | .lost cause,       _            => (.error cause, store)
  | .served,           .ok store'   => (.ok (), store')
  | .unanswered cause, .ok store'   => (.error cause, store')
  | _,                 .error cause => (.error cause, store)

/-- Netbox keeps the names of custom fields distinct. -/
def FieldStore.post (store : FieldStore) (payload : Payload) : Except String FieldStore :=
  let name := payloadName payload
  match store.fields name with
  | some _ => .error "400 Bad Request"
  | none   => .ok (store.put name (Record.blank.overwrite payload) (.post name))

def FieldStore.patch (store : FieldStore) (name : String) (payload : Payload) : Except String FieldStore :=
  match store.fields name with
  | none        => .error "404 Not Found"
  | some record => .ok (store.put name (record.overwrite payload) (.patch name))

/-! ## Deployments -/

/-- Where the loop stands. -/
inductive Stage
  /-- `_fetch_existing` of the next spec; with none left, the run has returned. -/
  | fetching (specs : List CustomFieldSpec)
  /-- `_create` -/
  | creating (spec : CustomFieldSpec) (specs : List CustomFieldSpec)
  /-- `_patch`, before its own `get` and before its `update`. -/
  | patching (spec : CustomFieldSpec) (specs : List CustomFieldSpec)
  | updating (spec : CustomFieldSpec) (specs : List CustomFieldSpec)
  | raised (e : SchemaExc)

/-- A run of `apply_schema`: its argument, its report so far, and where it stands. -/
structure Deployment where
  fields : List CustomFieldSpec
  report : SchemaApplyReport
  stage : Stage

namespace Deployment

def start (fields : List CustomFieldSpec) : Deployment := ⟨fields, ⟨[], [], []⟩, .fetching fields⟩

/-- The record is fetched, and compared with the spec. -/
def fetched (wraps : Bool) (d : Deployment) (spec : CustomFieldSpec) (specs : List CustomFieldSpec)
    (found : Option Record) : Deployment :=
  match found with
  | none        => { d with stage := .creating spec specs }
  | some record =>
      let existing := record.shown wraps
      match diff spec existing with
      | .error e  => { d with stage := .raised e }
      | .ok drift =>
          if drift = [] then ⟨d.fields, d.report.add .unchanged spec.name, .fetching specs⟩
          else if !isRecoverable drift then
            { d with stage := .raised (.schemaError spec.name (StableSort.sortedBy (· ≤ ·) id drift) existing) }
          else { d with stage := .patching spec specs }

def raise (d : Deployment) (operation cause : String) : Deployment :=
  { d with stage := .raised (.netboxQueryError operation cause) }

/-- A write has been answered. -/
def wrote (d : Deployment) (operation : String) (outcome : Outcome) (spec : CustomFieldSpec)
    (specs : List CustomFieldSpec) : Except String Unit → Deployment
  | .ok _        => ⟨d.fields, d.report.add outcome spec.name, .fetching specs⟩
  | .error cause => d.raise operation cause

/-- `_patch` has fetched the record again. -/
def refetched (d : Deployment) (spec : CustomFieldSpec) (specs : List CustomFieldSpec) :
    Option Record → Deployment
  | none   => d.raise "update_custom_field" "'NoneType' object has no attribute 'update'"
  | some _ => { d with stage := .updating spec specs }

/-- The next call. -/
def advance (wraps : Bool) (answer : Answer) (store : FieldStore) (d : Deployment) :
    Option (FieldStore × Deployment) :=
  match d.stage with
  | .fetching []              => none
  | .fetching (spec :: specs) =>
      some (store, answer.failure.elim (d.fetched wraps spec specs (store.fields spec.name))
        (d.raise "get_custom_field"))
  | .creating spec specs      =>
      let (result, store) := answer.call store (store.post spec.toPayload)
      some (store, d.wrote "create_custom_field" .created spec specs result)
  | .patching spec specs      =>
      some (store, answer.failure.elim (d.refetched spec specs (store.fields spec.name))
        (d.raise "update_custom_field"))
  | .updating spec specs      =>
      let (result, store) := answer.call store (store.patch spec.name spec.toPayload)
      some (store, d.wrote "update_custom_field" .updated spec specs result)
  | .raised _                 => none

def returned (d : Deployment) : Bool :=
  match d.stage with
  | .fetching [] => true
  | _            => false

theorem stage_of_returned {d : Deployment} (h : d.returned = true) : d.stage = .fetching [] := by
  unfold returned at h
  split at h
  · assumption
  · cases h

end Deployment

/-- Netbox and the deployments so far. -/
abbrev Deployments := Interleaving.System FieldStore Deployment

abbrev deploymentStep (wraps : Bool) :
    Deployments → Interleaving.Event Answer (List CustomFieldSpec) → Option Deployments :=
  Interleaving.step Deployment.start (Deployment.advance wraps)

/-! ## What a spec settles -/

section

variable {wraps : Bool} {start store store' : FieldStore} {spec : CustomFieldSpec}
  {schema : List CustomFieldSpec}
  {found : Option Record} {outcome outcome' : Outcome} {record record' : Record}

/-- A spec settles a record in one way. -/
theorem settles_unique (h : Settles wraps spec found outcome record)
    (h' : Settles wraps spec found outcome' record') : outcome = outcome' ∧ record = record' := by
  cases h with
  | created =>
    cases h'
    exact ⟨rfl, rfl⟩
  | updated hdiff hdrift =>
    cases h' with
    | updated => exact ⟨rfl, rfl⟩
    | unchanged hdiff' =>
      rw [hdiff] at hdiff'
      exact absurd (Except.ok.inj hdiff') hdrift
  | unchanged hdiff =>
    cases h' with
    | updated hdiff' hdrift' =>
      rw [hdiff] at hdiff'
      exact absurd (Except.ok.inj hdiff').symm hdrift'
    | unchanged => exact ⟨rfl, rfl⟩

/-- The same write twice is one write. -/
theorem overwrite_overwrite (payload : Payload) :
    (record.overwrite payload).overwrite payload = record.overwrite payload := by
  funext key
  unfold Record.overwrite
  cases hlookup : payload.lookup key <;> simp

variable (wraps start)

/-- The field has the record that one run alone would have left. -/
def SettledBy (store : FieldStore) (spec : CustomFieldSpec) : Prop :=
  ∃ outcome record, Settles wraps spec (start.fields spec.name) outcome record ∧
    store.fields spec.name = some record

/-- At the beginning, the field has drift, and all of it can be patched. -/
def Drifts (spec : CustomFieldSpec) : Prop :=
  ∃ record drift, start.fields spec.name = some record ∧
    diff spec (record.shown wraps) = .ok drift ∧ drift ≠ [] ∧
    isRecoverable drift = true

/-- Every field is as it was at the beginning or settled, and none has been created twice. -/
structure Within (schema : List CustomFieldSpec) (store : FieldStore) : Prop where
  fields : ∀ name, store.fields name = start.fields name ∨
    ∃ spec ∈ schema, spec.name = name ∧ SettledBy wraps start store spec
  posts : ∃ ws, store.writes = start.writes ++ ws ∧ (ws.filterMap Write.posted).Nodup ∧
    ∀ name ∈ ws.filterMap Write.posted, store.fields name ≠ none

/-- A settled field stays what it is. -/
def Keeping (schema : List CustomFieldSpec) (store store' : FieldStore) : Prop :=
  ∀ spec ∈ schema, SettledBy wraps start store spec → store'.fields spec.name = store.fields spec.name

variable {wraps start}

theorem Keeping.refl : Keeping wraps start schema store store := fun _ _ _ => rfl

/-- What is settled stays so under writes that keep the schema's fields. -/
theorem SettledBy.keep (h : SettledBy wraps start store spec) (hspec : spec ∈ schema)
    (hkeeping : Keeping wraps start schema store store') : SettledBy wraps start store' spec := by
  have hsame := hkeeping spec hspec h
  obtain ⟨outcome, record, hsettles, hfound⟩ := h
  exact ⟨outcome, record, hsettles, hsame.trans hfound⟩

theorem Within.of_start : Within wraps start schema start where
  fields _ := .inl rfl
  posts := ⟨[], by simp, List.nodup_nil, by simp⟩

/-- During a run a field is as at its start, or settled. -/
theorem Within.cases (h : Within wraps start schema store) (hnames : (schema.map (·.name)).Nodup)
    (hspec : spec ∈ schema) :
    store.fields spec.name = start.fields spec.name ∨ SettledBy wraps start store spec := by
  rcases h.fields spec.name with hsame | ⟨other, hother, hname, hsettled⟩
  · exact .inl hsame
  · obtain rfl := List.inj_on_of_nodup_map hnames hother hspec hname
    exact .inr hsettled

/-- A settled field has no drift. -/
theorem SettledBy.diff (h : SettledBy wraps start store spec) (hplain : spec.default.Plain)
    (hfound : store.fields spec.name = some record) : diff spec (record.shown wraps) = .ok [] := by
  obtain ⟨outcome, record', hsettles, hfound'⟩ := h
  obtain rfl := Option.some.inj (hfound.symm.trans hfound')
  exact diff_settled hplain hsettles

/-- A write of what the spec settles. -/
theorem put_settled (store : FieldStore) (hnames : (schema.map (·.name)).Nodup) (hspec : spec ∈ schema)
    (hsettles : Settles wraps spec (start.fields spec.name) outcome record) (write : Write) :
    SettledBy wraps start (store.put spec.name record write) spec ∧
      Keeping wraps start schema store (store.put spec.name record write) := by
  refine ⟨⟨outcome, record, hsettles, FieldStore.put_self ..⟩, ?_⟩
  rintro other hother ⟨outcome', record', hsettles', hfound'⟩
  by_cases hname : other.name = spec.name
  · obtain rfl := List.inj_on_of_nodup_map hnames hother hspec hname
    rw [FieldStore.put_self, hfound', (settles_unique hsettles hsettles').2]
  · exact FieldStore.put_of_ne _ _ _ _ hname

/-- A write that settles a field stays within. -/
theorem Within.put {write : Write} (h : Within wraps start schema store)
    (hnames : (schema.map (·.name)).Nodup)
    (hspec : spec ∈ schema) (hsettles : Settles wraps spec (start.fields spec.name) outcome record)
    (hwrite : write = .patch spec.name ∨ write = .post spec.name ∧ store.fields spec.name = none) :
    Within wraps start schema (store.put spec.name record write) := by
  obtain ⟨hsettled, hkeeping⟩ := put_settled store hnames hspec hsettles write
  constructor
  case fields =>
    intro name
    by_cases hname : name = spec.name
    · exact .inr ⟨spec, hspec, hname.symm, hsettled⟩
    · rcases h.fields name with hsame | ⟨other, hother, hother', hsettled'⟩
      · exact .inl ((FieldStore.put_of_ne _ _ _ _ hname).trans hsame)
      · exact .inr ⟨other, hother, hother', hsettled'.keep hother hkeeping⟩
  case posts =>
    obtain ⟨ws, hwrites, hnodup, hthere⟩ := h.posts
    refine ⟨ws ++ [write], by simp [hwrites], ?_, ?_⟩
    · rcases hwrite with rfl | ⟨rfl, hnone⟩
      · rw [List.filterMap_append, show [Write.patch spec.name].filterMap Write.posted = [] from rfl,
          List.append_nil]
        exact hnodup
      · -- the name is not among those created before: these have fields
        have hnew : spec.name ∉ ws.filterMap Write.posted := fun hmem => hthere _ hmem hnone
        simp only [List.filterMap_append, List.filterMap_cons, Write.posted, List.filterMap_nil]
        exact List.nodup_append'.mpr ⟨hnodup, List.nodup_singleton _, by simpa using hnew⟩
    · intro name hname
      by_cases hsame : name = spec.name
      · simp [hsame]
      · rw [FieldStore.put_of_ne _ _ _ _ hsame]
        apply hthere
        rw [List.filterMap_append] at hname
        rcases List.mem_append.mp hname with hname | hname
        · exact hname
        · rcases hwrite with rfl | ⟨rfl, -⟩
          · simp [Write.posted] at hname
          · exact absurd (by simpa [Write.posted] using hname) hsame

/-! ## A step of a deployment -/

variable (wraps start) in
/-- The specs a deployment is through with are settled; what it knows of the one it is at is
    true of the beginning. -/
def Stands (store : FieldStore) (d : Deployment) : Prop :=
  match d.stage with
  | .fetching specs => ∃ done, d.fields = done ++ specs ∧ ∀ s ∈ done, SettledBy wraps start store s
  | .creating spec specs =>
    ∃ done, d.fields = done ++ spec :: specs ∧ ∀ s ∈ done, SettledBy wraps start store s
  | .patching spec specs | .updating spec specs =>
      Drifts wraps start spec ∧ ∃ done, d.fields = done ++ spec :: specs ∧ ∀ s ∈ done,
        SettledBy wraps start store s
  | .raised e => ∀ name drift observed, e = .schemaError name drift observed →
      ∃ spec ∈ d.fields, spec.name = name ∧
        ∃ record, start.fields spec.name = some record ∧ ConflictsWith wraps spec record

variable {d d' : Deployment} {answer : Answer} {specs : List CustomFieldSpec}

/-- One more spec is settled. -/
theorem settled_concat {done : List CustomFieldSpec} (hdone : ∀ s ∈ done, SettledBy wraps start store s)
    (hspec : SettledBy wraps start store spec) : ∀ s ∈ done ++ [spec], SettledBy wraps start store s := by
  intro s hs
  rcases List.mem_append.mp hs with hs | hs
  · exact hdone s hs
  · exact List.mem_singleton.mp hs ▸ hspec

/-- A deployment stands where it is while another one writes. -/
theorem Stands.keep (h : Stands wraps start store d) (hfields : d.fields ⊆ schema)
    (hkeeping : Keeping wraps start schema store store') : Stands wraps start store' d := by
  have hkeep : ∀ {done rest : List CustomFieldSpec}, d.fields = done ++ rest →
      (∀ s ∈ done, SettledBy wraps start store s) → ∀ s ∈ done, SettledBy wraps start store' s := by
    intro done rest hsplit hdone s hs
    exact (hdone s hs).keep (hfields (hsplit ▸ List.mem_append_left _ hs)) hkeeping
  unfold Stands at h ⊢
  split at h
  · obtain ⟨done, hsplit, hdone⟩ := h
    exact ⟨done, hsplit, hkeep hsplit hdone⟩
  · obtain ⟨done, hsplit, hdone⟩ := h
    exact ⟨done, hsplit, hkeep hsplit hdone⟩
  · obtain ⟨hdrifts, done, hsplit, hdone⟩ := h
    exact ⟨hdrifts, done, hsplit, hkeep hsplit hdone⟩
  · obtain ⟨hdrifts, done, hsplit, hdone⟩ := h
    exact ⟨hdrifts, done, hsplit, hkeep hsplit hdone⟩
  · exact h

theorem stands_raise (d : Deployment) (operation cause : String) :
    Stands wraps start store (d.raise operation cause) := by
  intro name drift observed h
  cases h

/-- A call that raises was refused before the write, or its answer was lost after it. -/
theorem Answer.call_cases (answer : Answer) (store : FieldStore) (written : Except String FieldStore) :
    (∃ cause, answer.call store written = (.error cause, store)) ∨
      ∃ store', written = .ok store' ∧
        (answer.call store written = (.ok (), store') ∨ ∃ cause,
          answer.call store written = (.error cause, store')) := by
  cases written with
  | error cause => cases answer <;> exact .inl ⟨_, rfl⟩
  | ok store' =>
    cases answer with
    | served => exact .inr ⟨store', rfl, .inl rfl⟩
    | lost cause => exact .inl ⟨cause, rfl⟩
    | unanswered cause => exact .inr ⟨store', rfl, .inr ⟨cause, rfl⟩⟩

/-- What a fetched record says: it is settled already, or the spec finds it as it was at the beginning. -/
theorem stands_fetched {done : List CustomFieldSpec} (hwithin : Within wraps start schema store)
    (hnames : (schema.map (·.name)).Nodup) (hspec : spec ∈ schema) (hplain : spec.default.Plain)
    (hsplit : d.fields = done ++ spec :: specs) (hdone : ∀ s ∈ done, SettledBy wraps start store s) :
    Stands wraps start store (d.fetched wraps spec specs (store.fields spec.name)) := by
  cases hfound : store.fields spec.name with
  | none => exact ⟨done, hsplit, hdone⟩
  | some record =>
    unfold Deployment.fetched
    dsimp only
    have hcases := hwithin.cases hnames hspec
    cases hdiff : diff spec (record.shown wraps) with
    | error e =>
      intro name drift observed h
      rw [show e = .schemaError name drift observed from h] at hdiff
      cases error_of_drifted hdiff
    | ok drift =>
      dsimp only
      -- a field with drift is not settled yet
      have hstart : drift ≠ [] → start.fields spec.name = some record := by
        intro hdrift
        rcases hcases with hsame | hsettled
        · exact hsame.symm.trans hfound
        · rw [hsettled.diff hplain hfound] at hdiff
          exact absurd (Except.ok.inj hdiff).symm hdrift
      split
      · rename_i hnil
        refine ⟨done ++ [spec], by simp [hsplit], settled_concat hdone ?_⟩
        rcases hcases with hsame | hsettled
        · rw [hnil] at hdiff
          refine ⟨.unchanged, record, ?_, hfound⟩
          rw [← hsame, hfound]
          exact .unchanged hdiff
        · exact hsettled
      · rename_i hdrift
        split
        · rename_i hrecoverable
          intro name drift' observed h
          cases h
          refine ⟨spec, by simp [hsplit], rfl, record, hstart hdrift, drift, hdiff, ?_⟩
          simpa using hrecoverable
        · rename_i hrecoverable
          exact ⟨⟨record, drift, hstart hdrift, hdiff, hdrift, by simpa using hrecoverable⟩,
            done, hsplit, hdone⟩

/-- A field that is created is settled, -/
theorem post_settles (hwithin : Within wraps start schema store) (hnames : (schema.map (·.name)).Nodup)
    (hspec : spec ∈ schema) (hpost : store.post spec.toPayload = .ok store') : ∃ outcome record,
      Settles wraps spec (start.fields spec.name) outcome record ∧
        store' = store.put spec.name record (.post spec.name) ∧
          (Write.post spec.name = .patch spec.name ∨
            Write.post spec.name = .post spec.name ∧ store.fields spec.name = none) := by
  unfold FieldStore.post at hpost
  dsimp only at hpost
  rw [payloadName_toPayload] at hpost
  split at hpost
  · cases hpost
  · rename_i hnone
    cases hpost
    refine ⟨.created, _, ?_, rfl, .inr ⟨rfl, hnone⟩⟩
    -- a field that is not there has not been there at the beginning
    rcases hwithin.cases hnames hspec with hsame | ⟨_, _, -, hfound⟩
    · rw [← hsame, hnone]
      exact .created
    · rw [hnone] at hfound
      cases hfound

/-- and so is one that is patched, whoever has patched it before. -/
theorem patch_settles (hwithin : Within wraps start schema store) (hnames : (schema.map (·.name)).Nodup)
    (hspec : spec ∈ schema) (hdrifts : Drifts wraps start spec)
    (hpatch : store.patch spec.name spec.toPayload = .ok store') : ∃ outcome record,
      Settles wraps spec (start.fields spec.name) outcome record ∧
        store' = store.put spec.name record (.patch spec.name) ∧
          (Write.patch spec.name = .patch spec.name ∨
            Write.patch spec.name = .post spec.name ∧ store.fields spec.name = none) := by
  obtain ⟨record, drift, hrecord, hdiff, hdrift, hrecoverable⟩ := hdrifts
  have hupdated : Settles wraps spec (start.fields spec.name) .updated (record.overwrite spec.toPayload) := by
    rw [hrecord]
    exact .updated hdiff hdrift hrecoverable
  unfold FieldStore.patch at hpatch
  split at hpatch
  · cases hpatch
  · rename_i record' hfound
    cases hpatch
    refine ⟨.updated, _, hupdated, ?_, .inl rfl⟩
    -- the record is that of the beginning, or another deployment has patched it
    rcases hwithin.cases hnames hspec with hsame | ⟨outcome, record'', hsettles, hfound'⟩
    · rw [hfound, hrecord] at hsame
      rw [Option.some.inj hsame]
    · obtain rfl := Option.some.inj (hfound.symm.trans hfound')
      rw [← (settles_unique hupdated hsettles).2, overwrite_overwrite]

/-- A write that settles the spec, however it is answered. -/
theorem stands_wrote {done : List CustomFieldSpec} {operation : String} (write : Write)
    {written : Except String FieldStore} (hwithin : Within wraps start schema store)
    (hnames : (schema.map (·.name)).Nodup) (hspec : spec ∈ schema) (hsplit : d.fields = done ++ spec :: specs)
    (hdone : ∀ s ∈ done, SettledBy wraps start store s) (hschema : d.fields ⊆ schema)
    (hwritten : ∀ store', written = .ok store' → ∃ outcome record,
      Settles wraps spec (start.fields spec.name) outcome record ∧ store' = store.put spec.name record write ∧
        (write = .patch spec.name ∨ write = .post spec.name ∧ store.fields spec.name = none))
    (outcome : Outcome) :
    let after := answer.call store written
    Within wraps start schema after.2 ∧ Keeping wraps start schema store after.2 ∧
      Stands wraps start after.2 (d.wrote operation outcome spec specs after.1) := by
  dsimp only
  rcases answer.call_cases store written with ⟨cause, hcall⟩ | ⟨store', hok, hcall⟩
  · rw [hcall]
    exact ⟨hwithin, .refl, stands_raise d operation cause⟩
  · obtain ⟨outcome', record, hsettles, rfl, hwrite⟩ := hwritten store' hok
    obtain ⟨hsettled, hkeeping⟩ := put_settled store hnames hspec hsettles write
    have hwithin' := hwithin.put hnames hspec hsettles hwrite
    rcases hcall with hcall | ⟨cause, hcall⟩
    · rw [hcall]
      refine ⟨hwithin', hkeeping, done ++ [spec], by simp [Deployment.wrote, hsplit],
        settled_concat ?_ hsettled⟩
      intro s hs
      exact (hdone s hs).keep (hschema (by simp [hsplit, hs])) hkeeping
    · rw [hcall]
      exact ⟨hwithin', hkeeping, stands_raise d operation cause⟩

theorem fetched_fields {prior : Option Record} : (d.fetched wraps spec specs prior).fields = d.fields := by
  unfold Deployment.fetched
  split
  · rfl
  dsimp only
  split
  · rfl
  split
  · rfl
  split
  · rfl
  · rfl

/-- The argument stays what it is. -/
theorem advance_fields (h : d.advance wraps answer store = some (store', d')) : d'.fields = d.fields := by
  have hwrote : ∀ operation outcome spec specs result,
      (d.wrote operation outcome spec specs result).fields = d.fields := by
    intro operation outcome spec specs result
    cases result <;> rfl
  unfold Deployment.advance at h
  split at h
  · cases h
  · cases h
    cases answer.failure with
    | none => exact fetched_fields
    | some cause => rfl
  · cases h
    exact hwrote _ _ _ _ _
  · rename_i spec specs _
    cases h
    cases answer.failure with
    | none => cases store.fields spec.name <;> rfl
    | some cause => rfl
  · cases h
    exact hwrote _ _ _ _ _
  · cases h

/-- **A step of a deployment**: its own write settles a field, and whatever it does leaves
    settled fields alone. -/
theorem advance_keeps (hnames : (schema.map (·.name)).Nodup) (hplain : ∀ spec ∈ schema, spec.default.Plain)
    (hwithin : Within wraps start schema store) (hschema : d.fields ⊆ schema)
    (hstands : Stands wraps start store d) (h : d.advance wraps answer store = some (store', d')) :
    Within wraps start schema store' ∧ Keeping wraps start schema store store' ∧
      Stands wraps start store' d' := by
  unfold Deployment.advance at h
  unfold Stands at hstands
  split at h
  · cases h
  · rename_i spec specs hstage
    rw [hstage] at hstands
    obtain ⟨done, hsplit, hdone⟩ := hstands
    cases h
    have hspec : spec ∈ schema := hschema (by simp [hsplit])
    refine ⟨hwithin, .refl, ?_⟩
    cases answer.failure with
    | none => exact stands_fetched hwithin hnames hspec (hplain spec hspec) hsplit hdone
    | some cause => exact stands_raise _ _ _
  · rename_i spec specs hstage
    rw [hstage] at hstands
    obtain ⟨done, hsplit, hdone⟩ := hstands
    cases h
    have hspec : spec ∈ schema := hschema (by simp [hsplit])
    exact stands_wrote (.post spec.name) hwithin hnames hspec hsplit hdone hschema
      (fun _ => post_settles hwithin hnames hspec) _
  · rename_i spec specs hstage
    rw [hstage] at hstands
    obtain ⟨hdrifts, done, hsplit, hdone⟩ := hstands
    cases h
    refine ⟨hwithin, .refl, ?_⟩
    cases answer.failure with
    | none =>
      cases store.fields spec.name with
      | none => exact stands_raise _ _ _
      | some record => exact ⟨hdrifts, done, hsplit, hdone⟩
    | some cause => exact stands_raise _ _ _
  · rename_i spec specs hstage
    rw [hstage] at hstands
    obtain ⟨hdrifts, done, hsplit, hdone⟩ := hstands
    cases h
    have hspec : spec ∈ schema := hschema (by simp [hsplit])
    exact stands_wrote (.patch spec.name) hwithin hnames hspec hsplit hdone hschema
      (fun _ => patch_settles hwithin hnames hspec hdrifts) _
  · cases h

/-! ## One run alone -/

/-- How a deployment has ended. -/
def Deployment.Ended (d : Deployment) : Except SchemaExc SchemaApplyReport → Prop
  | .ok report => d.returned = true ∧ d.report = report
  | .error e   => d.stage = .raised e

variable (wraps) in
/-- A deployment alone, with these answers. -/
abbrev alone (store : FieldStore) (d : Deployment) (answers : List Answer) :
    Option (FieldStore × Deployment) :=
  Runs.run (fun r answer => Deployment.advance wraps answer r.1 r.2) (store, d) answers

variable {fields : List CustomFieldSpec} {report : SchemaApplyReport}

/-- A deployment by itself takes the steps of `applyOne`. -/
theorem applyOne_alone : ∃ n, alone wraps store ⟨fields, report, .fetching (spec :: specs)⟩
    (.replicate n .served) =
    some ((applyOne (FieldStore.endpoint wraps) spec store).2,
      match (applyOne (FieldStore.endpoint wraps) spec store).1 with
      | .ok outcome => ⟨fields, report.add outcome spec.name, .fetching specs⟩
      | .error e    => ⟨fields, report, .raised e⟩) := by
  have hfetch : fetchExisting (FieldStore.endpoint wraps) spec.name store =
    .ok ((store.fields spec.name).map (Record.shown wraps)) := rfl
  unfold applyOne
  rw [hfetch]
  cases hfound : store.fields spec.name with
  | none =>
    refine ⟨2, ?_⟩
    simp [alone, Runs.run, Deployment.advance, Answer.failure, Deployment.fetched, Answer.call,
      FieldStore.post,
      payloadName_toPayload, Deployment.wrote, create, FieldStore.endpoint, hfound, Except.mapError]
  | some record =>
    dsimp only [Option.map_some]
    cases hdiff : diff spec (record.shown wraps) with
    | error e =>
      refine ⟨1, ?_⟩
      simp [alone, Runs.run, Deployment.advance, Answer.failure, Deployment.fetched, hfound, hdiff]
    | ok drift =>
      by_cases hnil : drift = []
      · refine ⟨1, ?_⟩
        simp [alone, Runs.run, Deployment.advance, Answer.failure, Deployment.fetched, hfound, hdiff, hnil]
      · cases hrecoverable : isRecoverable drift with
        | false =>
          refine ⟨1, ?_⟩
          simp [alone, Runs.run, Deployment.advance, Answer.failure, Deployment.fetched, hfound, hdiff,
            hnil, hrecoverable]
        | true =>
          refine ⟨3, ?_⟩
          simp [alone, Runs.run, Deployment.advance, Answer.failure, Deployment.fetched, hfound, hdiff,
            hnil, hrecoverable,
            Deployment.refetched, Answer.call, FieldStore.patch, Deployment.wrote, patch, FieldStore.endpoint,
            Except.mapError]

/-- **A deployment alone, with every call served, is `apply_schema`.** -/
theorem deployment_alone : ∃ n d, alone wraps store ⟨fields, report, .fetching specs⟩ (.replicate n .served) =
    some ((applyFrom (FieldStore.endpoint wraps) report store specs).2, d) ∧
      d.Ended (applyFrom (FieldStore.endpoint wraps) report store specs).1 := by
  induction specs generalizing report store with
  | nil => exact ⟨0, _, rfl, rfl, rfl⟩
  | cons spec specs ih =>
    obtain ⟨n, hone⟩ : ∃ n, alone wraps store ⟨fields, report, .fetching (spec :: specs)⟩
        (.replicate n .served) = _ :=
      applyOne_alone
    rw [applyFrom]
    cases hresult : applyOne (FieldStore.endpoint wraps) spec store with
    | mk result store' =>
      rw [hresult] at hone
      cases result with
      | error e => exact ⟨n, _, hone, rfl⟩
      | ok outcome =>
        obtain ⟨m, d, hrest, hended⟩ : ∃ m d,
            alone wraps store' ⟨fields, report.add outcome spec.name, .fetching specs⟩
              (.replicate m .served) =
              some (_, d) ∧ d.Ended _ := ih
        refine ⟨n + m, d, ?_, hended⟩
        unfold alone at hone hrest ⊢
        rw [← List.replicate_append_replicate, Runs.run_append, hone]
        exact hrest

/-! ## All deployments -/

/-- A spec that settles its field alone settles it from any state between. -/
theorem settles_within (hwithin : Within wraps start schema store) (hnames : (schema.map (·.name)).Nodup)
    (hspec : spec ∈ schema) (hplain : spec.default.Plain)
    (hsettles : Settles wraps spec (start.fields spec.name) outcome record) :
    ∃ outcome, Settles wraps spec (store.fields spec.name) outcome record := by
  rcases hwithin.cases hnames hspec with hsame | ⟨outcome', record', hsettles', hfound⟩
  · exact ⟨outcome, hsame ▸ hsettles⟩
  · obtain ⟨-, rfl⟩ := settles_unique hsettles hsettles'
    refine ⟨.unchanged, ?_⟩
    rw [hfound]
    exact .unchanged (diff_settled hplain hsettles)

/-- If every spec can be settled, the run returns. -/
theorem returns_of_settles (hnames : (specs.map (·.name)).Nodup)
    (h : ∀ spec ∈ specs, ∃ outcome record, Settles wraps spec (store.fields spec.name) outcome record) :
    ∃ report' t, applyFrom (FieldStore.endpoint wraps) report store specs = (.ok report', t) := by
  induction specs generalizing report store with
  | nil => exact ⟨report, store, rfl⟩
  | cons spec specs ih =>
    rw [List.map_cons, List.nodup_cons] at hnames
    obtain ⟨hnew, hnames⟩ := hnames
    obtain ⟨⟨outcome, record, hsettles⟩, hrest⟩ := List.forall_mem_cons.mp h
    rw [applyFrom]
    rcases applyOne_cases wraps spec store with ⟨outcome', record', -, hone⟩ |
      ⟨record', drift, hfound, hconflict, -⟩ |
      ⟨record', e, hfound, hiterable, -, -⟩
    · rw [hone]
      apply ih hnames
      intro s hs
      rw [settle_of_ne fun hname => hnew (hname ▸ List.mem_map_of_mem hs)]
      exact hrest s hs
    · rw [hfound] at hsettles
      exact absurd hsettles (not_settles_of_conflictsWith hconflict)
    · rw [hfound] at hsettles
      cases hsettles with
      | updated hdiff => exact absurd (diff_ok_iff.mp ⟨_, hdiff⟩) hiterable
      | unchanged hdiff => exact absurd (diff_ok_iff.mp ⟨_, hdiff⟩) hiterable

/-- Where every spec of the schema is settled, the fields are those one run leaves. -/
theorem fields_eq_of_settled (hnames : (schema.map (·.name)).Nodup)
    (hwithin : Within wraps start schema store)
    (hsettled : ∀ spec ∈ schema, SettledBy wraps start store spec) :
    ∃ report u, applySchema (FieldStore.endpoint wraps) schema start = (.ok report, u) ∧
      store.fields = u.fields := by
  obtain ⟨report, u, hrun⟩ : ∃ report u,
      applySchema (FieldStore.endpoint wraps) schema start = (.ok report, u) := by
    apply returns_of_settles hnames
    intro spec hspec
    obtain ⟨outcome, record, hsettles, -⟩ := hsettled spec hspec
    exact ⟨outcome, record, hsettles⟩
  obtain ⟨hdone, hothers, -⟩ := run_settles hnames hrun
  refine ⟨report, u, hrun, funext fun name => ?_⟩
  by_cases hname : name ∈ schema.map (·.name)
  · obtain ⟨spec, hspec, rfl⟩ := List.mem_map.mp hname
    obtain ⟨outcome, record, hsettles, hfound⟩ := hsettled spec hspec
    obtain ⟨record', hfound', hsettles'⟩ := hdone spec hspec
    rw [hfound, hfound', (settles_unique hsettles hsettles').2]
  · rw [hothers name hname]
    rcases hwithin.fields name with hsame | ⟨spec, hspec, rfl, -⟩
    · exact hsame
    · exact absurd (List.mem_map_of_mem hspec) hname

/-- One more run alone ends where a first one would have ended. -/
theorem recovers {u : FieldStore} (hnames : (schema.map (·.name)).Nodup)
    (hplain : ∀ spec ∈ schema, spec.default.Plain) (hwithin : Within wraps start schema store)
    (hrun : applySchema (FieldStore.endpoint wraps) schema start = (.ok report, u)) :
    ∃ report' v, applySchema (FieldStore.endpoint wraps) schema store = (.ok report', v) ∧
      v.fields = u.fields := by
  obtain ⟨hdone, hothers, -⟩ := run_settles hnames hrun
  have hsettles : ∀ spec ∈ schema, ∃ outcome record,
      u.fields spec.name = some record ∧ Settles wraps spec (store.fields spec.name) outcome record := by
    intro spec hspec
    obtain ⟨record, hfound, hsettles⟩ := hdone spec hspec
    obtain ⟨outcome, hsettles'⟩ := settles_within hwithin hnames hspec (hplain spec hspec) hsettles
    exact ⟨outcome, record, hfound, hsettles'⟩
  obtain ⟨report', v, hagain⟩ :
      ∃ report' v, applySchema (FieldStore.endpoint wraps) schema store = (.ok report', v) := by
    apply returns_of_settles hnames
    intro spec hspec
    obtain ⟨outcome, record, -, hspec⟩ := hsettles spec hspec
    exact ⟨outcome, record, hspec⟩
  obtain ⟨hdone', hothers', -⟩ := run_settles hnames hagain
  refine ⟨report', v, hagain, funext fun name => ?_⟩
  by_cases hname : name ∈ schema.map (·.name)
  · obtain ⟨spec, hspec, rfl⟩ := List.mem_map.mp hname
    obtain ⟨outcome, record, hfound, hsettles⟩ := hsettles spec hspec
    obtain ⟨record', hfound', hsettles'⟩ := hdone' spec hspec
    rw [hfound, hfound', (settles_unique hsettles hsettles').2]
  · rw [hothers name hname, hothers' name hname]
    rcases hwithin.fields name with hsame | ⟨spec, hspec, rfl, -⟩
    · exact hsame
    · exact absurd (List.mem_map_of_mem hspec) hname

end

/-- **However many deployments of one schema run at once, and wherever they are cut off**: each field is as
    it was or settled, none is created twice, and a deployment finds a conflict only where there was one at
    the beginning. Where one has returned, having applied all specs, the fields are those one run alone
    leaves; and where none has, one more run alone gets there. -/
theorem deployed (wraps : Bool) (start : FieldStore) (schema : List CustomFieldSpec)
    (hnames : (schema.map (·.name)).Nodup) (hplain : ∀ spec ∈ schema, spec.default.Plain)
    (es : List (Interleaving.Event Answer (List CustomFieldSpec)))
    (hes : ∀ fields, .spawn fields ∈ es → fields ⊆ schema) (t : Deployments)
    (hrun : Runs.run (deploymentStep wraps) ⟨start, []⟩ es = some t) :
    (∀ name, t.shared.fields name = start.fields name ∨
        ∃ spec ∈ schema, spec.name = name ∧ SettledBy wraps start t.shared spec) ∧
      (∃ ws, t.shared.writes = start.writes ++ ws ∧ (ws.filterMap Write.posted).Nodup) ∧
      (∀ d ∈ t.procs, ∀ name drift observed, d.stage = .raised (.schemaError name drift observed) →
        ∃ spec ∈ schema, spec.name = name ∧
          ∃ record, start.fields spec.name = some record ∧ ConflictsWith wraps spec record) ∧
      (∀ d ∈ t.procs, d.returned = true → schema ⊆ d.fields →
        ∃ report u, applySchema (FieldStore.endpoint wraps) schema start = (.ok report, u) ∧
          t.shared.fields = u.fields) ∧
      ∀ report u, applySchema (FieldStore.endpoint wraps) schema start = (.ok report, u) →
        ∃ report' v, applySchema (FieldStore.endpoint wraps) schema t.shared = (.ok report', v) ∧
          v.fields = u.fields := by
  have hallowed : ∀ e ∈ es, ∀ fields, e = .spawn fields → fields ⊆ schema := by
    intro e he fields hspawn
    exact hes fields (hspawn ▸ he)
  obtain ⟨hwithin, hprocs⟩ : Within wraps start schema t.shared ∧
      ∀ d ∈ t.procs, d.fields ⊆ schema ∧ Stands wraps start t.shared d := by
    refine Interleaving.relied (Within wraps start schema) (Keeping wraps start schema)
      (fun store d => d.fields ⊆ schema ∧ Stands wraps start store d)
        ?_ ?_ ?_ hallowed .of_start (by simp) hrun
    · intro fields store hspawn
      exact ⟨hspawn fields rfl, [], rfl, List.forall_mem_nil _⟩
    · rintro i answer store d store' d' - hwithin ⟨hschema, hstands⟩ hmove
      obtain ⟨hwithin', hkeeping, hstands'⟩ := advance_keeps hnames hplain hwithin hschema hstands hmove
      exact ⟨hwithin', hkeeping, advance_fields hmove ▸ hschema, hstands'⟩
    · rintro store store' d hkeeping ⟨hschema, hstands⟩
      exact ⟨hschema, hstands.keep hschema hkeeping⟩
  refine ⟨hwithin.fields, ?_, ?_, ?_, ?_⟩
  · obtain ⟨ws, hwrites, hnodup, -⟩ := hwithin.posts
    exact ⟨ws, hwrites, hnodup⟩
  · intro d hd name drift observed hstage
    obtain ⟨hschema, hstands⟩ := hprocs d hd
    unfold Stands at hstands
    rw [hstage] at hstands
    obtain ⟨spec, hspec, hname, hconflict⟩ := hstands name drift observed rfl
    exact ⟨spec, hschema hspec, hname, hconflict⟩
  · intro d hd hreturned hall
    obtain ⟨-, hstands⟩ := hprocs d hd
    unfold Stands at hstands
    rw [Deployment.stage_of_returned hreturned] at hstands
    obtain ⟨done, hsplit, hdone⟩ := hstands
    apply fields_eq_of_settled hnames hwithin
    intro spec hspec
    exact hdone spec (by simpa [hsplit] using hall hspec)
  · intro report u hrun
    exact recovers hnames hplain hwithin hrun

/-! ### Two deployments at once -/

/-- Both find the first field missing; the second one's `create` is refused, the first one goes on. -/
def race : List (Interleaving.Event Answer (List CustomFieldSpec)) :=
  [.spawn defaultFields, .spawn defaultFields, .act 0 .served, .act 1 .served, .act 0 .served,
    .act 1 .served] ++
    List.replicate 12 (.act 0 .served)

theorem deployed_race : ∃ t, Runs.run (deploymentStep true) ⟨emptyFields, []⟩ race = some t ∧
    t.procs.map Deployment.returned = [true, false] ∧
    ∃ report u, applySchema (FieldStore.endpoint true) defaultFields emptyFields = (.ok report, u) ∧
      t.shared.fields = u.fields := by
  have hcheck : (Runs.run (deploymentStep true) ⟨emptyFields, []⟩ race).map (fun t =>
      (t.procs.map Deployment.returned, t.procs.map (·.fields))) =
      some ([true, false], [defaultFields, defaultFields]) := by
    decide +kernel
  obtain ⟨t, hrun, hended⟩ := Option.map_eq_some_iff.mp hcheck
  obtain ⟨hreturned, hfields⟩ := Prod.mk.inj hended
  refine ⟨t, hrun, hreturned, ?_⟩
  match hprocs : t.procs with
  | [] =>
    rw [hprocs] at hreturned
    cases hreturned
  | d :: rest =>
    rw [hprocs] at hreturned hfields
    have hplain : ∀ spec ∈ defaultFields, spec.default.Plain := by simp [defaultFields, Value.Plain]
    refine (deployed true emptyFields defaultFields (by decide) hplain race ?_ t hrun).2.2.2.1 d ?_ ?_ ?_
    · intro fields hspawn
      have hdefault : fields = defaultFields := by simpa [race] using hspawn
      exact fun spec hspec => hdefault ▸ hspec
    · simp [hprocs]
    · exact (List.cons.inj hreturned).1
    · have hall : d.fields = defaultFields := (List.cons.inj hfields).1
      exact fun spec hspec => hall ▸ hspec

end Netbox
end HostConfig
