import HostConfig.Lib.StableSort
import Mathlib.Data.Rat.Defs
import Mathlib.Logic.Function.Basic

/-!
# `Netbox.CustomFields` — custom fields, as Netbox stores them and as the schema declares them

A record is what Netbox answers with: a value for every key, `null` where the key is missing, which is how
`existing.get(key)` reads it. `CustomFields` is the endpoint `client.extras.custom_fields` over any kind of
state; `FieldStore` is Netbox itself, a store keyed by field name, with the log of the writes it was asked
for.

A value is any JSON value. Lists of strings and dicts with the key `value` are told apart, being all the
schema looks into; the others are kept up to `==`.
-/

namespace HostConfig
namespace Netbox

open StableSort

/-! ## Values -/

inductive Value
  | null
  | bool (b : Bool)
  | int (z : Int)
  | float (q : Rat)
  | str (s : String)
  | list (l : List String)
  /-- A dict with the key `value`: what it holds there, its other entries up to `==`, and its keys. -/
  | choice (value : Value) (others : Nat) (keys : List String)
  /-- Any other list or dict, up to `==`, and the strings of what a loop over it runs through. -/
  | other (cls : Nat) (elements : List String)
deriving DecidableEq

namespace Value

/-- Booleans are numbers. -/
def number : Value → Option Rat
  | .bool b  => some (if b then 1 else 0)
  | .int z   => some z
  | .float q => some q
  | _        => none

/-- `a == b` -/
def eq : Value → Value → Bool
  | .null,         .null         => true
  | .str s,        .str t        => s = t
  | .list l,       .list m       => l = m
  | .choice v i _, .choice w j _ => v.eq w && i = j
  | .other c _,    .other d _    => c = d
  | a,             b             =>
      match a.number, b.number with
      | some x, some y => x = y
      | _,      _      => false

theorem eq_self (v : Value) : v.eq v = true := by
  induction v with
  | choice v others keys ih => simp [eq, ih]
  | null | bool | int | float | str | list | other => simp [eq, number]

/-- `got["value"]`, where `got` is a dict with that key. -/
def unwrap : Value → Value
  | .choice v _ _ => v
  | v             => v

/-- The strings of what a loop over `got or []` runs through: `none` where `got` is a number or `True`. -/
def elements : Value → Option (List String)
  | .null          => some []
  | .bool b        => if b then none else some []
  | .int z         => if z = 0 then some [] else none
  | .float q       => if q = 0 then some [] else none
  | .str s         => some (s.toList.map String.singleton)
  | .list l        => some l
  | .choice _ _ ks => some ks
  | .other _ es    => some es

end Value

/-! ## The declared schema -/

inductive FieldType
  | text | longtext | integer | boolean | select | multiselect
deriving DecidableEq

def FieldType.value : FieldType → String
  | .text        => "text"
  | .longtext    => "longtext"
  | .integer     => "integer"
  | .boolean     => "boolean"
  | .select      => "select"
  | .multiselect => "multiselect"

/-- Declarative spec for one custom field; a default of `null` is `None`. -/
structure CustomFieldSpec where
  name : String
  label : String
  type : FieldType
  objectTypes : List String
  description : String := ""
  required : Bool := false
  default : Value := .null
  choices : Option (List String) := none
  validationMinimum : Option Int := none
  validationMaximum : Option Int := none
deriving DecidableEq

/-- A JSON object, in the order its keys were set. -/
abbrev Payload := List (String × Value)

namespace CustomFieldSpec

variable (spec : CustomFieldSpec)

/-- The keys every payload has. -/
def fixedPayload : Payload :=
  [("name", .str spec.name), ("label", .str spec.label), ("type", .str spec.type.value),
    ("object_types", .list spec.objectTypes), ("required", .bool spec.required)]

/-- The attributes that may be unset: the key, the value to declare if there is one. -/
def optional : List (String × Option Value) :=
  [("description", if spec.description ≠ "" then some (.str spec.description) else none),
    ("default", if spec.default ≠ .null then some spec.default else none),
    ("choices", spec.choices.map .list),
    ("validation_minimum", spec.validationMinimum.map .int),
    ("validation_maximum", spec.validationMaximum.map .int)]

/-- `to_payload`: the attributes that are unset are left out. -/
def toPayload : Payload := spec.fixedPayload ++ spec.optional.filterMap fun e => e.2.map fun v => (e.1, v)

/-! ### What a payload holds -/

variable {spec}

theorem mem_toPayload {key : String} {v : Value} :
    (key, v) ∈ spec.toPayload ↔ (key, v) ∈ spec.fixedPayload ∨ (key, some v) ∈ spec.optional := by
  rw [toPayload, List.mem_append, List.mem_filterMap]
  refine or_congr Iff.rfl ⟨?_, fun h => ⟨_, h, rfl⟩⟩
  rintro ⟨⟨key', declared⟩, hmem, hsome⟩
  obtain ⟨w, hw, hpair⟩ := Option.map_eq_some_iff.mp hsome
  obtain ⟨rfl, rfl⟩ := Prod.mk.inj hpair
  rwa [← show declared = some w from hw]

/-- The keys of a payload are some of these, in this order. -/
theorem keys_toPayload : (spec.toPayload.map (·.1)).Sublist ["name", "label", "type",
    "object_types", "required",
    "description", "default", "choices", "validation_minimum", "validation_maximum"] := by
  have hoptional : ∀ l : List (String × Option Value),
      ((l.filterMap fun e => e.2.map fun v => (e.1, v)).map (·.1)).Sublist (l.map (·.1)) := by
    intro l
    induction l with
    | nil => exact .slnil
    | cons e l ih =>
      obtain ⟨key, declared⟩ := e
      cases declared with
      | none => exact ih.cons key
      | some v => exact ih.cons_cons key
  rw [toPayload, List.map_append]
  exact (hoptional spec.optional).append_left (spec.fixedPayload.map (·.1))

theorem nodup_keys_toPayload : (spec.toPayload.map (·.1)).Nodup := by
  refine keys_toPayload.nodup ?_
  decide

/-- A key that is optional and unset is not in the payload. -/
theorem notMem_keys_of_unset {key : String} (h : (key, none) ∈ spec.optional) :
    key ∉ spec.toPayload.map (·.1) := by
  intro hmem
  obtain ⟨⟨key', v⟩, hv, rfl⟩ := List.mem_map.mp hmem
  have hkeys : (spec.optional.map (·.1)).Nodup := by
    show ["description", "default", "choices", "validation_minimum", "validation_maximum"].Nodup
    decide
  rcases mem_toPayload.mp hv with hfixed | hset
  · -- the keys of the two parts are different
    have hpart : key' ∈ spec.fixedPayload.map (·.1) := List.mem_map.mpr ⟨_, hfixed, rfl⟩
    have hpart' : key' ∈ spec.optional.map (·.1) := List.mem_map.mpr ⟨_, h, rfl⟩
    simp only [fixedPayload, optional, List.map_cons, List.map_nil, List.mem_cons, List.not_mem_nil,
      or_false] at hpart hpart'
    rcases hpart with rfl | rfl | rfl | rfl | rfl <;> simp at hpart'
  · have hpair := List.inj_on_of_nodup_map hkeys h hset rfl
    cases (Prod.mk.inj hpair).2

end CustomFieldSpec

/-! ## Records and the store -/

/-- What Netbox has for a custom field. -/
abbrev Record := String → Value

namespace Record

def blank : Record := fun _ => .null

/-- The payload's keys are overwritten and no others. -/
def overwrite (record : Record) (payload : Payload) : Record :=
  fun key => (payload.lookup key).getD (record key)

/-- `type` reads back as a dict with `value` and `label`, where Netbox wraps it. -/
def shown (wraps : Bool) (record : Record) : Record := fun key =>
  if wraps && key = "type" then .choice (record key) 0 ["value", "label"] else record key

theorem lookup_of_mem {payload : Payload} (hnodup : (payload.map (·.1)).Nodup) {key : String} {v : Value}
    (h : (key, v) ∈ payload) : payload.lookup key = some v := by
  induction payload with
  | nil => exact absurd h List.not_mem_nil
  | cons e payload ih =>
    obtain ⟨key', w⟩ := e
    obtain ⟨hnew, hnodup⟩ := List.nodup_cons.mp hnodup
    rw [List.lookup_cons]
    rcases List.mem_cons.mp h with heq | hmem
    · obtain ⟨rfl, rfl⟩ := Prod.mk.inj heq
      simp
    · have hne : (key == key') = false := by
        rw [beq_eq_false_iff_ne]
        rintro rfl
        exact hnew (List.mem_map.mpr ⟨_, hmem, rfl⟩)
      rw [hne]
      exact ih hnodup hmem

section

variable (record : Record) (spec : CustomFieldSpec)

theorem overwrite_of_mem {key : String} {v : Value} (h : (key, v) ∈ spec.toPayload) :
    record.overwrite spec.toPayload key = v := by
  rw [overwrite, lookup_of_mem CustomFieldSpec.nodup_keys_toPayload h]
  rfl

theorem overwrite_of_notMem {key : String} (h : key ∉ spec.toPayload.map (·.1)) :
    record.overwrite spec.toPayload key = record key := by
  have hnone : spec.toPayload.lookup key = none := by
    rw [List.lookup_eq_none_iff]
    intro e he
    have hne : key ≠ e.1 := by
      rintro rfl
      exact h (List.mem_map_of_mem he)
    simpa using hne
  rw [overwrite, hnone]
  rfl

/-- Wrapped or not, a key holds what is stored. -/
theorem unwrap_shown {wraps : Bool} {key : String} (h : (record key).unwrap = record key) :
    (record.shown wraps key).unwrap = record key := by
  unfold shown
  by_cases hkey : (wraps && key = "type") = true
  · rw [if_pos hkey]
    rfl
  · rw [if_neg hkey, h]

theorem shown_of_ne {wraps : Bool} {key : String} (h : key ≠ "type") :
    record.shown wraps key = record key := by
  rw [shown, if_neg]
  simp [h]

end

end Record

/-- The endpoint: every call returns or raises, and leaves a state behind. -/
structure CustomFields (σ : Type) where
  get : String → σ → Except String (Option Record)
  create : Payload → σ → Except String Unit × σ
  /-- The update of the record with this name. -/
  update : String → Payload → σ → Except String Unit × σ

/-- A write the store was asked for. -/
inductive Write
  | post (name : String)
  | patch (name : String)
deriving DecidableEq

/-- Netbox: the custom fields by name, and the writes so far. -/
structure FieldStore where
  fields : String → Option Record
  writes : List Write

namespace FieldStore

/-- The name a payload is stored under. -/
def payloadName (payload : Payload) : String :=
  match payload.lookup "name" with
  | some (.str name) => name
  | _                => ""

def put (store : FieldStore) (name : String) (record : Record) (write : Write) : FieldStore where
  fields := Function.update store.fields name (some record)
  writes := store.writes ++ [write]

def endpoint (wraps : Bool) : CustomFields FieldStore where
  get name store := .ok ((store.fields name).map (Record.shown wraps))
  create payload store :=
    let name := payloadName payload
    (.ok (), store.put name (Record.blank.overwrite payload) (.post name))
  update name payload store :=
    match store.fields name with
    | none        => (.error "404 Not Found", store)
    | some record => (.ok (), store.put name (record.overwrite payload) (.patch name))

section

variable (store : FieldStore) (name : String) (record : Record) (write : Write)

@[simp] theorem put_writes : (store.put name record write).writes = store.writes ++ [write] := rfl

@[simp] theorem put_self : (store.put name record write).fields name = some record := Function.update_self ..

theorem put_of_ne {other : String} (hne : other ≠ name) :
    (store.put name record write).fields other = store.fields other :=
  Function.update_of_ne hne ..

end

end FieldStore

end Netbox
end HostConfig
