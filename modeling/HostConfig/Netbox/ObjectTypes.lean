import HostConfig.Netbox.Schema
import HostConfig.Lib.TextLines

/-!
# `Netbox.ObjectTypes` — object types under Netbox's spellings

A spec declares object types by short identifiers such as `dcim.device`. Netbox shows them in that form or
as URLs that end in the identifier, with a trailing slash or without one. `_values_equal` reads the last but
one piece of an entry with a slash: the identifier where the URL ends in a slash, and the last piece of its
*base* where it does not.

* `shortName_text` — what the comparison reads off each spelling;
* `valuesEqual_spellings` — the comparison is equality of the multisets of these readings;
* `comparesIdentifiers_iff` — when that is equality of the multisets of identifiers, for the comparison, for `_diff`
  and for the loop of `apply_schema` together.
-/

namespace HostConfig
namespace Netbox

open StableSort

/-! ## Spellings -/

/-- An identifier of an object type, as the declared schema writes it. -/
structure ShortIdentifier where
  text : String
  nonempty : text ≠ ""
  noSlash : '/' ∉ text.toList
deriving DecidableEq

/-- How Netbox writes an object type. -/
inductive Spelling
  | short (id : ShortIdentifier)
  | url (base : String) (id : ShortIdentifier) (slash : Bool)

namespace Spelling

def text : Spelling → String
  | short id          => id.text
  | url base id slash => base ++ "/" ++ id.text ++ if slash then "/" else ""

/-- What the spelling denotes. -/
def identifier : Spelling → ShortIdentifier
  | short id   => id
  | url _ id _ => id

/-- The base and the identifier of a URL without a trailing slash. -/
def unslashed : Spelling → Option (String × ShortIdentifier)
  | url base id false => some (base, id)
  | _                 => none

end Spelling

/-- What a text holds after its last slash. -/
def lastPiece (s : String) : String :=
  String.ofList ((s.toList.splitOn '/').getLast (List.splitOn_ne_nil '/' s.toList))

/-- What the comparison reads. -/
def Spelling.reading (s : Spelling) : String :=
  match s.unslashed with
  | some (base, _) => lastPiece base
  | none           => s.identifier.text

/-- The observed entries a trailing slash is missing from. -/
def misread (observed : List Spelling) : List (String × ShortIdentifier) :=
  observed.filterMap Spelling.unslashed

/-! ## Reading one entry -/

section

variable {s t : Spelling} {id : ShortIdentifier}

theorem splitOn_identifier : id.text.toList.splitOn '/' = [id.text.toList] :=
  List.splitOn_eq_singleton id.noSlash

theorem splitOn_url (base : String) (id : ShortIdentifier) (slash : Bool) :
    (Spelling.url base id slash).text.toList.splitOn '/' =
      base.toList.splitOn '/' ++ id.text.toList :: if slash then [[]] else [] := by
  have htext : (Spelling.url base id slash).text.toList =
      base.toList ++ '/' :: (id.text.toList ++ if slash then ['/'] else []) := by
    cases slash <;> simp [Spelling.text]
  rw [htext, List.splitOn_append_cons_self]
  cases slash with
  | false => simp [splitOn_identifier]
  | true =>
    show _ ++ (id.text.toList ++ '/' :: []).splitOn '/' = _
    rw [TextLines.splitOn_ended id.noSlash]
    rfl

/-- Two pieces at the end of a text: the comparison reads the first of them. -/
theorem shortName_of_splitOn {text : String} {pieces : List (List Char)} {p q : List Char}
    (h : text.toList.splitOn '/' = pieces ++ [p, q]) : shortName text = String.ofList p := by
  have hslash : '/' ∈ text.toList := by
    by_contra hno
    rw [List.splitOn_eq_singleton hno] at h
    have hlength := congrArg List.length h
    simp at hlength
  unfold shortName
  rw [if_pos hslash, h]
  simp

/-- **The identifier, or the end of the base where the trailing slash is missing.** -/
theorem shortName_text (s : Spelling) : shortName s.text = s.reading := by
  cases s with
  | short id => exact if_neg id.noSlash
  | url base id slash =>
    have hpieces := splitOn_url base id slash
    cases slash with
    | true =>
      rw [shortName_of_splitOn hpieces]
      exact String.ofList_toList
    | false =>
      -- the base itself ends in the piece that is read
      rw [← List.dropLast_append_getLast (List.splitOn_ne_nil '/' base.toList), List.append_assoc] at hpieces
      exact shortName_of_splitOn hpieces

end

/-! ## Comparing the lists -/

section

variable (declared : List ShortIdentifier) (observed : List Spelling)

/-- The two lists denote the same multiset of identifiers. -/
def SameObjectTypes : Prop := (declared.map (·.text)).Perm (observed.map (·.identifier.text))

instance : Decidable (SameObjectTypes declared observed) := inferInstanceAs (Decidable (List.Perm _ _))

/-- The comparison reads the same multiset off the two lists. -/
def SameReadings : Prop := (declared.map (·.text)).Perm (observed.map Spelling.reading)

instance : Decidable (SameReadings declared observed) := inferInstanceAs (Decidable (List.Perm _ _))

/-- The URLs without a trailing slash have the identifiers they end in, in some order, at the
    ends of their bases. -/
def BasesRepeatIdentifiers : Prop :=
  ((misread observed).map fun e => lastPiece e.1).Perm ((misread observed).map fun e => e.2.text)

theorem map_shortName_declared : (declared.map (·.text)).map shortName = declared.map (·.text) := by
  rw [List.map_map]
  exact List.map_congr_left fun id _ => shortName_text (.short id)

/-- **The comparison is equality of the multisets of readings.** -/
theorem valuesEqual_spellings :
    valuesEqual "object_types" (.list (declared.map (·.text))) (.list (observed.map Spelling.text)) =
      .ok (decide (SameReadings declared observed)) := by
  have hread : (observed.map Spelling.text).map shortName = observed.map Spelling.reading := by
    rw [List.map_map]
    exact List.map_congr_left fun s _ => shortName_text s
  rw [valuesEqual_objectTypes]
  show Except.ok (decide (normalized _ = normalized _)) = _
  simp only [normalized_eq_iff, map_shortName_declared, hread]
  rfl

/-- What is not misread contributes its identifiers to both multisets. -/
theorem exists_perm_append : ∃ common : List String,
    (observed.map Spelling.reading).Perm (common ++ (misread observed).map fun e => lastPiece e.1) ∧
      (observed.map (·.identifier.text)).Perm (common ++ (misread observed).map fun e => e.2.text) := by
  induction observed with
  | nil => exact ⟨[], .refl _, .refl _⟩
  | cons s observed ih =>
    obtain ⟨common, hread, hdenoted⟩ := ih
    -- an entry goes to the common part if its reading is its identifier, and to the misread otherwise
    cases hs : s.unslashed with
    | none =>
      have hmisread : misread (s :: observed) = misread observed := List.filterMap_cons_none hs
      have hreading : s.reading = s.identifier.text := by simp [Spelling.reading, hs]
      refine ⟨s.identifier.text :: common, ?_, ?_⟩
      · rw [hmisread, List.map_cons, hreading]
        exact hread.cons _
      · rw [hmisread, List.map_cons]
        exact hdenoted.cons _
    | some e =>
      have hmisread : misread (s :: observed) = e :: misread observed := List.filterMap_cons_some hs
      have hreading : s.reading = lastPiece e.1 := by simp [Spelling.reading, hs]
      have hidentifier : s.identifier = e.2 := by
        unfold Spelling.unslashed at hs
        split at hs
        · rw [← Option.some.inj hs]
          rfl
        · cases hs
      refine ⟨common, ?_, ?_⟩
      · rw [hmisread, List.map_cons, hreading]
        exact (hread.cons _).trans List.perm_middle.symm
      · rw [hmisread, List.map_cons, hidentifier]
        exact (hdenoted.cons _).trans List.perm_middle.symm

/-- **When reading is denoting, for one declared list.** -/
theorem sameReadings_iff : (SameReadings declared observed ↔ SameObjectTypes declared observed) ↔
    BasesRepeatIdentifiers observed ∨ ¬ SameObjectTypes declared observed ∧
      ¬ SameReadings declared observed := by
  obtain ⟨common, hread, hdenoted⟩ := exists_perm_append observed
  have hrepeat : (observed.map Spelling.reading).Perm (observed.map (·.identifier.text)) ↔
      BasesRepeatIdentifiers observed := by
    rw [hread.congr_left, hdenoted.congr_right]
    exact List.perm_append_left_iff common
  rw [← hrepeat]
  constructor
  · intro hiff
    by_cases hsame : SameObjectTypes declared observed
    · exact .inl ((hiff.mpr hsame).symm.trans hsame)
    · exact .inr ⟨hsame, fun hreadings => hsame (hiff.mp hreadings)⟩
  · rintro (hperm | ⟨hsame, hreadings⟩)
    · exact hperm.congr_right _
    · exact iff_of_false hreadings hsame

end

/-! ## The comparison, the drift and the loop -/

section

variable {wraps : Bool} {spec : CustomFieldSpec} {record : Record} {store : FieldStore} {drift : List String}

/-- Drift in the object types ends the loop, wherever in it the spec stands. -/
theorem applyFrom_of_drift (hfound : store.fields spec.name = some record)
    (hdiff : diff spec (record.shown wraps) = .ok drift) (hmem : "object_types" ∈ drift)
    (report : SchemaApplyReport) (specs : List CustomFieldSpec) :
    applyFrom (FieldStore.endpoint wraps) report store (spec :: specs) =
      (.error (.schemaError spec.name (sortedBy (· ≤ ·) id drift) (record.shown wraps)), store) := by
  have hfetch : fetchExisting (FieldStore.endpoint wraps) spec.name store = .ok
      (some (record.shown wraps)) := by
    show Except.ok ((store.fields spec.name).map (Record.shown wraps)) = _
    rw [hfound]
    rfl
  have hrecoverable : isRecoverable drift = false := by
    apply List.all_eq_false.mpr
    exact ⟨_, hmem, by decide⟩
  have hone : applyOne (FieldStore.endpoint wraps) spec store =
      (.error (.schemaError spec.name (sortedBy (· ≤ ·) id drift) (record.shown wraps)), store) := by
    unfold applyOne
    rw [hfetch]
    simp [hdiff, hrecoverable, List.ne_nil_of_mem hmem]
  rw [applyFrom, hone]

/-- `_values_equal` compares the identifiers and nothing else, `_diff` reports drift in the object types
    exactly when they differ, and that drift ends the loop of `apply_schema` with a `SchemaError`. -/
structure ComparesIdentifiers (wraps : Bool) (spec : CustomFieldSpec) (record : Record) (store : FieldStore)
    (declared : List ShortIdentifier) (observed : List Spelling) : Prop where
  equal : valuesEqual "object_types" (.list (declared.map (·.text))) (.list (observed.map Spelling.text)) =
    .ok (decide (SameObjectTypes declared observed))
  drift : ∃ drift, diff spec (record.shown wraps) = .ok drift ∧
    ("object_types" ∈ drift ↔ ¬ SameObjectTypes declared observed) ∧
    ("object_types" ∈ drift → ∀ report specs,
      applyFrom (FieldStore.endpoint wraps) report store (spec :: specs) =
      (.error (.schemaError spec.name (sortedBy (· ≤ ·) id drift) (record.shown wraps)), store))

variable {declared : List ShortIdentifier} {observed : List Spelling}

theorem exists_diff (wraps : Bool) (hdeclared : spec.objectTypes = declared.map (·.text))
    (hobserved : record "object_types" = .list (observed.map Spelling.text)) :
    ∃ drift, diff spec (record.shown wraps) = .ok drift ∧
      ("object_types" ∈ drift ↔ ¬ SameReadings declared observed) := by
  have hshown : record.shown wraps "object_types" = .list (observed.map Spelling.text) := by
    rw [Record.shown_of_ne record (by simp), hobserved]
  have hiterable : Iterable (record.shown wraps) := by
    unfold Iterable
    rw [hshown]
    rfl
  obtain ⟨drift, hdiff⟩ := diff_ok_iff.mpr hiterable
  have hequal : valuesEqual "object_types" (.list spec.objectTypes) (record.shown wraps "object_types") =
      .ok (decide (SameReadings declared observed)) := by
    rw [hshown, hdeclared, valuesEqual_spellings]
  refine ⟨drift, hdiff, ?_⟩
  rw [mem_drifted hdiff]
  constructor
  · rintro ⟨want, hmem, hfalse⟩
    have hwant := List.inj_on_of_nodup_map CustomFieldSpec.nodup_keys_toPayload hmem mem_objectTypes rfl
    rw [(Prod.mk.inj hwant).2, hequal] at hfalse
    exact of_decide_eq_false (Except.ok.inj hfalse)
  · intro hreadings
    exact ⟨_, mem_objectTypes, by rw [hequal, decide_eq_false hreadings]⟩

/-- With a trailing slash on every URL there is nothing to misread. -/
theorem basesRepeatIdentifiers_of_slashed (h : ∀ s ∈ observed, s.unslashed = none) :
    BasesRepeatIdentifiers observed := by
  have hnone : misread observed = [] := List.filterMap_eq_nil_iff.mpr h
  unfold BasesRepeatIdentifiers
  rw [hnone]
  exact .nil

/-- **The comparison judges identifiers exactly when no missing slash can be seen**: the bases of the URLs
    without a trailing slash end in the identifiers of these URLs, or the declared list is neither what is
    denoted nor what is read. -/
theorem comparesIdentifiers_iff (hdeclared : spec.objectTypes = declared.map (·.text))
    (hobserved : record "object_types" = .list (observed.map Spelling.text))
    (hfound : store.fields spec.name = some record) :
    ComparesIdentifiers wraps spec record store declared observed ↔
      BasesRepeatIdentifiers observed ∨ ¬ SameObjectTypes declared observed ∧
        ¬ SameReadings declared observed := by
  rw [← sameReadings_iff]
  constructor
  · intro h
    have hequal := h.equal
    rw [valuesEqual_spellings, Except.ok.injEq, decide_eq_decide] at hequal
    exact hequal
  · intro hiff
    obtain ⟨drift, hdiff, hmem⟩ := exists_diff wraps hdeclared hobserved
    refine ⟨?_, drift, hdiff, ?_, ?_⟩
    · rw [valuesEqual_spellings, decide_eq_decide.mpr hiff]
    · rw [hmem, hiff]
    · intro hdrifted
      exact applyFrom_of_drift hfound hdiff hdrifted

end

def dcimDevice : ShortIdentifier := ⟨"dcim.device", by decide, by decide⟩

def dcimInterface : ShortIdentifier := ⟨"dcim.interface", by decide, by decide⟩

def ipamVlan : ShortIdentifier := ⟨"ipam.vlan", by decide, by decide⟩

def deviceUrl (slash : Bool) : Spelling := .url "http://netbox/api/extras/object-types" dcimDevice slash

/-- Three object types as Netbox shows them, in both spellings. -/
def shownTypes : List Spelling :=
  [.url "http://netbox/api/extras/object-types" ipamVlan true, .short dcimInterface, deviceUrl true]

def shownRecord : Record := Record.blank.overwrite [("object_types", .list (shownTypes.map Spelling.text))]

/-- Netbox with one custom field, `bf3_mode`, on these. -/
def bf3ModeOnUrls : FieldStore where
  fields name := if name = "bf3_mode" then some shownRecord else none
  writes := []

/-- Declared in another order, and equal; and one of them missing. -/
theorem comparesIdentifiers_slashed :
    ComparesIdentifiers true
      { name := "bf3_mode", label := "BlueField-3 mode", type := .text,
        objectTypes := ["dcim.device", "dcim.interface", "ipam.vlan"] }
      shownRecord bf3ModeOnUrls [dcimDevice, dcimInterface, ipamVlan] shownTypes ∧
    ComparesIdentifiers true
      { name := "bf3_mode", label := "BlueField-3 mode", type := .text,
        objectTypes := ["dcim.device", "dcim.interface"] }
      shownRecord bf3ModeOnUrls [dcimDevice, dcimInterface] shownTypes := by
  have hslashed : ∀ s ∈ shownTypes, s.unslashed = none := by simp [shownTypes, deviceUrl, Spelling.unslashed]
  have hbases : BasesRepeatIdentifiers shownTypes := basesRepeatIdentifiers_of_slashed hslashed
  exact ⟨(comparesIdentifiers_iff rfl rfl rfl).mpr (.inl hbases),
    (comparesIdentifiers_iff rfl rfl rfl).mpr (.inl hbases)⟩

/-- One URL without its trailing slash, and the identifier it ends in is not found. -/
theorem unslashed_not_equal : ¬ ∀ (declared : List ShortIdentifier) (observed : List Spelling),
    valuesEqual "object_types" (.list (declared.map (·.text))) (.list (observed.map Spelling.text)) =
      .ok (decide (SameObjectTypes declared observed)) := by
  intro h
  have hequal := h [dcimDevice] [deviceUrl false]
  rw [valuesEqual_spellings] at hequal
  have hread : SameReadings [dcimDevice] [deviceUrl false] := by
    rw [show SameReadings _ _ ↔ SameObjectTypes _ _ from decide_eq_decide.mp (Except.ok.inj hequal)]
    exact .refl _
  have htext := List.perm_singleton.mp hread
  revert htext
  decide

end Netbox
end HostConfig
