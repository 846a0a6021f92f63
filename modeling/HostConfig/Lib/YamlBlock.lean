import Mathlib.Data.List.DropRight
import HostConfig.Lib.Outline
import HostConfig.Lib.YamlScalar

/-!
# `Lib.YamlBlock` — reading block-style YAML

`safeLoad` reads YAML text whose structure is given by indentation and whose scalars are on one line: block
mappings `k: v`, block sequences `- v`, in any nesting, with comments; the scalars are plain, an item of a
sequence may be quoted. It returns nothing for any other text, whether that is no YAML at all or uses what
is left out here (flow collections, block scalars, anchors, tags, scalars over several lines, several
documents).

A `SafeLoader` is any loader that reads this text so, and that types plain scalars by the implicit resolvers
elsewhere too: in text without other notations, a string it gives has been a plain scalar with exactly this
text. What it does with quotes, flow collections and the rest is left open. So what is proved of every
`SafeLoader` rests on the rules for plain scalars, and not on what this module leaves out.

Lines are scanned to items with their columns (a `- k: v` is a dash and, further in, an entry), the items'
outline is the tree, and the values are read off the tree.

`safeLoad_flatten` is completeness: text whose lines scan to the items of a forest is read as that forest's
value. `genuine_of_safeLoad` is soundness, so that `safeLoad` is itself such a loader (`blockLoader`).
-/

namespace Yaml

open Outline Forest

/-! ## Lines -/

/-- What stands at a column of a line. -/
inductive Item
  | dash
  | entry (key : List Char) (value : Option (List Char))
  | scalar (text : List Char)
  | quoted (s : String)
  /-- The start of a document marker, a directive or a byte order mark. -/
  | marker
deriving DecidableEq

/-- The text before the first colon that ends a key, and the text after it. -/
def splitKey : List Char → Option (List Char × List Char)
  | []      => none
  | c :: cs =>
      if c = ':' && cs.head?.all (· = ' ') then some ([], cs)
      else (splitKey cs).map fun p => (c :: p.1, p.2)

/-- A mapping entry or a plain scalar. -/
def item (cs : List Char) : Item :=
  match splitKey cs with
  | none        => .scalar cs
  | some (k, v) =>
      .entry (k.rdropWhile (· = ' ')) (if v.dropWhile (· = ' ') = [] then none else
        some (v.dropWhile (· = ' ')))

/-- The items of the rest of a line, from its column on. -/
def scan (col : Nat) : List Char → List (Nat × Item)
  | []               => []
  | ' ' :: cs        => scan (col + 1) cs
  | ['-']            => [(col, .dash)]
  | '-' :: ' ' :: cs => (col, .dash) :: scan (col + 2) cs
  | cs               => [(col, item cs)]

/-- The items of the rest of a line that ends in a quoted scalar. -/
def scanQuoted (col : Nat) : List Char → Option (List (Nat × Item))
  | ' ' :: cs        => scanQuoted (col + 1) cs
  | '-' :: ' ' :: cs => (scanQuoted (col + 2) cs).map ((col, .dash) :: ·)
  | cs               => (quotedScalar cs).map fun s => [(col, .quoted s)]

/-- The text up to a comment. -/
def cutComment : Char → List Char → List Char
  | _,    []      => []
  | prev, c :: cs => if c = '#' && prev = ' ' then [] else c :: cutComment c cs

def isMarker (line : List Char) : Bool :=
  line.take 3 = ['-', '-', '-'] || line.take 3 = ['.', '.', '.'] || line.head?.any (· ∈ ['%', '\ufeff'])

/-- The items of a line. -/
def scanLine (line : List Char) : List (Nat × Item) :=
  if isMarker line then [(0, .marker)]
  else (scanQuoted 0 line).getD (scan 0 ((cutComment ' ' line).rdropWhile (· = ' ')))

/-! ## Values -/

/-- What a forest gives as the items of a sequence and as the entries of a mapping. -/
structure Parts where
  items : Option (List Value)
  entries : Option (List (Value × Value))

/-- The value of a forest with these parts, by its first line. -/
def valueOf (f : Forest Item) (p : Parts) : Option Value :=
  match f with
  | .nil                        => some .null
  | .node (.scalar s) .nil .nil => scalar s
  | .node (.quoted s) .nil .nil => some (.str s)
  | .node .dash _ _             => p.items.map .seq
  | .node (.entry _ _) _ _      => p.entries.map .map
  | _                           => none

/-- A line of a mapping; its value stands behind the colon or below. -/
def readEntry (i : Item) (below : Forest Item) (belowValue : Option Value) : Option (Value × Value) :=
  match i with
  | .entry k none     => do return (← key k, ← belowValue)
  | .entry k (some v) => if below = .nil then do return (← key k, ← scalar v) else none
  | _                 => none

def readItem (i : Item) (belowValue : Option Value) : Option Value :=
  match i with
  | .dash => belowValue
  | _     => none

def parts : Forest Item → Parts
  | .nil         => ⟨some [], some []⟩
  | .node i c n  =>
      let value := valueOf c (parts c)
      ⟨do return (← readItem i value) :: (← (parts n).items),
       do return (← readEntry i c value) :: (← (parts n).entries)⟩

/-- The value of a node's lines. -/
def value (f : Forest Item) : Option Value := valueOf f (parts f)

/-- **The loader.** -/
def safeLoad (text : List Char) : Option Value :=
  let items := (text.splitOn '\n').flatMap scanLine
  if text.all (fun c => c = '\n' || inlineChar c) && regular (parseIndented items) then
    value (parse items) else none

/-! ## Looking at loaded values -/

namespace Value

def asStr : Value → Option String
  | .str s => some s
  | _      => none

def asInt : Value → Option Int
  | .int z => some z
  | _      => none

def asSeq : Value → Option (List Value)
  | .seq items => some items
  | _          => none

def asMap : Value → Option (List (Value × Value))
  | .map entries => some entries
  | _            => none

/-- `value[k]` on a dict: of several pairs with this key the last one. -/
def get (k : String) (v : Value) : Option Value := do
  let entries ← v.asMap
  let e ← entries.reverse.find? (fun e => e.1.asStr = some k)
  return e.2

/-- A dict that two lists of pairs make: the later list is looked up first. -/
theorem get_map_append (k : String) (a b : List (Value × Value)) :
    (Value.map (a ++ b)).get k = ((Value.map b).get k).or ((Value.map a).get k) := by
  have hget : ∀ es, (Value.map es).get k = (es.reverse.find? (fun e => e.1.asStr = some k)).map (·.2) := by
    intro es
    show (es.reverse.find? _).bind _ = _
    cases es.reverse.find? (fun e => e.1.asStr = some k) <;> rfl
  rw [hget, hget, hget, List.reverse_append, List.find?_append]
  cases b.reverse.find? (fun e => e.1.asStr = some k) <;> rfl

end Value

/-! ## Soundness -/

/-- No line break in the string. -/
def OneLine (s : String) : Prop := ∀ c ∈ s.toList, isBreak c = false

/-- Every string in the value, unless it has a line break, is the text of a plain scalar that is a string. -/
inductive Genuine : Value → Prop
  | null : Genuine .null
  | bool (b : Bool) : Genuine (.bool b)
  | int (z : Int) : Genuine (.int z)
  | float (text : String) : Genuine (.float text)
  | other (text : String) : Genuine (.other text)
  | str (s : String) (h : OneLine s → PlainString s) : Genuine (.str s)
  | seq (items : List Value) (h : ∀ v ∈ items, Genuine v) : Genuine (.seq items)
  | map (entries : List (Value × Value)) (hkeys : ∀ e ∈ entries, ∀ s, e.1 = .str s → OneLine s → PlainKey s)
      (hvalues : ∀ e ∈ entries, Genuine e.2) : Genuine (.map entries)

/-- A constructed scalar is genuine, if a string is one that a plain scalar can spell. -/
theorem genuine_of_construct {tag : Tag} {cs : List Char} {v : Value} (h : construct tag cs = some v)
    (hstr : ∀ s, v = .str s → PlainString s) : Genuine v := by
  cases tag with
  | null => cases h; exact .null
  | bool => cases h; exact .bool _
  | str => cases h; exact .str _ fun _ => hstr _ rfl
  | float =>
      rw [construct] at h
      split at h
      · cases h; exact .float _
      · cases h
  | timestamp =>
      rw [construct] at h
      split at h
      · cases h; exact .other _
      · cases h
  | int =>
      rw [construct] at h
      split at h
      · obtain ⟨z, -, rfl⟩ := Option.map_eq_some_iff.mp h
        exact .int z
      · cases h
  | merge | value => cases h

/-- A plain scalar reads as a genuine value. -/
theorem genuine_of_scalar {cs : List Char} {v : Value} (h : scalar cs = some v) : Genuine v := by
  have hstr : ∀ s, v = .str s → PlainString s := fun s hs => plainString_of_scalar (hs ▸ h)
  unfold scalar at h
  split at h
  · exact genuine_of_construct h hstr
  · cases h

/-- Not quoted. -/
def Item.Plain : Item → Prop
  | .quoted _                               => False
  | .dash | .entry _ _ | .scalar _ | .marker => True

/-- What the parts of a forest may have in them. -/
structure Parts.Genuine (p : Parts) : Prop where
  items : ∀ vs, p.items = some vs → ∀ v ∈ vs, Yaml.Genuine v
  keys : ∀ es, p.entries = some es → ∀ e ∈ es, ∀ s, e.1 = .str s → OneLine s → PlainKey s
  values : ∀ es, p.entries = some es → ∀ e ∈ es, Yaml.Genuine e.2

/-- A node reads as one, once the parts it is chosen from do, -/
theorem genuine_of_valueOf {f : Forest Item} (hf : f.All Item.Plain) {p : Parts} (hp : p.Genuine) {v : Value}
    (h : valueOf f p = some v) : Genuine v := by
  unfold valueOf at h
  split at h
  · cases h; exact .null
  · exact genuine_of_scalar h
  · exact hf.1.elim
  · obtain ⟨vs, hvs, rfl⟩ := Option.map_eq_some_iff.mp h
    exact .seq vs (hp.items vs hvs)
  · obtain ⟨es, hes, rfl⟩ := Option.map_eq_some_iff.mp h
    exact .map es (hp.keys es hes) (hp.values es hes)
  · cases h

/-- an entry does, in its key and its value, -/
theorem genuine_of_readEntry {i : Item} {below : Forest Item} {v : Option Value}
    (hv : ∀ w, v = some w → Genuine w) {e : Value × Value} (h : readEntry i below v = some e) :
    (∀ s, e.1 = .str s → OneLine s → PlainKey s) ∧ Genuine e.2 := by
  unfold readEntry at h
  split at h
  · obtain ⟨k, hk, h⟩ := Option.bind_eq_some_iff.mp h
    obtain ⟨w, hw, h⟩ := Option.bind_eq_some_iff.mp h
    cases h
    exact ⟨fun s hs _ => plainKey_of_key (hk.trans (congrArg some hs)), hv w hw⟩
  · split at h
    · obtain ⟨k, hk, h⟩ := Option.bind_eq_some_iff.mp h
      obtain ⟨w, hw, h⟩ := Option.bind_eq_some_iff.mp h
      cases h
      exact ⟨fun s hs _ => plainKey_of_key (hk.trans (congrArg some hs)), genuine_of_scalar hw⟩
    · cases h
  · cases h

/-- and so do all parts of a forest of plain items. -/
theorem genuine_parts {f : Forest Item} (hf : f.All Item.Plain) : (parts f).Genuine := by
  induction f with
  | nil =>
      constructor <;> intro l hl <;> cases hl <;> exact fun x hx => absurd hx List.not_mem_nil
  | node i c n ihc ihn =>
      obtain ⟨-, hc, hn⟩ := hf
      replace ihc := ihc hc
      replace ihn := ihn hn
      have hvalue : ∀ w, valueOf c (parts c) = some w → Genuine w := fun w hw => genuine_of_valueOf hc ihc hw
      have hentries : ∀ es, (parts (.node i c n)).entries = some es →
          ∃ e es', readEntry i c (valueOf c (parts c)) = some e ∧ (parts n).entries = some es' ∧
            es = e :: es' := by
        intro es hes
        obtain ⟨e, he, hes⟩ := Option.bind_eq_some_iff.mp hes
        obtain ⟨es', hes', h⟩ := Option.bind_eq_some_iff.mp hes
        exact ⟨e, es', he, hes', (Option.some.inj h).symm⟩
      constructor
      · intro vs hvs
        obtain ⟨v, hv, hvs⟩ := Option.bind_eq_some_iff.mp hvs
        obtain ⟨vs', hvs', h⟩ := Option.bind_eq_some_iff.mp hvs
        obtain rfl := Option.some.inj h
        refine List.forall_mem_cons.mpr ⟨?_, ihn.items vs' hvs'⟩
        -- only a dash makes an item
        cases i with
        | dash => exact hvalue v hv
        | entry k w | scalar t | quoted s | marker => cases hv
      · intro es hes
        obtain ⟨e, es', he, hes', rfl⟩ := hentries es hes
        exact List.forall_mem_cons.mpr ⟨(genuine_of_readEntry hvalue he).1, ihn.keys es' hes'⟩
      · intro es hes
        obtain ⟨e, es', he, hes', rfl⟩ := hentries es hes
        exact List.forall_mem_cons.mpr ⟨(genuine_of_readEntry hvalue he).2, ihn.values es' hes'⟩

/-- A line without quotes scans to plain items. -/
theorem plain_of_scan {col : Nat} {cs : List Char} : ∀ x ∈ scan col cs, x.2.Plain := by
  have hitem : ∀ cs, (item cs).Plain := by
    intro cs
    unfold item
    split <;> exact trivial
  induction col, cs using scan.induct with
  | case1 col => exact fun x hx => absurd hx List.not_mem_nil
  | case2 col cs ih =>
      rw [scan]
      exact ih
  | case3 col =>
      rw [scan]
      exact List.forall_mem_singleton.mpr trivial
  | case4 col cs ih =>
      rw [scan]
      exact List.forall_mem_cons.mpr ⟨trivial, ih⟩
  | case5 col cs h₁ h₂ h₃ h₄ =>
      rw [scan]
      · exact List.forall_mem_singleton.mpr (hitem cs)
      all_goals assumption

/-- Where no token can start with a quote, none does. -/
theorem scanQuoted_eq_none {col : Nat} {prev : Char} {cs : List Char} (hprev : prev = ' ' ∨ prev = '\n')
    (h : opens prev cs = false) : scanQuoted col cs = none := by
  induction col, cs using scanQuoted.induct generalizing prev with
  | case1 col cs ih =>
      rw [opens, Bool.or_eq_false_iff] at h
      rw [scanQuoted]
      exact ih (.inl rfl) h.2
  | case2 col cs ih =>
      rw [opens, opens, Bool.or_eq_false_iff, Bool.or_eq_false_iff] at h
      rw [scanQuoted, ih (.inl rfl) h.2.2]
      rfl
  | case3 col cs h₁ h₂ =>
      have hquoted : quotedScalar cs = none := by
        have hstart : (decide (prev = ' ') || decide (prev = '\n')) = true := by
          rcases hprev with rfl | rfl <;> rfl
        unfold quotedScalar
        split
        · rw [opens, hstart] at h
          cases h
        · rw [opens, hstart] at h
          cases h
        · rfl
      rw [scanQuoted, hquoted]
      · rfl
      all_goals assumption

/-- The lines of text in which every scalar is plain. -/
theorem opens_of_mem_lines {lines : List (List Char)} (h : opens '\n' (['\n'].intercalate lines) = false) :
    ∀ line ∈ lines, opens '\n' line = false := by
  induction lines with
  | nil => exact fun line hline => absurd hline List.not_mem_nil
  | cons line lines ih =>
      cases lines with
      | nil =>
          rw [List.intercalate_singleton] at h
          exact List.forall_mem_singleton.mpr h
      | cons line' lines =>
          rw [List.intercalate_cons_cons, opens_append, opens_append, Bool.or_eq_false_iff,
            Bool.or_eq_false_iff] at h
          refine List.forall_mem_cons.mpr ⟨h.1.1, ih ?_⟩
          have hrest := h.2
          rwa [List.getLastD_concat] at hrest

/-- **Soundness**: what is loaded from text in which every scalar is plain is genuine. -/
theorem genuine_of_safeLoad {text : List Char} (hplain : allPlain text = true) {v : Value}
    (h : safeLoad text = some v) : Genuine v := by
  have hlines : ∀ line ∈ text.splitOn '\n', opens '\n' line = false := by
    refine opens_of_mem_lines ?_
    rw [List.intercalate_splitOn]
    exact (allPlain_iff.mp hplain).2
  have hitems : ∀ x ∈ (text.splitOn '\n').flatMap scanLine, x.2.Plain := by
    intro x hx
    obtain ⟨line, hline, hx⟩ := List.mem_flatMap.mp hx
    rw [scanLine, scanQuoted_eq_none (.inr rfl) (hlines line hline)] at hx
    split at hx
    · rw [List.mem_singleton.mp hx]
      trivial
    · exact plain_of_scan x hx
  unfold safeLoad at h
  dsimp only at h
  split at h
  · exact genuine_of_valueOf (all_parse hitems) (genuine_parts (all_parse hitems)) h
  · cases h

/-- A YAML 1.1 safe loader. -/
structure SafeLoader where
  load : List Char → Option Value
  /-- Block-style text with scalars on one line is read as `safeLoad` reads it. -/
  reads : ∀ {text : List Char} {v : Value}, safeLoad text = some v → load text = some v
  /-- Plain scalars are typed by the implicit resolvers: where every scalar is plain, those that are strings
      are scalars that no resolver claims, or go over several lines. -/
  types : ∀ {text : List Char} {v : Value}, allPlain text = true → load text = some v → Genuine v

/-- The loader that reads no more than `safeLoad`. -/
def blockLoader : SafeLoader := ⟨safeLoad, id, fun hplain h => genuine_of_safeLoad hplain h⟩

namespace Genuine

variable {v w : Value}

/-- A string of one line in a genuine value is one that a plain scalar can spell. -/
theorem plainString {s : String} (h : Genuine v) (hs : v.asStr = some s) (hline : OneLine s) :
    PlainString s := by
  cases h with
  | str t ht =>
      obtain rfl := Option.some.inj hs
      exact ht hline
  | null | bool b | int z | float t | other t | seq items h | map entries hkeys hvalues => cases hs

/-- So are the keys of its mappings, -/
theorem of_mem_map {entries : List (Value × Value)} (h : Genuine v) (hs : v.asMap = some entries) :
    ∀ e ∈ entries, (∀ s, e.1.asStr = some s → OneLine s → PlainKey s) ∧ Genuine e.2 := by
  cases h with
  | map entries' hkeys hvalues =>
      obtain rfl := Option.some.inj hs
      refine fun e he => ⟨fun s hs => hkeys e he s ?_, hvalues e he⟩
      cases hkey : e.1 with
      | str t => rw [hkey] at hs; rw [Option.some.inj hs]
      | null | bool b | int z | float t | other t | seq items | map entries => rw [hkey] at hs; cases hs
  | null | bool b | int z | float t | other t | str t ht | seq items h => cases hs

/-- and what is found under a key is genuine again. -/
theorem get {k : String} (h : Genuine v) (hs : v.get k = some w) : Genuine w := by
  obtain ⟨entries, hentries, hs⟩ := Option.bind_eq_some_iff.mp hs
  obtain ⟨e, he, hs⟩ := Option.bind_eq_some_iff.mp hs
  obtain rfl := Option.some.inj hs
  exact (h.of_mem_map hentries e (List.mem_reverse.mp (List.mem_of_find?_eq_some he))).2

end Genuine

/-! ## Scanning the lines of block collections -/

/-- A comment begins in one of the two parts; the second one needs to know what stands before it. -/
theorem hasComment_append (prev : Char) (a b : List Char) :
    hasComment prev (a ++ b) = (hasComment prev a || hasComment (a.getLastD prev) b) := by
  induction a generalizing prev with
  | nil => rw [List.nil_append, hasComment, Bool.false_or]; rfl
  | cons c a ih =>
      rw [List.cons_append, hasComment, ih, hasComment, Bool.or_assoc]
      cases a <;> rfl

/-- The indentation holds no comment, -/
theorem hasComment_replicate (n : Nat) (cs : List Char) :
    hasComment ' ' (List.replicate n ' ' ++ cs) = hasComment ' ' cs := by
  induction n with
  | zero => rfl
  | succ n ih => rw [List.replicate_succ, List.cons_append, hasComment, ih]; rfl

/-- and where there is none, nothing is cut, -/
theorem cutComment_of_hasComment {prev : Char} {cs : List Char} (h : hasComment prev cs = false) :
    cutComment prev cs = cs := by
  induction cs generalizing prev with
  | nil => rfl
  | cons c cs ih =>
      rw [hasComment, Bool.or_eq_false_iff] at h
      rw [cutComment, if_neg (Bool.eq_false_iff.mp h.1), ih h.2]

theorem isPrefix_cutComment (prev : Char) (cs : List Char) : cutComment prev cs <+: cs := by
  induction cs generalizing prev with
  | nil => exact List.prefix_rfl
  | cons c cs ih =>
      rw [cutComment]
      split
      · exact List.nil_prefix
      · exact List.cons_prefix_cons.mpr ⟨rfl, ih c⟩

/-- Cutting keeps the indentation. -/
theorem cutComment_replicate (n : Nat) (cs : List Char) :
    cutComment ' ' (List.replicate n ' ' ++ cs) = List.replicate n ' ' ++ cutComment ' ' cs := by
  induction n with
  | zero => rfl
  | succ n ih =>
      rw [List.replicate_succ, List.cons_append, cutComment, ih]
      rfl

/-- Spaces are dropped at the end of the last part only, if it has more than spaces. -/
theorem rdropWhile_append {a b : List Char} (h : b.rdropWhile (· = ' ') ≠ []) :
    (a ++ b).rdropWhile (· = ' ') = a ++ b.rdropWhile (· = ' ') := by
  have hne : ¬(b.reverse.dropWhile (· = ' ')).isEmpty = true := by
    rw [List.isEmpty_iff]
    exact fun hnil => h (by rw [List.rdropWhile, hnil, List.reverse_nil])
  rw [List.rdropWhile, List.rdropWhile, List.reverse_append, List.dropWhile_append, if_neg hne,
    List.reverse_append, List.reverse_reverse]

/-- not at the end either. -/
theorem rdropWhile_of_getLast {cs : List Char} (h : cs.getLast? ≠ some ' ') :
    cs.rdropWhile (· = ' ') = cs := by
  rw [List.rdropWhile_eq_self_iff]
  intro hne hlast
  exact h (by rw [List.getLast?_eq_some_getLast hne, of_decide_eq_true hlast])

/-- An indented line marks no document. -/
theorem isMarker_replicate {n : Nat} (hn : 0 < n) (cs : List Char) :
    isMarker (List.replicate n ' ' ++ cs) = false := by
  obtain ⟨m, rfl⟩ := Nat.exists_eq_succ_of_ne_zero hn.ne'
  rw [List.replicate_succ, List.cons_append, isMarker]
  simp

/-- Text that starts with any other character is no marker. -/
theorem isMarker_cons {c : Char} (h : c ∉ ['-', '.', '%', '\ufeff']) (cs : List Char) :
    isMarker (c :: cs) = false := by
  simp only [List.mem_cons, List.not_mem_nil, or_false, not_or] at h
  simp [isMarker, h]

/-- The indentation moves the column, whichever way the rest is read: -/
theorem scan_replicate (col n : Nat) (cs : List Char) :
    scan col (List.replicate n ' ' ++ cs) = scan (col + n) cs := by
  induction n generalizing col with
  | zero => rfl
  | succ n ih => rw [List.replicate_succ, List.cons_append, scan, ih, Nat.add_right_comm, Nat.add_assoc]

/-- quoted, too. -/
theorem scanQuoted_replicate (col n : Nat) (cs : List Char) :
    scanQuoted col (List.replicate n ' ' ++ cs) = scanQuoted (col + n) cs := by
  induction n generalizing col with
  | zero => rfl
  | succ n ih => rw [List.replicate_succ, List.cons_append, scanQuoted, ih, Nat.add_right_comm, Nat.add_assoc]

/-- Text that starts a plain scalar is not quoted. -/
theorem quotedScalar_of_plainStart {cs : List Char} (h : plainStart cs = true) : quotedScalar cs = none := by
  unfold quotedScalar
  split
  · simp [plainStart] at h
  · simp [plainStart] at h
  · rfl

/-- A line that starts plainly is no quoted scalar. -/
theorem scanQuoted_of_plainStart {cs : List Char} (h : plainStart cs = true) (col : Nat) :
    scanQuoted col cs = none := by
  unfold scanQuoted
  split
  · simp [plainStart] at h
  · simp [plainStart] at h
  · rw [quotedScalar_of_plainStart h]
    rfl

/-- Text that scanning takes as it is: printable, without a comment, not ending in a space. -/
structure Clean (cs : List Char) : Prop where
  inline : cs.all inlineChar = true
  comment : hasComment ' ' cs = false
  last : cs.getLast? ≠ some ' '
  ne_nil : cs ≠ []

/-- A line marks no document if it is indented or starts as no marker does. -/
theorem isMarker_line {n : Nat} {cs : List Char} (h : 0 < n ∨ isMarker cs = false) :
    isMarker (List.replicate n ' ' ++ cs) = false := by
  rcases Nat.eq_zero_or_pos n with rfl | hn
  · exact h.resolve_left (Nat.lt_irrefl 0)
  · exact isMarker_replicate hn cs

/-- A line that ends in a quoted scalar, -/
theorem scanLine_of_quoted {n : Nat} {cs : List Char} {items : List (Nat × Item)}
    (h : scanQuoted n cs = some items)
    (hmarker : 0 < n ∨ isMarker cs = false) : scanLine (List.replicate n ' ' ++ cs) = items := by
  rw [scanLine, isMarker_line hmarker, if_neg Bool.false_ne_true, scanQuoted_replicate, Nat.zero_add, h]
  rfl

/-- and one that does not. -/
theorem scanLine_of_clean {n : Nat} {cs : List Char} (h : Clean cs) (hquoted : scanQuoted n cs = none)
    (hmarker : 0 < n ∨ isMarker cs = false) : scanLine (List.replicate n ' ' ++ cs) = scan n cs := by
  have hlast : (List.replicate n ' ' ++ cs).getLast? ≠ some ' ' := by
    rw [List.getLast?_append_of_ne_nil _ h.ne_nil]
    exact h.last
  rw [scanLine, isMarker_line hmarker, cutComment_of_hasComment ((hasComment_replicate n cs).trans h.comment),
    rdropWhile_of_getLast hlast, if_neg Bool.false_ne_true, scan_replicate, scanQuoted_replicate,
      Nat.zero_add, hquoted]
  rfl

/-- A line of spaces has no items. -/
theorem scanLine_replicate (n : Nat) : scanLine (List.replicate n ' ') = [] := by
  have hcomment : hasComment ' ' (List.replicate n ' ') = false := by
    have h := hasComment_replicate n []
    rwa [List.append_nil] at h
  have hmarker : isMarker (List.replicate n ' ') = false := by
    rcases Nat.eq_zero_or_pos n with rfl | hn
    · rfl
    · have h := isMarker_replicate hn []
      rwa [List.append_nil] at h
  have hdrop : (List.replicate n ' ').rdropWhile (· = ' ') = [] :=
    List.rdropWhile_eq_nil_iff.mpr fun c hc => decide_eq_true (List.eq_of_mem_replicate hc)
  have hquoted : scanQuoted 0 (List.replicate n ' ') = none := by
    have h := scanQuoted_replicate 0 n []
    rwa [List.append_nil] at h
  rw [scanLine, hmarker, cutComment_of_hasComment hcomment, hdrop, hquoted]
  rfl

/-- Text that starts a plain scalar is no dash and no space. -/
theorem scan_of_plainStart {cs : List Char} (h : plainStart cs = true) (col : Nat) :
    scan col cs = [(col, item cs)] := by
  unfold scan
  split
  · cases h
  · simp [plainStart] at h
  · cases h
  · simp [plainStart] at h
  · rfl

/-- The key ends at its colon, if no colon before it ends a key, -/
theorem splitKey_append {k : List Char} (hk : colonSpace k = false) {rest : List Char}
    (hrest : rest.head?.all (· = ' ') = true) : splitKey (k ++ ':' :: rest) = some (k, rest) := by
  induction k with
  | nil => rw [List.nil_append, splitKey, if_pos (by rw [hrest]; rfl)]
  | cons c k ih =>
      rw [colonSpace, Bool.or_eq_false_iff] at hk
      -- a colon inside the key is followed by the key's next character, or by the colon that ends it
      have hc : ¬(c = ':' && (k ++ ':' :: rest).head?.all (· = ' ')) = true := by
        intro h
        obtain ⟨hc, hnext⟩ := (Bool.and_eq_true _ _).mp h
        rw [hc, Bool.true_and] at hk
        cases k with
        | nil => cases hnext
        | cons d k => exact absurd (by simpa using hnext : d = ' ') (by simpa using hk.1)
      rw [List.cons_append, splitKey, if_neg hc, ih hk.2]
      rfl

/-- and a text without such a colon is no entry. -/
theorem splitKey_eq_none {cs : List Char} (hcolon : colonSpace cs = false) (hlast : cs.getLast? ≠ some ':') :
    splitKey cs = none := by
  induction cs with
  | nil => rfl
  | cons c cs ih =>
      rw [colonSpace, Bool.or_eq_false_iff] at hcolon
      have hc : ¬(c = ':' && cs.head?.all (· = ' ')) = true := by
        intro h
        obtain ⟨hc, hnext⟩ := (Bool.and_eq_true _ _).mp h
        cases cs with
        | nil => exact hlast (by rw [of_decide_eq_true hc]; rfl)
        | cons d cs =>
            rw [hc, Bool.true_and] at hcolon
            exact absurd (by simpa using hnext : d = ' ') (by simpa using hcolon.1)
      have hlast' : cs.getLast? ≠ some ':' := by
        cases cs with
        | nil => simp
        | cons d cs => rwa [List.getLast?_cons_cons] at hlast
      rw [splitKey, if_neg hc, ih hcolon.2 hlast']
      rfl

section Scan

variable {k v : List Char} {n : Nat}

/-- The facts about a key that scanning uses. -/
theorem plainKey_iff : plainKey k = true ↔ plainStart (k ++ [':']) = true ∧ k.all inlineChar = true ∧
    hasComment ' ' k = false ∧ colonSpace k = false ∧ k.getLast? ≠ some ' ' ∧ k.length ≤ 1024 := by
  simp [plainKey, plainBody, and_assoc]

/-- A plain value, condition by condition. -/
theorem plainValue_iff : plainValue v = true ↔ plainStart v = true ∧ v.all inlineChar = true ∧
    hasComment ' ' v = false ∧ colonSpace v = false ∧ v.getLast? ≠ some ' ' ∧ v.getLast? ≠ some ':' := by
  simp [plainValue, plainBody, and_assoc]

theorem plainStart_cons {c : Char} {cs : List Char} (h : plainStart (c :: cs) = true) : c ≠ ' ' := by
  rintro rfl
  simp [plainStart] at h

theorem ne_nil_of_plainStart {cs : List Char} (h : plainStart cs = true) : cs ≠ [] := by
  rintro rfl
  cases h

/-- An entry starts as its key does, and has a comment only behind the colon. -/
theorem plainStart_key (hk : plainKey k = true) (rest : List Char) :
    plainStart (k ++ ':' :: rest) = true := by
  have h := plainStart_append (plainKey_iff.mp hk).1 rest
  rwa [List.append_assoc] at h

theorem hasComment_key (hk : plainKey k = true) (rest : List Char) :
    hasComment ' ' (k ++ ':' :: rest) = hasComment ':' rest := by
  rw [hasComment_append, (plainKey_iff.mp hk).2.2.1, Bool.false_or, hasComment]
  rfl

/-- The four forms of a line are clean: a scalar, -/
theorem Clean.value (hv : plainValue v = true) : Clean v where
  inline := (plainValue_iff.mp hv).2.1
  comment := (plainValue_iff.mp hv).2.2.1
  last := (plainValue_iff.mp hv).2.2.2.2.1
  ne_nil := ne_nil_of_plainStart (plainValue_iff.mp hv).1

/-- a key alone, -/
theorem Clean.key (hk : plainKey k = true) : Clean (k ++ [':']) where
  inline := by
    rw [List.all_append, (plainKey_iff.mp hk).2.1]
    rfl
  comment := hasComment_key hk []
  last := by simp
  ne_nil := by simp

/-- a key with its value, -/
theorem Clean.field (hk : plainKey k = true) (hv : Clean v) : Clean (k ++ ':' :: ' ' :: v) where
  inline := by
    rw [List.all_append, (plainKey_iff.mp hk).2.1, List.all_cons, List.all_cons, hv.inline]
    rfl
  comment := (hasComment_key hk _).trans hv.comment
  last := by
    obtain ⟨c, cs, rfl⟩ := List.exists_cons_of_ne_nil hv.ne_nil
    rw [List.getLast?_append_of_ne_nil _ (List.cons_ne_nil _ _), List.getLast?_cons_cons,
      List.getLast?_cons_cons]
    exact hv.last
  ne_nil := by simp

/-- and a dash before any of them. -/
theorem Clean.dash (hv : Clean v) : Clean ('-' :: ' ' :: v) where
  inline := by
    rw [List.all_cons, List.all_cons, hv.inline]
    rfl
  comment := hv.comment
  last := by
    obtain ⟨c, cs, rfl⟩ := List.exists_cons_of_ne_nil hv.ne_nil
    rw [List.getLast?_cons_cons, List.getLast?_cons_cons]
    exact hv.last
  ne_nil := List.cons_ne_nil _ _

/-- Each form is read as the item it is: a key alone, -/
theorem item_key (hk : plainKey k = true) : item (k ++ [':']) = .entry k none := by
  obtain ⟨-, -, -, hcolon, hlast, -⟩ := plainKey_iff.mp hk
  rw [item, splitKey_append hcolon rfl]
  dsimp only
  rw [rdropWhile_of_getLast hlast]
  rfl

/-- a field, -/
theorem item_field (hk : plainKey k = true) (hv : plainValue v = true) :
    item (k ++ ':' :: ' ' :: v) = .entry k (some v) := by
  obtain ⟨-, -, -, hcolon, hlast, -⟩ := plainKey_iff.mp hk
  obtain ⟨c, cs, rfl⟩ := List.exists_cons_of_ne_nil (ne_nil_of_plainStart (plainValue_iff.mp hv).1)
  have hdrop : (' ' :: c :: cs).dropWhile (· = ' ') = c :: cs := by
    have hc := plainStart_cons (plainValue_iff.mp hv).1
    simp [hc]
  rw [item, splitKey_append hcolon rfl]
  dsimp only
  rw [rdropWhile_of_getLast hlast, hdrop, if_neg (List.cons_ne_nil _ _)]

/-- a scalar. -/
theorem item_scalar (hv : plainValue v = true) : item v = .scalar v := by
  obtain ⟨-, -, -, hcolon, -, hlast⟩ := plainValue_iff.mp hv
  rw [item, splitKey_eq_none hcolon hlast]

/-- `k:` -/
theorem scan_key (hk : plainKey k = true) (col : Nat) : scan col (k ++ [':']) = [(col, .entry k none)] := by
  rw [scan_of_plainStart (plainStart_key hk []), item_key hk]

/-- `k: v` -/
theorem scan_field (hk : plainKey k = true) (hv : plainValue v = true) (col : Nat) :
    scan col (k ++ ':' :: ' ' :: v) = [(col, .entry k (some v))] := by
  rw [scan_of_plainStart (plainStart_key hk _), item_field hk hv]

/-- `- v` -/
theorem scan_item (hv : plainValue v = true) (col : Nat) :
    scan col ('-' :: ' ' :: v) = [(col, .dash), (col + 2, .scalar v)] := by
  rw [scan, scan_of_plainStart (plainValue_iff.mp hv).1, item_scalar hv]

theorem scanQuoted_dash (cs : List Char) (col : Nat) :
    scanQuoted col ('-' :: ' ' :: cs) = (scanQuoted (col + 2) cs).map ((col, .dash) :: ·) := rfl

/-- `- k: v` -/
theorem scan_itemField (hk : plainKey k = true) (hv : plainValue v = true) (col : Nat) :
    scan col ('-' :: ' ' :: (k ++ ':' :: ' ' :: v)) = [(col, .dash), (col + 2, .entry k (some v))] := by
  rw [scan, scan_field hk hv]

end Scan

/-! ## Reading forests of items -/

/-- The entries a forest gives, line by line. -/
def entries (f : Forest Item) : Option (List (Value × Value)) := (parts f).entries

def items (f : Forest Item) : Option (List Value) := (parts f).items

/-- The entries of a forest are read one sibling after the other, -/
theorem entries_node (i : Item) (c n : Forest Item) :
    entries (.node i c n) = (readEntry i c (value c)).bind fun e => (entries n).map (e :: ·) := by
  show (do return (← readEntry i c (value c)) :: (← entries n)) = _
  cases readEntry i c (value c) <;> cases entries n <;> rfl

/-- and so are its items. -/
theorem items_node (i : Item) (c n : Forest Item) :
    items (.node i c n) = (readItem i (value c)).bind fun v => (items n).map (v :: ·) := by
  show (do return (← readItem i (value c)) :: (← items n)) = _
  cases readItem i (value c) <;> cases items n <;> rfl

/-- Entries side by side are those of the one and of the other, -/
theorem entries_append {f g : Forest Item} {es es' : List (Value × Value)} (hf : entries f = some es)
    (hg : entries g = some es') : entries (f ++ g) = some (es ++ es') := by
  induction f generalizing es with
  | nil =>
      obtain rfl := Option.some.inj hf
      exact hg
  | node i c n _ ih =>
      rw [entries_node] at hf
      obtain ⟨e, he, hf⟩ := Option.bind_eq_some_iff.mp hf
      obtain ⟨es₁, hes₁, rfl⟩ := Option.map_eq_some_iff.mp hf
      rw [node_append, entries_node, he, ih hes₁]
      rfl

/-- and items likewise, -/
theorem items_append {f g : Forest Item} {vs vs' : List Value} (hf : items f = some vs)
    (hg : items g = some vs') : items (f ++ g) = some (vs ++ vs') := by
  induction f generalizing vs with
  | nil =>
      obtain rfl := Option.some.inj hf
      exact hg
  | node i c n _ ih =>
      rw [items_node] at hf
      obtain ⟨v, hv, hf⟩ := Option.bind_eq_some_iff.mp hf
      obtain ⟨vs₁, hvs₁, rfl⟩ := Option.map_eq_some_iff.mp hf
      rw [node_append, items_node, hv, ih hvs₁]
      rfl

/-- hence entries of a whole sequence -/
theorem entries_concat {β : Type} {l : List β} {f : β → Forest Item} {e : β → List (Value × Value)}
    (h : ∀ b ∈ l, entries (f b) = some (e b)) : entries (concat (l.map f)) = some (l.flatMap e) := by
  induction l with
  | nil => rfl
  | cons b l ih =>
      obtain ⟨hb, hl⟩ := List.forall_mem_cons.mp h
      rw [List.map_cons, concat_cons, List.flatMap_cons]
      exact entries_append hb (ih hl)

/-- and its items. -/
theorem items_concat {β : Type} {l : List β} {f : β → Forest Item} {v : β → List Value}
    (h : ∀ b ∈ l, items (f b) = some (v b)) : items (concat (l.map f)) = some (l.flatMap v) := by
  induction l with
  | nil => rfl
  | cons b l ih =>
      obtain ⟨hb, hl⟩ := List.forall_mem_cons.mp h
      rw [List.map_cons, concat_cons, List.flatMap_cons]
      exact items_append hb (ih hl)

/-- Lines that give entries are a mapping. -/
theorem value_of_entries {f : Forest Item} {es : List (Value × Value)} (h : entries f = some es)
    (hne : es ≠ []) : value f = some (.map es) := by
  cases f with
  | nil => exact absurd (Option.some.inj h).symm hne
  | node i c n =>
      cases i with
      | entry k v =>
          show (entries (.node (.entry k v) c n)).map Value.map = _
          rw [h]
          rfl
      | dash | scalar t | quoted s | marker =>
          rw [entries_node] at h
          cases h

/-- Lines that give items are a sequence. -/
theorem value_of_items {f : Forest Item} {vs : List Value} (h : items f = some vs) (hne : vs ≠ []) :
    value f = some (.seq vs) := by
  cases f with
  | nil => exact absurd (Option.some.inj h).symm hne
  | node i c n =>
      cases i with
      | dash =>
          show (items (.node .dash c n)).map Value.seq = _
          rw [h]
          rfl
      | entry k v | scalar t | quoted s | marker =>
          rw [items_node] at h
          cases h

/-- A field is one entry, -/
theorem entries_field {k v : List Char} {kv vv : Value} (hk : key k = some kv) (hv : scalar v = some vv) :
    entries (.leaf (.entry k (some v))) = some [(kv, vv)] := by
  rw [leaf, tree, entries_node, readEntry, if_pos rfl, hk, hv]
  rfl

/-- a key above a block is one, -/
theorem entries_tree {k : List Char} {c : Forest Item} {kv vv : Value} (hk : key k = some kv)
    (hv : value c = some vv) : entries (.tree (.entry k none) c) = some [(kv, vv)] := by
  rw [tree, entries_node, readEntry, hk, hv]
  rfl

/-- and a dash above a block is one item. -/
theorem items_tree {c : Forest Item} {v : Value} (hv : value c = some v) :
    items (.tree .dash c) = some [v] := by
  rw [tree, items_node, readItem, hv]
  rfl

/-! ### A scalar, plain or quoted -/

/-- The rest of a line without a comment and without the spaces at the end. -/
def leafText (cs : List Char) : List Char := (cutComment ' ' cs).rdropWhile (· = ' ')

/-- The item of a scalar that is the rest of a line. -/
def leafItem (cs : List Char) : Item :=
  match quotedScalar cs with
  | some s => .quoted s
  | none   => .scalar (leafText cs)

/-- The value of a scalar that is the rest of a line. -/
def leafValue (cs : List Char) : Option Value :=
  if cs.all inlineChar then
    match quotedScalar cs with
    | some s => some (.str s)
    | none   => scalar (leafText cs)
  else none

example : (leafValue "lab.example # ours".toList).bind Value.asStr = some "lab.example" := by decide +kernel

theorem leafText_of_plainValue {cs : List Char} (h : plainValue cs = true) : leafText cs = cs := by
  obtain ⟨-, -, hcomment, -, hlast, -⟩ := plainValue_iff.mp h
  rw [leafText, cutComment_of_hasComment hcomment, rdropWhile_of_getLast hlast]

/-- A plain scalar is read as its value. -/
theorem leafValue_of_scalar {cs : List Char} {v : Value} (h : scalar cs = some v) :
    leafValue cs = some v := by
  have hplain : plainValue cs = true := plainValue_of_scalar h
  obtain ⟨hstart, hinline, -⟩ := plainValue_iff.mp hplain
  rw [leafValue, if_pos hinline, quotedScalar_of_plainStart hstart]
  exact (leafText_of_plainValue hplain).symm ▸ h

/-- Whatever can be read in one line holds no line break. -/
theorem inline_of_leafValue {cs : List Char} {v : Value} (h : leafValue cs = some v) :
    cs.all inlineChar = true := by
  unfold leafValue at h
  split at h
  · assumption
  · cases h

/-- Either it is in quotes, or what stands before a comment is plain. -/
theorem leafValue_cases {cs : List Char} {v : Value} (h : leafValue cs = some v) :
    (quotedScalar cs = none ∧ scalar (leafText cs) = some v) ∨
      ∃ s, quotedScalar cs = some s ∧ v = .str s := by
  rw [leafValue, if_pos (inline_of_leafValue h)] at h
  split at h
  · rename_i s hs
    exact .inr ⟨s, hs, (Option.some.inj h).symm⟩
  · rename_i hs
    exact .inl ⟨hs, h⟩

/-- The leaf reads as its value. -/
theorem value_leafItem {cs : List Char} {v : Value} (h : leafValue cs = some v) :
    value (.leaf (leafItem cs)) = some v := by
  rcases leafValue_cases h with ⟨hs, h⟩ | ⟨s, hs, rfl⟩
  · rw [leafItem, hs]
    exact h
  · rw [leafItem, hs]
    rfl

/-- Quoted text starts with its quote. -/
theorem scanQuoted_of_quotedScalar {cs : List Char} {s : String} (h : quotedScalar cs = some s) (col : Nat) :
    scanQuoted col cs = some [(col, .quoted s)] := by
  unfold scanQuoted
  split
  · cases h
  · cases h
  · rw [h]
    rfl

/-- The line `- v`. -/
theorem scanLine_item {cs : List Char} {v : Value} (h : leafValue cs = some v) {n : Nat}
    (hmarker : 0 < n ∨ isMarker ('-' :: ' ' :: cs) = false) :
    scanLine (List.replicate n ' ' ++ '-' :: ' ' :: cs) = [(n, .dash), (n + 2, leafItem cs)] := by
  rcases leafValue_cases h with ⟨hs, h⟩ | ⟨s, hs, rfl⟩
  · have hplain : plainValue (leafText cs) = true := plainValue_of_scalar h
    -- the line starts as the scalar in front of the comment does
    have hstart : plainStart cs = true := by
      have hcut : leafText cs <+: cutComment ' ' cs := List.rdropWhile_prefix _ _
      obtain ⟨rest, hrest⟩ := hcut.trans (isPrefix_cutComment ' ' cs)
      exact hrest ▸ plainStart_append (plainValue_iff.mp hplain).1 rest
    have hquoted : scanQuoted n ('-' :: ' ' :: cs) = none := by
      rw [scanQuoted_dash, scanQuoted_of_plainStart hstart]
      rfl
    have htext : (cutComment ' ' (List.replicate n ' ' ++ '-' :: ' ' :: cs)).rdropWhile (· = ' ') =
        List.replicate n ' ' ++ '-' :: ' ' :: leafText cs := by
      have hcut : cutComment ' ' ('-' :: ' ' :: cs) = ['-', ' '] ++ cutComment ' ' cs := rfl
      rw [cutComment_replicate, hcut, ← List.append_assoc,
        rdropWhile_append (ne_nil_of_plainStart (plainValue_iff.mp hplain).1), List.append_assoc]
      rfl
    rw [scanLine, isMarker_line hmarker, if_neg Bool.false_ne_true, scanQuoted_replicate, Nat.zero_add,
      hquoted, htext, Option.getD_none, scan_replicate, Nat.zero_add, scan_item hplain, leafItem, hs]
  · refine scanLine_of_quoted ?_ hmarker
    rw [scanQuoted_dash, scanQuoted_of_quotedScalar hs, leafItem, hs]
    rfl

/-! ## Completeness -/

/-- **Completeness**: text whose lines scan to the items of a forest, written out, is read as
    the forest's value. -/
theorem safeLoad_flatten {text : List Char} {step d : Nat} (hstep : 0 < step) {f : Forest Item}
    (hchars : text.all (fun c => c = '\n' || inlineChar c) = true)
    (hscan : (text.splitOn '\n').flatMap scanLine = flatten step d f) : safeLoad text = value f := by
  unfold safeLoad
  dsimp only
  rw [hscan, hchars, regular_parseIndented_flatten hstep, parse_flatten hstep]
  rfl

end Yaml
