import HostConfig.Lib.TextLines
import HostConfig.Lib.YamlBlock
import HostConfig.Render.Netplan

/-!
# `Render.YamlLines` — rendered lines as a YAML loader scans them

The shapes of a template line are the shapes of a block-style YAML line, so a rendered document whose
substituted values are scalars scans to the items of its outline: `toItems` turns the outline's lines into
items (a list item is a dash with what follows it one level in), and `safeLoad_chars` says that the loader
reads the document as the value of that forest. `allPlain_chars` is about the values that are merely bare:
what is written around them is plain.
-/

namespace HostConfig
namespace Render

open Outline Forest TextLines Yaml

/-! ## Lines and items -/

/-- The line's key and value are scalars: plain ones, and a list item may be quoted. -/
def Readable : Body → Prop
  | .key k         => plainKey k.text.toList = true
  | .field k v     => plainKey k.toList = true ∧ plainValue v.text.toList = true
  | .item v        => (leafValue v.text.toList).isSome = true
  | .itemField k v => plainKey k.toList = true ∧ plainValue v.text.toList = true
  | .blank         => False
  | .raw _         => False

/-- The items of a line. -/
def lineItems (col : Nat) : Body → List (Nat × Item)
  | .key k         => [(col, .entry k.text.toList none)]
  | .field k v     => [(col, .entry k.toList (some v.text.toList))]
  | .item v        => [(col, .dash), (col + 2, leafItem v.text.toList)]
  | .itemField k v => [(col, .dash), (col + 2, .entry k.toList (some v.text.toList))]
  | .blank         => []
  | .raw _         => []

/-- The forest of the items of an outline. -/
def toItems : Forest Body → Forest Item
  | .nil                => .nil
  | .node (.key k) c n  => .node (.entry k.text.toList none) (toItems c) (toItems n)
  | .node (.field k v) c n => .node (.entry k.toList (some v.text.toList)) (toItems c) (toItems n)
  | .node (.item v) c n => .node .dash (.node (leafItem v.text.toList) .nil (toItems c)) (toItems n)
  | .node (.itemField k v) c n =>
      .node .dash (.node (.entry k.toList (some v.text.toList)) .nil (toItems c)) (toItems n)
  | .node .blank _ n    => toItems n
  | .node (.raw _) _ n  => toItems n

theorem toItems_append (f g : Forest Body) : toItems (f ++ g) = toItems f ++ toItems g := by
  induction f with
  | nil => rfl
  | node b c n _ ih => cases b <;> simp only [node_append, toItems, ih]

theorem toItems_concat {β : Type} (l : List β) (f : β → Forest Body) :
    toItems (concat (l.map f)) = concat (l.map fun b => toItems (f b)) := by
  induction l with
  | nil => rfl
  | cons b l ih => simp only [List.map_cons, concat_cons, toItems_append, ih]

/-- The items of a readable forest, line by line. -/
theorem flatten_toItems {f : Forest Body} (h : f.All Readable) (d : Nat) :
    flatten 2 d (toItems f) = (flatten 2 d f).flatMap fun x => lineItems x.1 x.2 := by
  induction f generalizing d with
  | nil => rfl
  | node b c n ihc ihn =>
      obtain ⟨hb, hc, hn⟩ := h
      rw [flatten, List.flatMap_cons, List.flatMap_append, ← ihc hc, ← ihn hn]
      cases b with
      | blank | raw segs => exact hb.elim
      | key k | field k v | item v | itemField k v => rfl

/-! ## Scanning a rendered line -/

/-- A readable line scans to its items. -/
theorem scanLine_body {b : Body} (h : Readable b) {n : Nat}
    (hmarker : 0 < n ∨ isMarker b.text.toList = false) :
    scanLine (List.replicate n ' ' ++ b.text.toList) = lineItems n b := by
  cases b with
  | blank | raw segs => exact h.elim
  | key k =>
    rw [Body.toList_key] at hmarker ⊢
    rw [scanLine_of_clean (.key h) (scanQuoted_of_plainStart (plainStart_key h []) n) hmarker,
      scan_key h, lineItems]
  | field k v =>
    rw [Body.toList_field] at hmarker ⊢
    rw [scanLine_of_clean (.field h.1 (.value h.2)) (scanQuoted_of_plainStart (plainStart_key h.1 _) n) hmarker,
      scan_field h.1 h.2, lineItems]
  | item v =>
    obtain ⟨w, hw⟩ := Option.isSome_iff_exists.mp h
    rw [Body.toList_item] at hmarker ⊢
    exact scanLine_item hw hmarker
  | itemField k v =>
    have hquoted : scanQuoted n ('-' :: ' ' :: (k.toList ++ ':' :: ' ' :: v.text.toList)) = none := by
      rw [scanQuoted_dash, scanQuoted_of_plainStart (plainStart_key h.1 _)]
      rfl
    rw [Body.toList_itemField] at hmarker ⊢
    rw [scanLine_of_clean (.dash (.field h.1 (.value h.2))) hquoted hmarker,
      scan_itemField h.1 h.2, lineItems]

theorem inline_body {b : Body} (h : Readable b) : b.text.toList.all inlineChar = true := by
  cases b with
  | blank | raw segs => exact h.elim
  | key k => rw [Body.toList_key]; exact (Clean.key h).inline
  | field k v => rw [Body.toList_field]; exact (Clean.field h.1 (.value h.2)).inline
  | item v =>
    obtain ⟨w, hw⟩ := Option.isSome_iff_exists.mp h
    rw [Body.toList_item, List.all_cons, List.all_cons, inline_of_leafValue hw]
    rfl
  | itemField k v => rw [Body.toList_itemField]; exact (Clean.dash (.field h.1 (.value h.2))).inline

/-- The line can be read: it is blank, or its values are scalars and it is no document marker. -/
def Line.Readable (l : Line) : Prop :=
  l.isBlank = true ∨ Render.Readable l.body ∧ (0 < l.indent ∨ isMarker l.body.text.toList = false)

theorem text_of_isBlank {l : Line} (h : l.isBlank = true) : l.text.toList = List.replicate l.indent ' ' := by
  have hbody : l.body = .blank := of_decide_eq_true h
  rw [Line.toList_text, hbody]
  exact List.append_nil _

/-- A line of a document does, indented or blank. -/
theorem scanLine_readable {l : Line} (h : l.Readable) :
    scanLine l.text.toList = lineItems l.indent l.body := by
  rcases h with h | ⟨h, hmarker⟩
  · have hbody : l.body = .blank := of_decide_eq_true h
    rw [text_of_isBlank h, scanLine_replicate, hbody]
    rfl
  · rw [Line.toList_text, scanLine_body h hmarker]

theorem inline_readable {l : Line} (h : l.Readable) : l.text.toList.all inlineChar = true := by
  have hspaces : ∀ n, (List.replicate n ' ').all inlineChar = true := fun n =>
    List.all_eq_true.mpr fun c hc => by rw [List.eq_of_mem_replicate hc]; rfl
  rcases h with h | ⟨h, -⟩
  · rw [text_of_isBlank h, hspaces]
  · rw [Line.toList_text, List.all_append, hspaces, inline_body h]
    rfl

theorem lf_notMem_readable {l : Line} (h : l.Readable) : '\n' ∉ l.text.toList := fun hmem =>
  absurd (List.all_eq_true.mp (inline_readable h) _ hmem) (by decide)

/-! ## Reading a rendered document -/

/-- The lines of the text are the rendered lines. -/
theorem splitOn_chars_readable {lines : List Line} (h : ∀ l ∈ lines, l.Readable) :
    (chars lines).splitOn '\n' = lines.map (fun l => l.text.toList) ++ [[]] := by
  have hsplit := splitOn_pieces (fun l : Line => l.text.toList) lines []
  rw [List.append_nil, List.splitOn_nil] at hsplit
  rw [chars, hsplit]
  congr 1
  rw [List.map_eq_flatMap]
  exact List.flatMap_congr fun l hl => List.splitOn_eq_singleton (lf_notMem_readable (h l hl))

/-- The lines of a document scan to their items. -/
theorem scan_chars {lines : List Line} (h : ∀ l ∈ lines, l.Readable) :
    ((chars lines).splitOn '\n').flatMap scanLine = (nonblank lines).flatMap fun l =>
      lineItems l.indent l.body := by
  rw [splitOn_chars_readable h, List.flatMap_append, List.flatMap_map]
  have hlast : [([] : List Char)].flatMap scanLine = [] := rfl
  rw [hlast, List.append_nil]
  induction lines with
  | nil => rfl
  | cons l lines ih =>
      obtain ⟨hl, hlines⟩ := List.forall_mem_cons.mp h
      rw [List.flatMap_cons, scanLine_readable hl, ih hlines, nonblank, nonblank, List.filter_cons]
      cases hblank : l.isBlank with
      | false => rfl
      | true =>
        have hbody : l.body = .blank := of_decide_eq_true hblank
        rw [hbody]
        rfl

theorem all_chars {lines : List Line} (h : ∀ l ∈ lines, l.Readable) :
    (chars lines).all (fun c => c = '\n' || inlineChar c) = true := by
  rw [List.all_eq_true]
  intro c hc
  obtain ⟨l, hl, hc⟩ := List.mem_flatMap.mp hc
  rcases List.mem_append.mp hc with hc | hc
  · rw [List.all_eq_true.mp (inline_readable (h l hl)) c hc, Bool.or_true]
  · rw [List.mem_singleton.mp hc]
    rfl

/-- **A document whose values are scalars is loaded as the value of its outline.** -/
theorem safeLoad_chars {lines : List Line} {d : Nat} {f : Forest Body} (hlayout : nonblank lines = layout d f)
    (hf : f.All Readable) (hroots : 0 < d ∨ ∀ t ∈ f.roots, isMarker t.1.text.toList = false) :
    safeLoad (chars lines) = value (toItems f) := by
  have hread : ∀ l ∈ lines, l.Readable := by
    intro l hl
    cases hblank : l.isBlank with
    | true => exact .inl hblank
    | false =>
      have hmem : l ∈ layout d f := hlayout ▸ List.mem_filter.mpr ⟨hl, by rw [hblank]; rfl⟩
      obtain ⟨x, hx, rfl⟩ := List.mem_map.mp hmem
      refine .inr ⟨of_mem_flatten hf x hx, ?_⟩
      rcases hroots with hd | hroots
      · exact .inl (Nat.lt_of_lt_of_le hd (le_of_mem_flatten hx))
      · rcases mem_flatten (by decide) hx with ⟨c, hc⟩ | hlt
        · exact .inr (hroots (x.2, c) hc)
        · exact .inl (Nat.lt_of_le_of_lt (Nat.zero_le d) hlt)
  refine safeLoad_flatten (d := d) Nat.two_pos (all_chars hread) ?_
  rw [scan_chars hread, hlayout, layout, List.flatMap_map, flatten_toItems hf]

/-! ## A document of bare values -/

/-- The text of the line is bare. -/
def BareLine (b : Body) : Prop := bare b.text.toList = true

theorem bareLine_key {k : Seg} (h : bare k.text.toList = true) : BareLine (.key k) := by
  rw [BareLine, Body.toList_key]
  exact bare_append h (by decide)

theorem bareLine_field {k : String} {v : Seg} (hk : Bare k) (hv : bare v.text.toList = true) :
    BareLine (.field k v) := by
  rw [BareLine, Body.toList_field]
  exact bare_append hk (bare_append (a := [':', ' ']) (by decide) hv)

theorem bareLine_item {v : Seg} (h : bare v.text.toList = true) : BareLine (.item v) := by
  rw [BareLine, Body.toList_item]
  exact bare_append (a := ['-', ' ']) (by decide) h

theorem bareLine_itemField {k : String} {v : Seg} (hk : Bare k) (hv : bare v.text.toList = true) :
    BareLine (.itemField k v) := by
  rw [BareLine, Body.toList_itemField]
  exact bare_append (a := ['-', ' ']) (by decide)
    (bare_append hk (bare_append (a := [':', ' ']) (by decide) hv))

theorem bare_replicate (n : Nat) : bare (List.replicate n ' ') = true :=
  bare_of_notMem fun c hc => by
    rw [List.eq_of_mem_replicate hc]
    decide

/-- **In a document of bare lines every scalar is plain.** -/
theorem allPlain_chars {lines : List Line} {d : Nat} {f : Forest Body} (hlayout : nonblank lines = layout d f)
    (hf : f.All BareLine) : allPlain (chars lines) = true := by
  refine allPlain_lines fun l hl => ?_
  cases hblank : l.isBlank with
  | true =>
    rw [text_of_isBlank hblank]
    exact bare_replicate l.indent
  | false =>
    have hmem : l ∈ layout d f := hlayout ▸ List.mem_filter.mpr ⟨hl, by rw [hblank]; rfl⟩
    obtain ⟨x, hx, rfl⟩ := List.mem_map.mp hmem
    rw [Line.toList_text]
    exact bare_append (bare_replicate _) (of_mem_flatten hf x hx)

end Render
end HostConfig
