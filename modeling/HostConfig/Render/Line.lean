import HostConfig.Models.Intent

/-!
# `Render.Line` — the lines a template emits

A template of this repository is line-oriented: with `trim_blocks` and `lstrip_blocks` a block tag or a
comment stands on a line of its own and leaves nothing behind, so a rendered file is the sequence of the
template's text lines, each repeated as its loops say, with values substituted. `Line` keeps those lines
apart from their text: a substituted value is one opaque token (`Seg.tok`), whatever characters it has, and
only `Line.text` turns it into characters (`autoescape` is off: as they are).
-/

namespace HostConfig
namespace Render

open Models

/-- A value a `{{ … }}` substitutes. -/
inductive Tok
  | str (s : String)
  | int (n : Nat)
  | ip (a : IPv4Address)
  | iface (a : IPv4Interface)
deriving DecidableEq

/-- `str(value)` -/
def Tok.text : Tok → String
  | .str s   => s
  | .int n   => toString n
  | .ip a    => a.str
  | .iface a => a.str

/-- A piece of a template line: its own text, or a substituted value. -/
inductive Seg
  | lit (s : String)
  | tok (t : Tok)
deriving DecidableEq

namespace Seg

def text : Seg → String
  | .lit s => s
  | .tok t => t.text

abbrev str (s : String) : Seg := .tok (.str s)
abbrev int (n : Nat) : Seg := .tok (.int n)
abbrev ip (a : IPv4Address) : Seg := .tok (.ip a)
abbrev iface (a : IPv4Interface) : Seg := .tok (.iface a)

end Seg

/-- A template line after its indentation, by shape: empty, `k:`, `k: v`, `- v`, `- k: v`, or other text. -/
inductive Body
  | blank
  | key (k : Seg)
  | field (k : String) (v : Seg)
  | item (v : Seg)
  | itemField (k : String) (v : Seg)
  | raw (segs : List Seg)
deriving DecidableEq

def Body.text : Body → String
  | .blank         => ""
  | .key k         => k.text ++ ":"
  | .field k v     => k ++ ": " ++ v.text
  | .item v        => "- " ++ v.text
  | .itemField k v => "- " ++ k ++ ": " ++ v.text
  | .raw segs      => String.join (segs.map Seg.text)

/-- An indented line. -/
structure Line where
  indent : Nat
  body : Body
deriving DecidableEq

namespace Line

def blank : Line := ⟨0, .blank⟩

/-- The line as characters, without the line feed that ends it. -/
def text (l : Line) : String := String.ofList (List.replicate l.indent ' ') ++ l.body.text

/-- `n` more spaces in front. -/
def shift (n : Nat) (l : Line) : Line := { l with indent := l.indent + n }

def isBlank (l : Line) : Bool := l.body = .blank

end Line

/-! ## Non-blank lines -/

/-- The lines that are not blank. -/
def nonblank (lines : List Line) : List Line := lines.filter (fun l => !l.isBlank)

theorem nonblank_append (l l' : List Line) : nonblank (l ++ l') = nonblank l ++ nonblank l' :=
  List.filter_append l l'

theorem nonblank_flatMap {α : Type} (l : List α) (f : α → List Line) :
    nonblank (l.flatMap f) = l.flatMap (fun a => nonblank (f a)) := by
  induction l with
  | nil => rfl
  | cons a l ih => rw [List.flatMap_cons, List.flatMap_cons, nonblank_append, ih]

theorem nonblank_eq_self {l : List Line} (h : ∀ x ∈ l, x.isBlank = false) : nonblank l = l :=
  List.filter_eq_self.mpr fun x hx => by rw [h x hx]; rfl

/-- A loop that emits one non-blank line per element. -/
theorem nonblank_map {α : Type} (l : List α) (f : α → Line) (hf : ∀ a, (f a).isBlank = false) :
    nonblank (l.map f) = l.map f :=
  nonblank_eq_self fun x hx => by
    obtain ⟨a, -, rfl⟩ := List.mem_map.mp hx
    exact hf a

theorem isBlank_of_mem_nonblank {lines : List Line} : ∀ l ∈ nonblank lines, l.isBlank = false := by
  intro l hl
  simpa using (List.mem_filter.mp hl).2

/-! ## Text -/

/-- The rendered text: every line ends in a line feed. -/
def renderText (lines : List Line) : String := String.join (lines.map (fun l => l.text ++ "\n"))

/-! The characters of a line, shape by shape. -/

theorem Body.toList_key (k : Seg) : (Body.key k).text.toList = k.text.toList ++ [':'] := by
  rw [Body.text, String.toList_append]; rfl

theorem Body.toList_field (k : String) (v : Seg) :
    (Body.field k v).text.toList = k.toList ++ ':' :: ' ' :: v.text.toList := by
  rw [Body.text, String.toList_append, String.toList_append, List.append_assoc]; rfl

theorem Body.toList_item (v : Seg) : (Body.item v).text.toList = '-' :: ' ' :: v.text.toList := by
  rw [Body.text, String.toList_append]; rfl

theorem Body.toList_itemField (k : String) (v : Seg) :
    (Body.itemField k v).text.toList = '-' :: ' ' :: (k.toList ++ ':' :: ' ' :: v.text.toList) := by
  simp only [Body.text, String.toList_append, List.append_assoc]; rfl

theorem Body.toList_raw (segs : List Seg) :
    (Body.raw segs).text.toList = segs.flatMap (fun s => s.text.toList) := by
  induction segs with
  | nil => rfl
  | cons s segs ih =>
      rw [Body.text] at ih ⊢
      rw [List.map_cons, String.join_cons, String.toList_append, ih, List.flatMap_cons]

theorem Line.toList_text (l : Line) :
    l.text.toList = List.replicate l.indent ' ' ++ l.body.text.toList := by
  rw [Line.text, String.toList_append, String.toList_ofList]

/-- The characters of the rendered text. -/
def chars (lines : List Line) : List Char := lines.flatMap (fun l => l.text.toList ++ ['\n'])

theorem toList_renderText (lines : List Line) : (renderText lines).toList = chars lines := by
  induction lines with
  | nil => rfl
  | cons l lines ih =>
      rw [chars, List.flatMap_cons, ← chars, ← ih, renderText, List.map_cons, String.join_cons,
        String.toList_append,
        String.toList_append]
      rfl

theorem chars_append (l l' : List Line) : chars (l ++ l') = chars l ++ chars l' := List.flatMap_append

end Render
end HostConfig
