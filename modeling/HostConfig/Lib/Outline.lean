import Mathlib.Data.List.Basic

/-!
# `Lib.Outline` — indented lines as a forest

An outline is a list of lines that say how far they are indented; a line belongs to the nearest line above
it that is indented less. `Forest` is the tree structure this describes, in the first-child/next-sibling
form, so that every function on it is a structural recursion; `parse` recovers it from the lines and
`flatten` writes it out with a fixed step. `parse_flatten`: writing out and reading back gives the forest.

A forest is also the list of its trees (`roots`), and `++` puts forests side by side; `flatten` and `roots`
are homomorphisms for it, which is how the outline of a concatenation of blocks is computed block by block.
-/

namespace Outline

inductive Forest (α : Type)
  | nil
  | node (a : α) (children next : Forest α)
deriving DecidableEq

namespace Forest

variable {α β : Type}

def append : Forest α → Forest α → Forest α
  | nil, g                  => g
  | node a children next, g => node a children (append next g)

instance : Append (Forest α) := ⟨append⟩

@[simp] theorem nil_append (g : Forest α) : (nil : Forest α) ++ g = g := rfl

@[simp] theorem node_append (a : α) (c n g : Forest α) : node a c n ++ g = node a c (n ++ g) := rfl

/-- Appending goes through the siblings at the top, as it does through the elements of a list. -/
@[simp] theorem append_nil (f : Forest α) : f ++ nil = f := by
  induction f with
  | nil => rfl
  | node a c n _ ih => rw [node_append, ih]

theorem append_assoc (f g h : Forest α) : f ++ g ++ h = f ++ (g ++ h) := by
  induction f with
  | nil => rfl
  | node a c n _ ih => rw [node_append, node_append, node_append, ih]

/-- One tree. -/
def tree (a : α) (children : Forest α) : Forest α := node a children nil

/-- One line with nothing under it. -/
def leaf (a : α) : Forest α := tree a nil

/-- Forests side by side. -/
def concat (fs : List (Forest α)) : Forest α := fs.foldr (· ++ ·) nil

@[simp] theorem concat_nil : concat ([] : List (Forest α)) = nil := rfl

@[simp] theorem concat_cons (f : Forest α) (fs : List (Forest α)) : concat (f :: fs) = f ++ concat fs := rfl

/-- The trees of the forest, each as its line and what stands under it. -/
def roots : Forest α → List (α × Forest α)
  | nil                  => []
  | node a children next => (a, children) :: roots next

@[simp] theorem roots_nil : (nil : Forest α).roots = [] := rfl

@[simp] theorem roots_tree (a : α) (c : Forest α) : (tree a c).roots = [(a, c)] := rfl

@[simp] theorem roots_leaf (a : α) : (leaf a).roots = [(a, nil)] := rfl

/-- The roots of forests side by side. -/
@[simp] theorem roots_append (f g : Forest α) : (f ++ g).roots = f.roots ++ g.roots := by
  induction f with
  | nil => rfl
  | node a c n _ ih => rw [node_append, roots, roots, ih, List.cons_append]

/-- Every line satisfies `P`. -/
def All (P : α → Prop) : Forest α → Prop
  | nil                  => True
  | node a children next => P a ∧ All P children ∧ All P next

@[simp] theorem all_nil (P : α → Prop) : All P nil := trivial

/-- A property of all nodes is one of each part: -/
@[simp] theorem all_append (P : α → Prop) (f g : Forest α) : All P (f ++ g) ↔ All P f ∧ All P g := by
  induction f with
  | nil => simp
  | node a c n _ ih => rw [node_append, All, All, ih, and_assoc, and_assoc]

/-- of a tree's root and what is below it, -/
@[simp] theorem all_tree (P : α → Prop) (a : α) (c : Forest α) : All P (tree a c) ↔ P a ∧ All P c := by
  simp [tree, All]

@[simp] theorem all_leaf (P : α → Prop) (a : α) : All P (leaf a) ↔ P a := by simp [leaf]

/-- and of each forest of a sequence. -/
theorem all_concat (P : α → Prop) (l : List β) (f : β → Forest α) :
    All P (concat (l.map f)) ↔ ∀ b ∈ l, All P (f b) := by
  induction l with
  | nil => simp
  | cons b l ih => rw [List.map_cons, concat_cons, all_append, ih, List.forall_mem_cons]

end Forest

open Forest

variable {α : Type}

/-! ## Writing out -/

/-- The lines of a forest whose trees start at indentation `d`, every level `step` further in. -/
def flatten (step : Nat) : Nat → Forest α → List (Nat × α)
  | _, nil                  => []
  | d, node a children next => (d, a) :: (flatten step (d + step) children ++ flatten step d next)

@[simp] theorem flatten_nil (step d : Nat) : flatten step d (nil : Forest α) = [] := rfl

theorem flatten_tree (step d : Nat) (a : α) (c : Forest α) :
    flatten step d (tree a c) = (d, a) :: flatten step (d + step) c := by
  rw [tree, flatten, flatten_nil, List.append_nil]

/-- Forests side by side are written one after the other, -/
theorem flatten_append (step d : Nat) (f g : Forest α) :
    flatten step d (f ++ g) = flatten step d f ++ flatten step d g := by
  induction f with
  | nil => rfl
  | node a c n _ ih => rw [node_append, flatten, flatten, ih, List.cons_append, List.append_assoc]

/-- so a sequence of them line group by line group. -/
theorem flatten_concat {β : Type} (step d : Nat) (l : List β) (f : β → Forest α) :
    flatten step d (concat (l.map f)) = l.flatMap (fun b => flatten step d (f b)) := by
  induction l with
  | nil => rfl
  | cons b l ih => rw [List.map_cons, concat_cons, flatten_append, ih, List.flatMap_cons]

/-- Moving a written-out forest to the right. -/
theorem map_flatten (step d n : Nat) (f : Forest α) :
    (flatten step d f).map (fun x => (x.1 + n, x.2)) = flatten step (d + n) f := by
  induction f generalizing d with
  | nil => rfl
  | node a c nx ihc ihn =>
      rw [flatten, flatten, List.map_cons, List.map_append, ihc, ihn, Nat.add_right_comm]

/-- What holds of every node holds of every line. -/
theorem of_mem_flatten {step d : Nat} {P : α → Prop} {f : Forest α} (h : f.All P) :
    ∀ x ∈ flatten step d f, P x.2 := by
  induction f generalizing d with
  | nil => exact fun x hx => absurd hx List.not_mem_nil
  | node a c n ihc ihn =>
      obtain ⟨ha, hc, hn⟩ := h
      intro x hx
      rcases List.mem_cons.mp hx with rfl | hx
      · exact ha
      · exact (List.mem_append.mp hx).elim (ihc hc x) (ihn hn x)

/-- No line is left of the depth its forest starts at. -/
theorem le_of_mem_flatten {step d : Nat} {f : Forest α} {x : Nat × α}
    (hx : x ∈ flatten step d f) : d ≤ x.1 := by
  induction f generalizing d with
  | nil => exact absurd hx List.not_mem_nil
  | node a c n ihc ihn =>
      rcases List.mem_cons.mp hx with rfl | hx
      · exact Nat.le_refl d
      · exact (List.mem_append.mp hx).elim (fun h => Nat.le_trans (Nat.le_add_right d step) (ihc h)) ihn

/-- A line is that of a root, or indented further than the roots. -/
theorem mem_flatten {step d : Nat} (hstep : 0 < step) {f : Forest α} {x : Nat × α}
    (hx : x ∈ flatten step d f) : (∃ c, (x.2, c) ∈ f.roots) ∨ d < x.1 := by
  induction f generalizing d with
  | nil => exact absurd hx List.not_mem_nil
  | node a c n _ ihn =>
      rcases List.mem_cons.mp hx with rfl | hx
      · exact .inl ⟨c, List.mem_cons_self⟩
      · rcases List.mem_append.mp hx with hx | hx
        · exact .inr (Nat.lt_of_lt_of_le (Nat.lt_add_of_pos_right hstep) (le_of_mem_flatten hx))
        · exact (ihn hx).imp (fun ⟨c', hc'⟩ => ⟨c', List.mem_cons_of_mem _ hc'⟩) id

/-! ## Reading -/

/-- The trees at the front that are indented further than `n`. -/
def under (n : Nat) : Forest (Nat × α) → Forest (Nat × α)
  | nil                  => nil
  | node a children next => if n < a.1 then node a children (under n next) else nil

/-- The trees from the first one that is not. -/
def after (n : Nat) : Forest (Nat × α) → Forest (Nat × α)
  | nil                  => nil
  | node a children next => if n < a.1 then after n next else node a children next

/-- The forest of the lines, each still with its indentation: from the last line to the first, a line takes
    the trees below it that are indented further. -/
def parseIndented : List (Nat × α) → Forest (Nat × α)
  | []      => nil
  | l :: ls => node l (under l.1 (parseIndented ls)) (after l.1 (parseIndented ls))

def forget : Forest (Nat × α) → Forest α
  | nil                  => nil
  | node a children next => node a.2 (forget children) (forget next)

/-- **Reading an outline.** -/
def parse (ls : List (Nat × α)) : Forest α := forget (parseIndented ls)

/-- The forest with the indentations `flatten` would give it. -/
def annotate (step : Nat) : Nat → Forest α → Forest (Nat × α)
  | _, nil                  => nil
  | d, node a children next => node (d, a) (annotate step (d + step) children) (annotate step d next)

/-- The columns are put beside the nodes and change nothing else. -/
theorem forget_annotate (step d : Nat) (f : Forest α) : forget (annotate step d f) = f := by
  induction f generalizing d with
  | nil => rfl
  | node a c n ihc ihn => rw [annotate, forget, ihc, ihn]

/-- `g` starts at indentation at most `d`, or is empty. -/
def Closes (d : Nat) : Forest (Nat × α) → Prop
  | nil        => True
  | node a _ _ => a.1 ≤ d

/-- What closes a depth closes the deeper ones. -/
theorem Closes.mono {d d' : Nat} {g : Forest (Nat × α)} (h : Closes d g) (hle : d ≤ d') : Closes d' g := by
  cases g with
  | nil => trivial
  | node a c n => exact Nat.le_trans h hle

/-- Siblings at a depth close it. -/
theorem Closes.annotate_append {step d : Nat} {g : Forest (Nat × α)} (h : Closes d g) (f : Forest α) :
    Closes d (annotate step d f ++ g) := by
  cases f with
  | nil => exact h
  | node a c n => exact Nat.le_refl d

/-- Below a shallower line lies the whole of a deeper forest, -/
theorem under_annotate_append {step d n : Nat} {g : Forest (Nat × α)} (hn : n < d) (hg : Closes n g)
    (f : Forest α) : under n (annotate step d f ++ g) = annotate step d f := by
  induction f with
  | nil =>
      cases g with
      | nil => rfl
      | node a c nx => exact if_neg (Nat.not_lt.mpr hg)
  | node a c nx _ ih =>
      rw [annotate, node_append, under, if_pos hn, ih]

/-- and after it what closes that line. -/
theorem after_annotate_append {step d n : Nat} {g : Forest (Nat × α)} (hn : n < d) (hg : Closes n g)
    (f : Forest α) : after n (annotate step d f ++ g) = g := by
  induction f with
  | nil =>
      cases g with
      | nil => rfl
      | node a c nx => exact if_neg (Nat.not_lt.mpr hg)
  | node a c nx _ ih =>
      rw [annotate, node_append, after, if_pos hn, ih]

/-- What follows a forest does not change how the forest is read, as long as it is not indented further. -/
theorem parseIndented_flatten_append {step : Nat} (hstep : 0 < step) (f : Forest α) (d : Nat)
    (ls : List (Nat × α)) (h : Closes d (parseIndented ls)) :
    parseIndented (flatten step d f ++ ls) = annotate step d f ++ parseIndented ls := by
  induction f generalizing d ls with
  | nil => rfl
  | node a c n ihc ihn =>
      have hnext := ihn d ls h
      have hcloses : Closes d (parseIndented (flatten step d n ++ ls)) := hnext ▸ h.annotate_append n
      rw [flatten, List.cons_append, List.append_assoc, parseIndented,
        ihc (d + step) _ (hcloses.mono (Nat.le_add_right d step)),
        under_annotate_append (Nat.lt_add_of_pos_right hstep) hcloses,
        after_annotate_append (Nat.lt_add_of_pos_right hstep) hcloses, hnext]
      rfl

/-- Cutting a forest at a column keeps what holds of all nodes, below the cut -/
theorem all_under {P : Nat × α → Prop} {n : Nat} {f : Forest (Nat × α)} (h : f.All P) :
    (under n f).All P := by
  induction f with
  | nil => trivial
  | node a c nx _ ih =>
      obtain ⟨ha, hc, hn⟩ := h
      rw [under]
      split
      · exact ⟨ha, hc, ih hn⟩
      · trivial

/-- and after it. -/
theorem all_after {P : Nat × α → Prop} {n : Nat} {f : Forest (Nat × α)} (h : f.All P) :
    (after n f).All P := by
  induction f with
  | nil => trivial
  | node a c nx _ ih =>
      rw [after]
      split
      · exact ih h.2.2
      · exact h

/-- The lines of the forest are lines that were read. -/
theorem all_parse {P : α → Prop} {ls : List (Nat × α)} (h : ∀ l ∈ ls, P l.2) : (parse ls).All P := by
  have hindented : (parseIndented ls).All fun l => P l.2 := by
    induction ls with
    | nil => trivial
    | cons l ls ih =>
        obtain ⟨hl, hls⟩ := List.forall_mem_cons.mp h
        exact ⟨hl, all_under (ih hls), all_after (ih hls)⟩
  have hforget : ∀ f : Forest (Nat × α), (f.All fun l => P l.2) → (forget f).All P := by
    intro f hf
    induction f with
    | nil => trivial
    | node a c n ihc ihn => exact ⟨hf.1, ihc hf.2.1, ihn hf.2.2⟩
  exact hforget _ hindented

/-- **Round trip.** -/
theorem parse_flatten {step : Nat} (hstep : 0 < step) (d : Nat) (f : Forest α) :
    parse (flatten step d f) = f := by
  have h := parseIndented_flatten_append hstep f d [] trivial
  rw [List.append_nil, parseIndented, append_nil] at h
  rw [parse, h, forget_annotate]

/-- The first tree, if any, is indented by `d`. -/
def startsAt (d : Nat) : Forest (Nat × α) → Bool
  | nil        => true
  | node a _ _ => a.1 = d

/-- Siblings are indented alike. -/
def regular : Forest (Nat × α) → Bool
  | nil                  => true
  | node a children next => startsAt a.1 next && regular children && regular next

/-- Siblings of a written forest stand in one column, -/
theorem regular_annotate (step d : Nat) (f : Forest α) : regular (annotate step d f) = true := by
  induction f generalizing d with
  | nil => rfl
  | node a c n ihc ihn =>
      have hstarts : startsAt d (annotate step d n) = true := by
        cases n with
        | nil => rfl
        | node b c' n' => exact decide_eq_true rfl
      rw [annotate, regular, ihc, ihn, hstarts]
      rfl

/-- and so they do when it is read back. -/
theorem regular_parseIndented_flatten {step : Nat} (hstep : 0 < step) (d : Nat) (f : Forest α) :
    regular (parseIndented (flatten step d f)) = true := by
  have h := parseIndented_flatten_append hstep f d [] trivial
  rw [List.append_nil, parseIndented, append_nil] at h
  rw [h, regular_annotate]

end Outline
