import Mathlib.Data.List.Nodup

/-!
# `Lib.Wiring` — items that declare a name and items that refer to one

A list of items is *wired* when the names it declares are distinct, every reference is to exactly one
declaration that stands before it, and every declared name is referred to exactly once. What neither
declares nor refers is of no account (`Wired.of_filter`), so a list built from pairs of a declaration and
its reference is wired as soon as the names are distinct (`wired_flatMap`).
-/

namespace Wiring

variable {α β ι : Type} [DecidableEq ι] {declares refers : α → Option ι} {items : List α}

structure Wired (declares refers : α → Option ι) (items : List α) : Prop where
  distinct : (items.filterMap declares).Nodup
  referred : ∀ name ∈ items.filterMap declares, (items.filterMap refers).count name = 1
  declared : ∀ before item after, items = before ++ item :: after → ∀ name, refers item = some name →
    (before.filterMap declares).count name = 1

/-- The item declares a name or refers to one. -/
def relevant (declares refers : α → Option ι) (item : α) : Bool :=
  (declares item).isSome || (refers item).isSome

omit [DecidableEq ι] in
theorem filterMap_filter_relevant (declares refers : α → Option ι) (items : List α) :
    (items.filter (relevant declares refers)).filterMap declares = items.filterMap declares ∧
      (items.filter (relevant declares refers)).filterMap refers = items.filterMap refers := by
  rw [List.filterMap_filter, List.filterMap_filter]
  constructor
  · apply List.filterMap_congr
    intro item _
    unfold relevant
    cases declares item <;> simp
  · apply List.filterMap_congr
    intro item _
    unfold relevant
    cases refers item <;> simp

/-- Other items do not matter. -/
theorem Wired.of_filter (h : Wired declares refers (items.filter (relevant declares refers))) :
    Wired declares refers items := by
  have hmaps := filterMap_filter_relevant declares refers
  constructor
  case distinct => exact (hmaps items).1 ▸ h.distinct
  case referred =>
    intro name hname
    rw [← (hmaps items).2]
    apply h.referred
    rw [(hmaps items).1]
    exact hname
  case declared =>
    intro before item after hitems name hrefers
    have hrelevant : relevant declares refers item = true := by simp [relevant, hrefers]
    rw [← (hmaps before).1]
    refine h.declared _ item (after.filter (relevant declares refers)) ?_ name hrefers
    rw [hitems, List.filter_append, List.filter_cons_of_pos hrelevant]

/-! ## Pairs of a declaration and its reference -/

section

variable {declaration reference : β → α} {name : β → ι}

omit [DecidableEq ι] in
/-- A reference in a list of pairs stands behind whole pairs and its own declaration. -/
theorem exists_pair {l : List β} {before after : List α} {item : α}
    (hne : ∀ b ∈ l, declaration b ≠ item)
    (h : l.flatMap (fun b => [declaration b, reference b]) = before ++ item :: after) :
    ∃ l₁ b l₂, l = l₁ ++ b :: l₂ ∧ item = reference b ∧
      before = l₁.flatMap (fun b => [declaration b, reference b]) ++ [declaration b] := by
  induction l generalizing before with
  | nil => simp at h
  | cons b l ih =>
    rw [List.flatMap_cons, List.cons_append, List.cons_append, List.nil_append] at h
    -- the item is the declaration, the reference of the first pair, or stands in a later pair
    cases before with
    | nil =>
      rw [List.nil_append] at h
      exact absurd (List.cons.inj h).1 (hne b List.mem_cons_self)
    | cons d before =>
      rw [List.cons_append] at h
      obtain ⟨hd, htail⟩ := List.cons.inj h
      cases before with
      | nil =>
        rw [List.nil_append] at htail
        refine ⟨[], b, l, rfl, (List.cons.inj htail).1.symm, ?_⟩
        rw [← hd]
        rfl
      | cons r before =>
        rw [List.cons_append] at htail
        obtain ⟨hr, hrest⟩ := List.cons.inj htail
        obtain ⟨l₁, b', l₂, rfl, hitem, rfl⟩ := ih (fun b hb => hne b (List.mem_cons_of_mem _ hb)) hrest
        refine ⟨b :: l₁, b', l₂, rfl, hitem, ?_⟩
        rw [← hd, ← hr]
        rfl

omit [DecidableEq ι] in
/-- Reading only the first items of the pairs reads the names. -/
theorem filterMap_first {f : α → Option ι} {l : List β} (hfirst : ∀ b ∈ l, f (declaration b) = some (name b))
    (hsecond : ∀ b ∈ l, f (reference b) = none) :
    (l.flatMap fun b => [declaration b, reference b]).filterMap f = l.map name := by
  induction l with
  | nil => rfl
  | cons b l ih =>
    obtain ⟨hb, hl⟩ := List.forall_mem_cons.mp hfirst
    obtain ⟨hb', hl'⟩ := List.forall_mem_cons.mp hsecond
    simp [hb, hb', ih hl hl']

omit [DecidableEq ι] in
/-- And so does reading only the second ones. -/
theorem filterMap_second {f : α → Option ι} {l : List β} (hfirst : ∀ b ∈ l, f (declaration b) = none)
    (hsecond : ∀ b ∈ l, f (reference b) = some (name b)) :
    (l.flatMap fun b => [declaration b, reference b]).filterMap f = l.map name := by
  induction l with
  | nil => rfl
  | cons b l ih =>
    obtain ⟨hb, hl⟩ := List.forall_mem_cons.mp hfirst
    obtain ⟨hb', hl'⟩ := List.forall_mem_cons.mp hsecond
    simp [hb, hb', ih hl hl']

/-- **Pairs with distinct names are wired.** -/
theorem wired_flatMap {l : List β} (hdeclares : ∀ b ∈ l, declares (declaration b) = some (name b))
    (hrefers : ∀ b ∈ l, refers (reference b) = some (name b))
    (hnoRefers : ∀ b ∈ l, refers (declaration b) = none)
    (hnoDeclares : ∀ b ∈ l, declares (reference b) = none) (hnodup : (l.map name).Nodup) :
    Wired declares refers (l.flatMap fun b => [declaration b, reference b]) := by
  constructor
  case distinct =>
    rw [filterMap_first hdeclares hnoDeclares]
    exact hnodup
  case referred =>
    intro n hn
    rw [filterMap_first hdeclares hnoDeclares] at hn
    rw [filterMap_second hnoRefers hrefers]
    exact List.count_eq_one_of_mem hnodup hn
  case declared =>
    intro before item after hitems n hn
    have hne : ∀ b ∈ l, declaration b ≠ item := by
      rintro b hb rfl
      rw [hnoRefers b hb] at hn
      cases hn
    obtain ⟨l₁, b, l₂, rfl, rfl, rfl⟩ := exists_pair hne hitems
    have hb : b ∈ l₁ ++ b :: l₂ := List.mem_append_cons_self
    have hl₁ : ∀ b' ∈ l₁, b' ∈ l₁ ++ b :: l₂ := by
      intro b' hb'
      exact List.mem_append_left _ hb'
    rw [hrefers b hb] at hn
    have hnames := filterMap_first (fun b' hb' => hdeclares b' (hl₁ b' hb')) fun b' hb' =>
        hnoDeclares b' (hl₁ b' hb')
    rw [← Option.some.inj hn, List.filterMap_append, hnames, List.filterMap_cons_some (hdeclares b hb),
      List.filterMap_nil]
    -- the names up to this one are distinct too
    have hprefix : (l₁.map name ++ [name b]).Nodup := by
      rw [List.map_append, List.map_cons] at hnodup
      exact hnodup.sublist (List.Sublist.append_left (List.singleton_sublist.mpr List.mem_cons_self) _)
    exact List.count_eq_one_of_mem hprefix (by simp)

end

end Wiring
