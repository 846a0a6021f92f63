import Mathlib.Data.List.Forall2

/-!
# `Lib.Traverse` — loops that build a list and stop at the first error

`l.mapM f` in `Except` is the loop that appends `f a` for every element `a` and raises what the first
failing one raises. Its result is determined element by element (`mapM_eq_ok_iff`), so an order of the
elements is an order of the results, and whether the loop succeeds does not depend on it (`mapM_perm`).
Which error it raises does. A search does not depend on the order either, where only one element answers it
(`find?_perm`).

What a filter, a search and a loop make of a list shows in its image under a function they see their
elements through (`map_filter_of_map`, `map_find?_of_map`, `mapM_of_map`).
-/

namespace Traverse

variable {ε α β γ σ : Type}

/-! ## Lists related element by element -/

theorem map_of_forall₂ {R : α → β → Prop} {g : β → γ} {k : α → γ} (hR : ∀ a b, R a b → g b = k a) {l : List α}
    {r : List β} (h : List.Forall₂ R l r) : r.map g = l.map k := by
  induction h with
  | nil => rfl
  | cons hb _ ih => rw [List.map_cons, List.map_cons, hR _ _ hb, ih]

/-- Where every element of a list names one, what is related to the elements named is related
    to the list of these. -/
theorem forall₂_filterMap {f : α → Option β} {R : β → γ → Prop} {l : List α} {r : List γ}
    (h : List.Forall₂ (fun a c => ∃ b, f a = some b ∧ R b c) l r) : List.Forall₂ R (l.filterMap f) r := by
  induction h with
  | nil => exact .nil
  | cons hac _ ih =>
    obtain ⟨b, hb, hbc⟩ := hac
    rw [List.filterMap_cons_some hb]
    exact .cons hbc ih

/-- Lists related through a third one are related by the composition. -/
theorem forall₂_comp {R : α → β → Prop} {S : β → γ → Prop} {l : List α} {m : List β} {r : List γ}
    (h : List.Forall₂ R l m) (h' : List.Forall₂ S m r) :
    List.Forall₂ (fun a c => ∃ b, R a b ∧ S b c) l r := by
  induction h generalizing r with
  | nil =>
      cases h'
      exact .nil
  | cons hab _ ih =>
      cases h' with
      | cons hbc h' => exact .cons ⟨_, hab, hbc⟩ (ih h')

theorem exists_of_mem_right {R : α → β → Prop} {l : List α} {r : List β} (h : List.Forall₂ R l r) :
    ∀ b ∈ r, ∃ a ∈ l, R a b := by
  induction h with
  | nil => exact fun b hb => absurd hb List.not_mem_nil
  | cons hb _ ih =>
      refine List.forall_mem_cons.mpr ⟨⟨_, List.mem_cons_self, hb⟩, fun b hb => ?_⟩
      obtain ⟨a, ha, hab⟩ := ih b hb
      exact ⟨a, List.mem_cons_of_mem _ ha, hab⟩

theorem exists_of_mem_left {R : α → β → Prop} {l : List α} {r : List β} (h : List.Forall₂ R l r) :
    ∀ a ∈ l, ∃ b ∈ r, R a b := by
  induction h with
  | nil => exact fun a ha => absurd ha List.not_mem_nil
  | cons hb _ ih =>
      refine List.forall_mem_cons.mpr ⟨⟨_, List.mem_cons_self, hb⟩, fun a ha => ?_⟩
      obtain ⟨b, hb, hab⟩ := ih a ha
      exact ⟨b, List.mem_cons_of_mem _ hb, hab⟩

/-! ## Lists with the same images -/

section Images

variable {v : α → γ} {w : β → γ} {l : List α} {r : List β} {p : α → Bool} {q : β → Bool}

theorem forall₂_of_map (h : l.map v = r.map w) : List.Forall₂ (fun a b => v a = w b) l r := by
  have himages : List.Forall₂ Eq (l.map v) (r.map w) := by
    rw [List.forall₂_eq_eq_eq]
    exact h
  rwa [List.forall₂_map_left_iff, List.forall₂_map_right_iff] at himages

/-- Functions that agree on elements with one image. -/
theorem map_of_map {f : α → σ} {g : β → σ} (h : l.map v = r.map w)
    (hfg : ∀ a ∈ l, ∀ b ∈ r, v a = w b → f a = g b) : l.map f = r.map g := by
  induction forall₂_of_map h with
  | nil => rfl
  | @cons a b l r hab _ ih =>
    rw [List.map_cons, List.map_cons] at h
    rw [List.map_cons, List.map_cons, hfg a List.mem_cons_self b List.mem_cons_self hab,
      ih (List.cons.inj h).2 fun a' ha' b' hb' =>
        hfg a' (List.mem_cons_of_mem a ha') b' (List.mem_cons_of_mem b hb')]

/-- What a filter keeps is seen in the images. -/
theorem map_filter_of_map (h : l.map v = r.map w) (hpq : ∀ a b, v a = w b → p a = q b) :
    (l.filter p).map v = (r.filter q).map w := by
  induction forall₂_of_map h with
  | nil => rfl
  | @cons a b l r hab _ ih =>
    rw [List.map_cons, List.map_cons, hab] at h
    rw [List.filter_cons, List.filter_cons, hpq a b hab]
    split
    · rw [List.map_cons, List.map_cons, hab, ih (List.cons.inj h).2]
    · exact ih (List.cons.inj h).2

/-- So is what a search finds. -/
theorem map_find?_of_map (h : l.map v = r.map w) (hpq : ∀ a b, v a = w b → p a = q b) :
    (l.find? p).map v = (r.find? q).map w := by
  rw [← List.head?_filter, ← List.head?_filter, ← List.head?_map, ← List.head?_map, map_filter_of_map h hpq]

end Images

/-- Two lists one after the other are told apart where nothing is an image of both kinds. -/
theorem map_append_map_inj {f : α → γ} {g : β → γ} (hf : f.Injective) (hg : g.Injective)
    (hne : ∀ a b, f a ≠ g b)
    {l l' : List α} {r r' : List β} : l.map f ++ r.map g = l'.map f ++ r'.map g ↔ l = l' ∧ r = r' := by
  constructor
  · intro h
    induction l generalizing l' with
    | nil =>
      cases l' with
      | nil => exact ⟨rfl, hg.list_map h⟩
      | cons a l' =>
        cases r with
        | nil => cases h
        | cons b r => exact absurd (List.cons.inj h).1.symm (hne a b)
    | cons a l ih =>
      cases l' with
      | nil =>
        cases r' with
        | nil => cases h
        | cons b r' => exact absurd (List.cons.inj h).1 (hne a b)
      | cons a' l' =>
        obtain ⟨hhead, htail⟩ := List.cons.inj h
        obtain ⟨rfl, hr⟩ := ih htail
        rw [hf hhead]
        exact ⟨rfl, hr⟩
  · rintro ⟨rfl, rfl⟩
    rfl

/-! ## Outcomes -/

/-- What a check of the result says of a computation that succeeds. -/
theorem exists_ok_of_check {x : Except ε α} {check : α → Bool} {b : Bool}
    (h : x.toOption.map check = some b) : ∃ a, x = .ok a ∧ check a = b := by
  cases x with
  | error e => cases h
  | ok a => exact ⟨a, rfl, Option.some.inj h⟩

theorem exists_ok_of_isOk {x : Except ε α} (h : x.isOk = true) : ∃ a, x = .ok a := by
  cases x with
  | error e => cases h
  | ok a => exact ⟨a, rfl⟩

theorem map_eq_error {x : Except ε α} {f : α → β} {e : ε} : x.map f = .error e ↔ x = .error e := by
  cases x <;> simp [Except.map]

theorem map_eq_ok {x : Except ε α} {f : α → β} {b : β} : x.map f = .ok b ↔ ∃ a, x = .ok a ∧ f a = b := by
  cases x <;> simp [Except.map]

/-! ## Loops -/

theorem bind_eq_ok {x : Except ε α} {f : α → Except ε β} {b : β} :
    (x >>= f) = .ok b ↔ ∃ a, x = .ok a ∧ f a = .ok b := by
  cases x <;> simp [bind, Except.bind]

theorem bind_eq_error {x : Except ε α} {f : α → Except ε β} {e : ε} :
    (x >>= f) = .error e ↔ x = .error e ∨ ∃ a, x = .ok a ∧ f a = .error e := by
  cases x <;> simp [bind, Except.bind]

theorem mapM_cons_eq_ok {f : α → Except ε β} {a : α} {l : List α} {r : List β} :
    (a :: l).mapM f = .ok r ↔ ∃ b r', f a = .ok b ∧ l.mapM f = .ok r' ∧ r = b :: r' := by
  rw [List.mapM_cons, bind_eq_ok]
  constructor
  · rintro ⟨b, hb, hr⟩
    obtain ⟨r', hr', hpure⟩ := bind_eq_ok.mp hr
    exact ⟨b, r', hb, hr', (Except.ok.inj hpure).symm⟩
  · rintro ⟨b, r', hb, hr', rfl⟩
    exact ⟨b, hb, bind_eq_ok.mpr ⟨r', hr', rfl⟩⟩

/-- **The loop succeeds exactly when every iteration does**, and its result lists theirs. -/
theorem mapM_eq_ok_iff {f : α → Except ε β} {l : List α} {r : List β} :
    l.mapM f = .ok r ↔ List.Forall₂ (fun a b => f a = .ok b) l r := by
  induction l generalizing r with
  | nil =>
      constructor
      · intro h
        obtain rfl := Except.ok.inj h
        exact .nil
      · intro h
        cases h
        rfl
  | cons a l ih =>
      rw [mapM_cons_eq_ok]
      constructor
      · rintro ⟨b, r', hb, hr', rfl⟩
        exact .cons hb (ih.mp hr')
      · intro h
        cases h with
        | cons hb hr' => exact ⟨_, _, hb, ih.mpr hr', rfl⟩

/-- The error of a loop is that of an iteration. -/
theorem exists_of_mapM_eq_error {f : α → Except ε β} {l : List α} {e : ε} (h : l.mapM f = .error e) :
    ∃ a ∈ l, f a = .error e := by
  induction l with
  | nil => cases h
  | cons a l ih =>
      rw [List.mapM_cons] at h
      rcases bind_eq_error.mp h with ha | ⟨b, -, h⟩
      · exact ⟨a, List.mem_cons_self, ha⟩
      · rcases bind_eq_error.mp h with hl | ⟨r, -, hpure⟩
        · obtain ⟨a', ha', he⟩ := ih hl
          exact ⟨a', List.mem_cons_of_mem a ha', he⟩
        · cases hpure

/-- What an iteration keeps of its element, the loop keeps of the list. -/
theorem map_of_mapM {f : α → Except ε β} {g : β → γ} {k : α → γ} (hf : ∀ a b, f a = .ok b → g b = k a)
    {l : List α} {r : List β} (h : l.mapM f = .ok r) : r.map g = l.map k :=
  map_of_forall₂ hf (mapM_eq_ok_iff.mp h)

/-- Every result is that of an element. -/
theorem exists_of_mem_mapM {f : α → Except ε β} {l : List α} {r : List β} (h : l.mapM f = .ok r) :
    ∀ b ∈ r, ∃ a ∈ l, f a = .ok b :=
  exists_of_mem_right (mapM_eq_ok_iff.mp h)

/-- In `Option`: element by element. -/
theorem forall₂_of_mapM_eq_some {f : α → Option β} {l : List α} {r : List β} (h : l.mapM f = some r) :
    List.Forall₂ (fun a b => f a = some b) l r := by
  induction l generalizing r with
  | nil =>
    obtain rfl := Option.some.inj h
    exact .nil
  | cons a l ih =>
    rw [List.mapM_cons] at h
    obtain ⟨b, hb, h⟩ := Option.bind_eq_some_iff.mp h
    obtain ⟨r', hr', h⟩ := Option.bind_eq_some_iff.mp h
    obtain rfl := Option.some.inj h
    exact .cons hb (ih hr')

/-- In `Option`: a loop that succeeds has the results of its iterations. -/
theorem map_of_mapM_eq_some {f : α → Option β} {l : List α} {r : List β} (h : l.mapM f = some r) :
    l.map f = r.map some :=
  (map_of_forall₂ (fun _ _ hb => hb.symm) (forall₂_of_mapM_eq_some h)).symm

/-- In `Option`: every result is that of an element. -/
theorem exists_of_mapM_eq_some {f : α → Option β} {l : List α} {r : List β} (h : l.mapM f = some r) :
    ∀ b ∈ r, ∃ a ∈ l, f a = some b := by
  induction l generalizing r with
  | nil =>
      obtain rfl := Option.some.inj h
      exact fun b hb => absurd hb List.not_mem_nil
  | cons a l ih =>
      rw [List.mapM_cons] at h
      obtain ⟨c, hc, h⟩ := Option.bind_eq_some_iff.mp h
      obtain ⟨r', hr', h⟩ := Option.bind_eq_some_iff.mp h
      obtain rfl := Option.some.inj h
      refine List.forall_mem_cons.mpr ⟨⟨a, List.mem_cons_self, hc⟩, fun b hb => ?_⟩
      obtain ⟨a', ha', hb'⟩ := ih hr' b hb
      exact ⟨a', List.mem_cons_of_mem a ha', hb'⟩

/-- A loop whose iterations see the images of their elements only. -/
theorem mapM_of_map {v : α → γ} {w : β → γ} {f : α → Except ε σ} {g : β → Except ε σ}
    {l : List α} {r : List β}
    (h : l.map v = r.map w) (hfg : ∀ a b, v a = w b → f a = g b) : l.mapM f = r.mapM g := by
  induction forall₂_of_map h with
  | nil => rfl
  | @cons a b l r hab _ ih =>
    rw [List.map_cons, List.map_cons] at h
    rw [List.mapM_cons, List.mapM_cons, hfg a b hab, ih (List.cons.inj h).2]

/-- **Reordering the elements reorders the results.** -/
theorem mapM_perm {f : α → Except ε β} {l l' : List α} (hperm : l.Perm l') {r : List β}
    (h : l.mapM f = .ok r) : ∃ r', l'.mapM f = .ok r' ∧ r.Perm r' := by
  induction hperm generalizing r with
  | nil => exact ⟨r, h, .refl r⟩
  | cons a _ ih =>
      obtain ⟨b, r₁, hb, hr₁, rfl⟩ := mapM_cons_eq_ok.mp h
      obtain ⟨r₂, hr₂, hp⟩ := ih hr₁
      exact ⟨b :: r₂, mapM_cons_eq_ok.mpr ⟨b, r₂, hb, hr₂, rfl⟩, hp.cons b⟩
  | swap a a' l =>
      obtain ⟨b', r₁, hb', hr₁, rfl⟩ := mapM_cons_eq_ok.mp h
      obtain ⟨b, r₂, hb, hr₂, rfl⟩ := mapM_cons_eq_ok.mp hr₁
      exact ⟨b :: b' :: r₂,
        mapM_cons_eq_ok.mpr ⟨b, b' :: r₂, hb, mapM_cons_eq_ok.mpr ⟨b', r₂, hb', hr₂, rfl⟩, rfl⟩,
          .swap b b' r₂⟩
  | trans _ _ ih₁ ih₂ =>
      obtain ⟨r₁, hr₁, hp₁⟩ := ih₁ h
      obtain ⟨r₂, hr₂, hp₂⟩ := ih₂ hr₁
      exact ⟨r₂, hr₂, hp₁.trans hp₂⟩

/-- A search that at most one element answers finds it in every order. -/
theorem find?_perm {p : α → Bool} {l l' : List α} (hperm : l.Perm l')
    (hunique : ∀ a ∈ l, ∀ b ∈ l, p a = true → p b = true → a = b) : l.find? p = l'.find? p := by
  cases h : l.find? p with
  | none =>
      refine (List.find?_eq_none.mpr fun a ha => ?_).symm
      exact List.find?_eq_none.mp h a (hperm.mem_iff.mpr ha)
  | some a =>
      have ha := List.mem_of_find?_eq_some h
      cases h' : l'.find? p with
      | none => exact absurd (List.find?_some h) (List.find?_eq_none.mp h' a (hperm.mem_iff.mp ha))
      | some b =>
          have hb := hperm.mem_iff.mpr (List.mem_of_find?_eq_some h')
          rw [hunique a ha b hb (List.find?_some h) (List.find?_some h')]

end Traverse
