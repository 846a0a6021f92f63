import Mathlib.Logic.Relation
import HostConfig.Lib.Traverse

/-!
# `Lib.StateRuns` — programs that change a state and can raise

A program is a `StateT σ (Except ε)`. Its runs that return are taken apart with `bind_eq_ok` and
`pure_eq_ok`.

`Yields` is partial correctness over states that are ordered by what can be reached from what: a run that
returns goes along the order and ends with the postcondition. What held before and is kept along the order
needs no mention in a precondition: it is carried to the state after by whoever uses the rule for `bind`.
`Goes` is the same from every state and without a postcondition. `Meets` says of runs that raise, too, what
they raise. `Stays` is total correctness of runs that do not leave a set of states. `Returns` is that a run
does not raise; what is known of the state after the first of two programs comes from the run itself, so a
rule of the others applies to it.
-/

namespace StateRuns

variable {σ ε α β : Type}

abbrev Program (σ ε α : Type) := StateT σ (Except ε) α

/-- A sequence returns exactly if both of its parts do. -/
theorem bind_eq_ok {x : Program σ ε α} {f : α → Program σ ε β} {s t : σ} {b : β} :
    (x >>= f) s = .ok (b, t) ↔ ∃ a u, x s = .ok (a, u) ∧ f a u = .ok (b, t) := by
  show (x s >>= fun p => f p.1 p.2) = _ ↔ _
  rw [Traverse.bind_eq_ok]
  exact Prod.exists

theorem pure_eq_ok {a b : α} {s t : σ} : (pure a : Program σ ε α) s = .ok (b, t) ↔ a = b ∧ s = t := by
  show (Except.ok (a, s) : Except ε (α × σ)) = _ ↔ _
  simp

/-! ## Runs along an order -/

/-- Every run from `s` that returns goes along `R` and ends with `Q`. -/
def Yields (R : σ → σ → Prop) (s : σ) (x : Program σ ε α) (Q : α → σ → Prop) : Prop :=
  ∀ a t, x s = .ok (a, t) → R s t ∧ Q a t

namespace Yields

variable {R : σ → σ → Prop} {s : σ}

/-- A weaker result is yielded by the same run. -/
theorem mono {x : Program σ ε α} {P Q : α → σ → Prop} (hx : Yields R s x P)
    (h : ∀ a t, R s t → P a t → Q a t) : Yields R s x Q := by
  intro a t hrun
  obtain ⟨hst, hP⟩ := hx a t hrun
  exact ⟨hst, h a t hst hP⟩

variable [IsPreorder σ R]

theorem pure {Q : α → σ → Prop} {a : α} (h : Q a s) : Yields R s (Pure.pure a : Program σ ε α) Q := by
  intro b t hrun
  obtain ⟨rfl, rfl⟩ := pure_eq_ok.mp hrun
  exact ⟨refl_of R s, h⟩

/-- **The rule of a sequence**: what the first part yields is what the second goes on from. -/
theorem bind {x : Program σ ε α} {f : α → Program σ ε β} {P : α → σ → Prop} {Q : β → σ → Prop}
    (hx : Yields R s x P) (hf : ∀ a u, R s u → P a u → Yields R u (f a) Q) : Yields R s (x >>= f) Q := by
  intro b t hrun
  obtain ⟨a, u, hxa, hfb⟩ := bind_eq_ok.mp hrun
  obtain ⟨hsu, hP⟩ := hx a u hxa
  obtain ⟨hut, hQ⟩ := hf a u hsu hP b t hfb
  exact ⟨trans_of R hsu hut, hQ⟩

/-- A loop: `I` is the invariant of the accumulator, `P` what an iteration leaves behind for its element,
    which the iterations after it keep. -/
theorem foldlM {f : β → α → Program σ ε β} {l : List α} {I : β → σ → Prop} {P : α → σ → Prop} {b : β}
    (hkeep : ∀ a ∈ l, ∀ u t, R u t → P a u → P a t)
    (hstep : ∀ b, ∀ a ∈ l, ∀ u, R s u → I b u → Yields R u (f b a) fun b' t => I b' t ∧ P a t) (h : I b s) :
    Yields R s (l.foldlM f b) fun b' t => I b' t ∧ ∀ a ∈ l, P a t := by
  induction l generalizing b s with
  | nil => exact pure ⟨h, List.forall_mem_nil _⟩
  | cons a l ih =>
    rw [List.foldlM_cons]
    refine bind (hstep b a List.mem_cons_self s (refl_of R s) h) ?_
    rintro b' u hsu ⟨hI, hP⟩
    have hrest := ih (s := u) (b := b') (fun a' ha' => hkeep a' (List.mem_cons_of_mem _ ha'))
      (fun b a' ha' u' huu' => hstep b a' (List.mem_cons_of_mem _ ha') u' (trans_of R hsu huu')) hI
    refine hrest.mono ?_
    rintro b'' t hut ⟨hI', hP'⟩
    exact ⟨hI', List.forall_mem_cons.mpr ⟨hkeep a List.mem_cons_self u t hut hP, hP'⟩⟩

end Yields

/-! ## Programs that go along an order -/

/-- Every run that returns goes along `R`, wherever it begins. -/
def Goes (R : σ → σ → Prop) (x : Program σ ε α) : Prop := ∀ s a t, x s = .ok (a, t) → R s t

namespace Goes

variable {R : σ → σ → Prop} [IsPreorder σ R]

theorem pure (a : α) : Goes R (Pure.pure a : Program σ ε α) := by
  intro s b t hrun
  obtain ⟨-, rfl⟩ := pure_eq_ok.mp hrun
  exact refl_of R s

theorem bind {x : Program σ ε α} {f : α → Program σ ε β} (hx : Goes R x) (hf : ∀ a, Goes R (f a)) :
    Goes R (x >>= f) := by
  intro s b t hrun
  obtain ⟨a, u, hxa, hfb⟩ := bind_eq_ok.mp hrun
  exact trans_of R (hx s a u hxa) (hf a u b t hfb)

/-- A loop goes where each of its rounds does. -/
theorem foldlM {f : β → α → Program σ ε β} (h : ∀ b a, Goes R (f b a)) (l : List α) (b : β) :
    Goes R (l.foldlM f b) := by
  induction l generalizing b with
  | nil => exact pure b
  | cons a l ih =>
    rw [List.foldlM_cons]
    refine bind (h b a) ?_
    intro b'
    exact ih b'

end Goes

/-! ## Runs that raise what they may -/

/-- A sequence raises if its first part does, or its second from where the first has left. -/
theorem bind_eq_error {x : Program σ ε α} {f : α → Program σ ε β} {s : σ} {e : ε} :
    (x >>= f) s = .error e ↔ x s = .error e ∨ ∃ a u, x s = .ok (a, u) ∧ f a u = .error e := by
  show (x s >>= fun p => f p.1 p.2) = _ ↔ _
  rw [Traverse.bind_eq_error]
  exact or_congr Iff.rfl Prod.exists

/-- The run from `s` ends with `Q` if it returns, and raises an `E` if it raises. -/
structure Meets (s : σ) (x : Program σ ε α) (Q : α → σ → Prop) (E : ε → Prop) : Prop where
  returns : ∀ a t, x s = .ok (a, t) → Q a t
  raises : ∀ e, x s = .error e → E e

namespace Meets

variable {s : σ} {E : ε → Prop}

theorem mono {x : Program σ ε α} {P Q : α → σ → Prop} (hx : Meets s x P E) (h : ∀ a t, P a t → Q a t) :
    Meets s x Q E := ⟨fun a t hrun => h a t (hx.returns a t hrun), hx.raises⟩

theorem pure {Q : α → σ → Prop} {a : α} (h : Q a s) : Meets s (Pure.pure a : Program σ ε α) Q E := by
  constructor
  · intro b t hrun
    obtain ⟨rfl, rfl⟩ := pure_eq_ok.mp hrun
    exact h
  · intro e hrun
    cases hrun

theorem bind {x : Program σ ε α} {f : α → Program σ ε β} {P : α → σ → Prop} {Q : β → σ → Prop}
    (hx : Meets s x P E) (hf : ∀ a u, P a u → Meets u (f a) Q E) : Meets s (x >>= f) Q E := by
  constructor
  · intro b t hrun
    obtain ⟨a, u, hxa, hfb⟩ := bind_eq_ok.mp hrun
    exact (hf a u (hx.returns a u hxa)).returns b t hfb
  · intro e hrun
    rcases bind_eq_error.mp hrun with hxe | ⟨a, u, hxa, hfe⟩
    · exact hx.raises e hxe
    · exact (hf a u (hx.returns a u hxa)).raises e hfe

/-- A loop: the invariant is about the elements that are left, too. -/
theorem foldlM {f : β → α → Program σ ε β} {I : List α → β → σ → Prop}
    (hstep : ∀ a l b u, I (a :: l) b u → Meets u (f b a) (I l) E) {l : List α} {b : β} (h : I l b s) :
    Meets s (l.foldlM f b) (I []) E := by
  induction l generalizing b s with
  | nil => exact pure h
  | cons a l ih =>
    rw [List.foldlM_cons]
    exact bind (hstep a l b s h) fun b' u hI => ih hI

end Meets

/-! ## Runs that stay where they are -/

/-- From every state of `S` the program returns `a`, in a state of `S`. -/
def Stays (S : σ → Prop) (x : Program σ ε α) (a : α) : Prop := ∀ s, S s → ∃ t, x s = .ok (a, t) ∧ S t

namespace Stays

variable {S : σ → Prop}

theorem pure (a : α) : Stays S (Pure.pure a : Program σ ε α) a := fun s hs => ⟨s, rfl, hs⟩

theorem bind {x : Program σ ε α} {f : α → Program σ ε β} {a : α} {b : β} (hx : Stays S x a)
    (hf : Stays S (f a) b) : Stays S (x >>= f) b := by
  intro s hs
  obtain ⟨u, hxa, hu⟩ := hx s hs
  obtain ⟨t, hfb, ht⟩ := hf u hu
  exact ⟨t, bind_eq_ok.mpr ⟨a, u, hxa, hfb⟩, ht⟩

/-- A loop whose iterations return what `g` computes. -/
theorem foldlM {f : β → α → Program σ ε β} {g : β → α → β} {l : List α}
    (h : ∀ b, ∀ a ∈ l, Stays S (f b a) (g b a)) (b : β) : Stays S (l.foldlM f b) (l.foldl g b) := by
  induction l generalizing b with
  | nil => exact pure b
  | cons a l ih =>
    rw [List.foldlM_cons]
    exact (h b a List.mem_cons_self).bind (ih (fun b a' ha' => h b a' (List.mem_cons_of_mem _ ha')) _)

/-- A loop whose iterations return the accumulator they are given. -/
theorem foldlM_fixed {f : β → α → Program σ ε β} {l : List α} {b : β} (h : ∀ a ∈ l, Stays S (f b a) b) :
    Stays S (l.foldlM f b) b := by
  induction l with
  | nil => exact pure b
  | cons a l ih =>
    rw [List.foldlM_cons]
    exact (h a List.mem_cons_self).bind (ih fun a' ha' => h a' (List.mem_cons_of_mem _ ha'))

end Stays

/-! ## Runs that return -/

/-- The run from `s` returns, and ends with `Q`. -/
def Returns (s : σ) (x : Program σ ε α) (Q : α → σ → Prop) : Prop := ∃ a t, x s = .ok (a, t) ∧ Q a t

namespace Returns

variable {s : σ} {Q : α → σ → Prop}

theorem pure {a : α} (h : Q a s) : Returns s (Pure.pure a : Program σ ε α) Q := ⟨a, s, rfl, h⟩

/-- The postcondition can be read off the run. -/
theorem mono {x : Program σ ε α} {P : α → σ → Prop} (hx : Returns s x P)
    (h : ∀ a t, x s = .ok (a, t) → P a t → Q a t) : Returns s x Q := by
  obtain ⟨a, t, hrun, hP⟩ := hx
  exact ⟨a, t, hrun, h a t hrun hP⟩

theorem bind {x : Program σ ε β} {f : β → Program σ ε α} {P : β → σ → Prop} (hx : Returns s x P)
    (hf : ∀ b u, x s = .ok (b, u) → P b u → Returns u (f b) Q) : Returns s (x >>= f) Q := by
  obtain ⟨b, u, hrun, hP⟩ := hx
  obtain ⟨a, t, hrest, hQ⟩ := hf b u hrun hP
  exact ⟨a, t, bind_eq_ok.mpr ⟨b, u, hrun, hrest⟩, hQ⟩

/-- A loop. -/
theorem foldlM {f : β → α → Program σ ε β} {l : List α} {I : β → σ → Prop} {b : β}
    (hstep : ∀ b, ∀ a ∈ l, ∀ u, I b u → Returns u (f b a) I) (h : I b s) : Returns s (l.foldlM f b) I := by
  induction l generalizing b s with
  | nil => exact pure h
  | cons a l ih =>
    rw [List.foldlM_cons]
    refine bind (hstep b a List.mem_cons_self s h) ?_
    intro b' u _ hI
    exact ih (fun b a' ha' => hstep b a' (List.mem_cons_of_mem a ha')) hI

end Returns

end StateRuns
