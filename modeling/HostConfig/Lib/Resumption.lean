import HostConfig.Lib.StateRuns

/-!
# `Lib.Resumption` — programs that are run again after an interruption

A `Script` is a program as the tree of its calls: the next call, and for each reply what follows. What a
call does to a state is a parameter (`step`), and a script is run with it (`run`). `Makes` is that a run
makes a call in a state. The calls of a run that returns have all returned, and what a run raises one of its
calls has raised; those of a composed script, and of a loop, are the calls of its parts.

A run can be interrupted between any two of its calls, and leaves the state of that moment (`Stops`). A
second run begins there, and makes the same calls again. Until it has made those the first run had made, it
is behind: what it asks for is there, from a call the first run has made already. `resumed` is the rule for
that. A client says what it is to be behind a state on the way to another one, and that a call that led on
from there still does (`Catches`); where the two states are one, being behind is no difference any more
(`Agrees`).
-/

/-- A program in calls `C` with replies `R`. What it raises, its calls raise. -/
inductive Script (C : Type) (R : C → Type) (α : Type)
  | ret (a : α)
  | call (c : C) (k : R c → Script C R α)

namespace Script

open StateRuns Relation

variable {C : Type} {R : C → Type} {ε α β σ : Type}

def bind : Script C R α → (α → Script C R β) → Script C R β
  | .ret a,    f => f a
  | .call c k, f => .call c fun r => (k r).bind f

instance : Monad (Script C R) where
  pure := .ret
  bind := bind

/-- The calls, made one after the other. -/
def run (step : (c : C) → Program σ ε (R c)) : Script C R α → Program σ ε α
  | .ret a    => pure a
  | .call c k => step c >>= fun r => (k r).run step

/-! ## Runs -/

section Run

variable {step : (c : C) → Program σ ε (R c)}

@[simp] theorem run_pure (a : α) : (pure a : Script C R α).run step = pure a := rfl

/-- A call that is answered goes on with the answer, -/
theorem run_call_of_ok {c : C} {k : R c → Script C R α} {s u : σ} {r : R c} (h : step c s = .ok (r, u)) :
    (Script.call c k).run step s = (k r).run step u := by
  show (step c s >>= fun p => (k p.1).run step p.2) = _
  rw [h]
  rfl

/-- and one that fails ends the run. -/
theorem run_call_of_error {c : C} {k : R c → Script C R α} {s : σ} {e : ε} (h : step c s = .error e) :
    (Script.call c k).run step s = .error e := bind_eq_error.mpr (.inl h)

/-- The run of a sequence is the sequence of the runs, -/
@[simp] theorem run_bind (x : Script C R α) (f : α → Script C R β) :
    (x >>= f).run step = x.run step >>= fun a => (f a).run step := by
  show (x.bind f).run step = _
  induction x with
  | ret a => rfl
  | call c k ih =>
    show (step c >>= fun r => ((k r).bind f).run step) = (step c >>= fun r => (k r).run step) >>= _
    rw [bind_assoc]
    exact congrArg (step c >>= ·) (funext ih)

/-- and the run of a loop the loop of the runs. -/
theorem run_foldlM (f : β → α → Script C R β) (l : List α) (b : β) :
    (l.foldlM f b).run step = l.foldlM (fun b a => (f b a).run step) b := by
  induction l generalizing b with
  | nil => rfl
  | cons a l ih =>
    rw [List.foldlM_cons, List.foldlM_cons, run_bind]
    exact congrArg ((f b a).run step >>= ·) (funext ih)

end Run

/-! ## The calls of a run -/

section Makes

variable (step : (c : C) → Program σ ε (R c))

/-- The run of the script from the first state makes the call in the second one. -/
inductive Makes : Script C R α → σ → C → σ → Prop
  | here (c : C) (k : R c → Script C R α) (s : σ) : Makes (.call c k) s c s
  | after {c d : C} {k : R c → Script C R α} {s u v : σ} {r : R c} (hstep : step c s = .ok (r, u))
      (hrest : Makes (k r) u d v) : Makes (.call c k) s d v

/-- Some calls lead from state to state. -/
def Reaches : σ → σ → Prop := ReflTransGen fun s u => ∃ c r, step c s = .ok (r, u)

variable {step} {s u v : σ} {c d : C} {a : α} {e : ε}

/-- A run that returns has got where it ends. -/
theorem reaches_of_run {x : Script C R α} (h : x.run step s = .ok (a, v)) : Reaches step s v := by
  induction x generalizing s with
  | ret b =>
    obtain ⟨-, rfl⟩ := pure_eq_ok.mp h
    exact .refl
  | call c k ih =>
    obtain ⟨r, u, hstep, hrest⟩ := bind_eq_ok.mp h
    exact .head ⟨c, r, hstep⟩ (ih r hrest)

/-- The calls of a script are its first one and those after the answer. -/
theorem makes_call_iff {k : R c → Script C R α} : Makes step (.call c k) s d v ↔
    (c = d ∧ s = v) ∨ ∃ r u, step c s = .ok (r, u) ∧ Makes step (k r) u d v := by
  constructor
  · intro h
    cases h with
    | here => exact .inl ⟨rfl, rfl⟩
    | after hstep hrest => exact .inr ⟨_, _, hstep, hrest⟩
  · rintro (⟨rfl, rfl⟩ | ⟨r, u, hstep, hrest⟩)
    · exact .here c k s
    · exact .after hstep hrest

/-- A script that is at its end calls nothing. -/
theorem not_makes_pure {c : C} : ¬ Makes step (pure a : Script C R α) s c u := by
  intro h
  cases h

/-- The calls of a program made of two are those of the first, and those of the second
    after it has returned. -/
theorem makes_bind_iff {x : Script C R α} {f : α → Script C R β} : Makes step (x >>= f) s d v ↔
    Makes step x s d v ∨ ∃ a u, x.run step s = .ok (a, u) ∧ Makes step (f a) u d v := by
  induction x generalizing s with
  | ret a =>
    show Makes step (f a) s d v ↔ _
    constructor
    · intro h
      exact .inr ⟨a, s, rfl, h⟩
    · rintro (h | ⟨a', u, hrun, h⟩)
      · cases h
      · obtain ⟨rfl, rfl⟩ := pure_eq_ok.mp hrun
        exact h
  | call c k ih =>
    show Makes step (.call c fun r => k r >>= f) s d v ↔ _
    simp only [makes_call_iff, ih]
    constructor
    · rintro (h | ⟨r, u, hstep, h | ⟨a, w, hrun, h⟩⟩)
      · exact .inl (.inl h)
      · exact .inl (.inr ⟨r, u, hstep, h⟩)
      · exact .inr ⟨a, w, (run_call_of_ok hstep).trans hrun, h⟩
    · rintro ((h | ⟨r, u, hstep, h⟩) | ⟨a, w, hrun, h⟩)
      · exact .inl h
      · exact .inr ⟨r, u, hstep, .inl h⟩
      · obtain ⟨r, u, hstep, hrest⟩ := bind_eq_ok.mp hrun
        exact .inr ⟨r, u, hstep, .inr ⟨a, w, hrest, h⟩⟩

/-- **What a run raises, a call of it has raised.** -/
theorem makes_of_run_error {x : Script C R α} (h : x.run step s = .error e) :
    ∃ c u, Makes step x s c u ∧ step c u = .error e := by
  induction x generalizing s with
  | ret a => cases h
  | call c k ih =>
    rcases bind_eq_error.mp h with hc | ⟨r, u, hstep, hrest⟩
    · exact ⟨c, s, .here c k s, hc⟩
    · obtain ⟨d, v, hmakes, herror⟩ := ih r hrest
      exact ⟨d, v, .after hstep hmakes, herror⟩

/-- A call that fails where it is made is where the run raises. -/
theorem Makes.raises {x : Script C R α} (h : Makes step x s c u) (herror : step c u = .error e) :
    x.run step s = .error e := by
  induction h with
  | here => exact run_call_of_error herror
  | after hstep _ ih =>
    rw [run_call_of_ok hstep]
    exact ih herror

/-- No call of a run that returns has raised. -/
theorem Makes.returns {x : Script C R α} (h : Makes step x s c u) (hrun : x.run step s = .ok (a, v)) :
    ∃ r w, step c u = .ok (r, w) ∧ Reaches step w v := by
  induction h with
  | here c k s =>
    obtain ⟨r, w, hstep, hrest⟩ := bind_eq_ok.mp hrun
    exact ⟨r, w, hstep, reaches_of_run hrest⟩
  | after hstep _ ih =>
    rw [run_call_of_ok hstep] at hrun
    exact ih hrun

/-- A run gets to each of its calls. -/
theorem Makes.reaches {x : Script C R α} (h : Makes step x s c u) : Reaches step s u := by
  induction h with
  | here => exact .refl
  | after hstep _ ih => exact .head ⟨_, _, hstep⟩ ih

section Loop

variable {f : β → α → Script C R β} {I : β → σ → Prop} {l : List α} {b : β}
  (hkeeps : ∀ b, ∀ a ∈ l, ∀ s b' u, I b s → (f b a).run step s = .ok (b', u) → I b' u) (hb : I b s)

include hkeeps hb

/-- A call of a loop with the invariant `I` is one of an iteration. -/
theorem Makes.iteration (h : Makes step (l.foldlM f b) s d v) :
    ∃ a ∈ l, ∃ b u, I b u ∧ Makes step (f b a) u d v := by
  induction l generalizing b s with
  | nil => exact absurd h not_makes_pure
  | cons a l ih =>
    rw [List.foldlM_cons, makes_bind_iff] at h
    rcases h with h | ⟨b', u, hrun, h⟩
    · exact ⟨a, List.mem_cons_self, b, s, hb, h⟩
    · obtain ⟨a', ha', hmakes⟩ := ih (fun b a ha => hkeeps b a (List.mem_cons_of_mem _ ha))
        (hkeeps b a List.mem_cons_self s b' u hb hrun) h
      exact ⟨a', List.mem_cons_of_mem _ ha', hmakes⟩

/-- A loop that returns has an iteration for each element, and makes the calls of this iteration. -/
theorem iteration_of_run {b' : β} {w : σ} (hrun : (l.foldlM f b).run step s = .ok (b', w))
    {a : α} (ha : a ∈ l) : ∃ b₁ u b₂ u', I b₁ u ∧ (f b₁ a).run step u = .ok (b₂, u') ∧
      ∀ d v, Makes step (f b₁ a) u d v → Makes step (l.foldlM f b) s d v := by
  induction l generalizing b s with
  | nil => cases ha
  | cons a' l ih =>
    rw [List.foldlM_cons, run_bind] at hrun
    obtain ⟨b₂, u', hfirst, hrest⟩ := bind_eq_ok.mp hrun
    rw [List.foldlM_cons]
    rcases List.mem_cons.mp ha with rfl | ha
    · exact ⟨b, s, b₂, u', hb, hfirst, fun d v h => makes_bind_iff.mpr (.inl h)⟩
    · obtain ⟨b₃, u₃, b₄, u₄, hI, hit, hmakes⟩ := ih (fun b a ha => hkeeps b a (List.mem_cons_of_mem _ ha))
        (hkeeps b a' List.mem_cons_self s b₂ u' hb hfirst) hrest ha
      exact ⟨b₃, u₃, b₄, u₄, hI, hit, fun d v h => makes_bind_iff.mpr (.inr ⟨b₂, u', hfirst, hmakes d v h⟩)⟩

end Loop

end Makes

/-! ## Interruptions -/

section Stops

variable (step : (c : C) → Program σ ε (R c))

/-- A run from the first state is interrupted in the second one. -/
inductive Stops : Script C R α → σ → σ → Prop
  | here (x : Script C R α) (s : σ) : Stops x s s
  | after {c : C} {k : R c → Script C R α} {s u v : σ} {r : R c} (hstep : step c s = .ok (r, u))
      (hrest : Stops (k r) u v) : Stops (.call c k) s v

variable {step}

/-- A run gets to where it is stopped. -/
theorem Stops.reaches {x : Script C R α} {s v : σ} (h : Stops step x s v) : Reaches step s v := by
  induction h with
  | here => exact .refl
  | after hstep _ ih => exact .head ⟨_, _, hstep⟩ ih

/-- The state of a run interrupted after so many calls. -/
def upTo (step : (c : C) → Program σ ε (R c)) : Nat → Script C R α → σ → σ
  | n + 1, .call c k, s => match step c s with
      | .ok (r, u) => (k r).upTo step n u
      | .error _   => s
  | _, _, s             => s

/-- Stopped after some number of calls, a run is stopped. -/
theorem stops_upTo (n : Nat) (x : Script C R α) (s : σ) : Stops step x s (x.upTo step n s) := by
  induction n generalizing x s with
  | zero =>
    cases x <;> exact .here _ s
  | succ n ih =>
    cases x with
    | ret => exact .here _ s
    | call c k =>
      unfold upTo
      split
      · rename_i r u hstep
        exact .after hstep (ih (k r) u)
      · exact .here _ s

end Stops

/-! ## The second run -/

/-- Both raise the same, or return the same and end in related states. -/
def Agree (S : σ → σ → Prop) : Except ε (α × σ) → Except ε (α × σ) → Prop
  | .ok (a, s),  .ok (b, t)  => a = b ∧ S s t
  | .error e,    .error e'   => e = e'
  | _,           _           => False

/-- The call does the same in related states. -/
def Agrees (step step' : (c : C) → Program σ ε (R c)) (S : σ → σ → Prop) : Prop :=
  ∀ c s t, S s t → Agree S (step c s) (step' c t)

/-- Behind `s`, on the way to `m`, the call that leads on from `s` leads on too. -/
def Catches (step step' : (c : C) → Program σ ε (R c)) (Behind : σ → σ → σ → Prop) : Prop :=
  ∀ {c s u r m t}, step c s = .ok (r, u) → Reaches step u m → Behind s m t →
    ∃ v, step' c t = .ok (r, v) ∧ Behind u m v

section Rules

variable {step step' : (c : C) → Program σ ε (R c)} {S : σ → σ → Prop} {Behind : σ → σ → σ → Prop}

/-- Agreement, outcome by outcome. -/
theorem agree_iff {x y : Except ε (α × σ)} : Agree S x y ↔
    (∃ e, x = .error e ∧ y = .error e) ∨ ∃ a s t, x = .ok (a, s) ∧ y = .ok (a, t) ∧ S s t := by
  cases x with
  | error e => cases y <;> simp [Agree, eq_comm]
  | ok p =>
    obtain ⟨a, s⟩ := p
    cases y with
    | error e => simp [Agree]
    | ok q =>
      obtain ⟨b, t⟩ := q
      simp [Agree, eq_comm]

/-- Runs from related states agree. -/
theorem agree_run (hagrees : Agrees step step' S) (x : Script C R α) {s t : σ} (h : S s t) :
    Agree S (x.run step s) (x.run step' t) := by
  induction x generalizing s t with
  | ret a => exact ⟨rfl, h⟩
  | call c k ih =>
    rcases agree_iff.mp (hagrees c s t h) with ⟨e, hs, ht⟩ | ⟨r, u, v, hs, ht, huv⟩
    · rw [run_call_of_error hs, run_call_of_error ht]
      exact rfl
    · rw [run_call_of_ok hs, run_call_of_ok ht]
      exact ih r huv

/-- **A run that was interrupted and is begun again ends as it would have without.** -/
theorem resumed (hcatches : Catches step step' Behind) (hagrees : Agrees step step' fun s t => Behind s s t)
    {x : Script C R α} {s m t : σ} (hstops : Stops step x s m) (hbehind : Behind s m t) :
    Agree (fun s t => Behind s s t) (x.run step s) (x.run step' t) := by
  -- as long as calls were made before the interruption, the second run catches up
  induction hstops generalizing t with
  | here x s => exact agree_run hagrees x hbehind
  | after hstep hrest ih =>
    obtain ⟨v, hstep', hv⟩ := hcatches hstep hrest.reaches hbehind
    rw [run_call_of_ok hstep, run_call_of_ok hstep']
    exact ih hv

end Rules

end Script
