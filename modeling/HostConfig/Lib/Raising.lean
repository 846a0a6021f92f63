/-!
# `Lib.Raising` — programs whose changes outlive what they raise

A program runs from a state and leaves a state, whether it returns or raises; a handler goes on from the
state the exception left. `Ends` is the specification of a run with a postcondition for each of the two
ends, and the rules take a program apart: a handler is proved from what its body guarantees when it raises
(`Ends.tryCatch`).
-/

namespace Raising

variable {σ ε α β : Type}

def Program (σ ε α : Type) : Type := σ → Except ε α × σ

namespace Program

instance : Monad (Program σ ε) where
  pure a := fun s => (.ok a, s)
  bind x f := fun s =>
    match x s with
    | (.ok a, t)    => f a t
    | (.error e, t) => (.error e, t)

instance : MonadExceptOf ε (Program σ ε) where
  throw e := fun s => (.error e, s)
  tryCatch x handler := fun s =>
    match x s with
    | (.ok a, t)    => (.ok a, t)
    | (.error e, t) => handler e t

def run (x : Program σ ε α) (s : σ) : Except ε α × σ := x s

/-- An action that changes the state, or raises and leaves it. -/
def attempt (e : ε) (f : σ → Option σ) : Program σ ε Unit := fun s =>
  match f s with
  | some t => (.ok (), t)
  | none   => (.error e, s)

/-- A value read off the state, or an exception. -/
def ask (f : σ → Except ε α) : Program σ ε α := fun s => (f s, s)

/-- An action that cannot raise. -/
def modify (f : σ → σ) : Program σ ε Unit := fun s => (.ok (), f s)

variable {s t : σ} {x : Program σ ε α} {f : α → Program σ ε β}

@[simp] theorem run_pure (a : α) (s : σ) : run (pure a : Program σ ε α) s = (.ok a, s) := rfl

@[simp] theorem run_throw (e : ε) (s : σ) : run (throw e : Program σ ε α) s = (.error e, s) := rfl

@[simp] theorem run_ask (f : σ → Except ε α) (s : σ) : run (ask f) s = (f s, s) := rfl

@[simp] theorem run_modify (f : σ → σ) (s : σ) : run (modify f : Program σ ε Unit) s = (.ok (), f s) := rfl

/-- An attempt that succeeds leaves the state it makes; -/
theorem run_attempt_some {e : ε} {f : σ → Option σ} (h : f s = some t) :
    run (attempt e f) s = (.ok (), t) := by
  unfold run attempt
  rw [h]

/-- one that fails raises its exception and leaves the state. -/
theorem run_attempt_none {e : ε} {f : σ → Option σ} (h : f s = none) :
    run (attempt e f) s = (.error e, s) := by
  unfold run attempt
  rw [h]

/-- An exception skips what comes after; the state it is raised in stays. -/
theorem run_bind : (x >>= f).run s =
    match x.run s with
    | (.ok a, t)    => (f a).run t
    | (.error e, t) => (.error e, t) := rfl

/-- The handler goes on from the state the exception is raised in: nothing is rolled back. -/
theorem run_tryCatch {handler : ε → Program σ ε α} : Program.run (tryCatch x handler) s =
    match x.run s with
    | (.ok a, t)    => (.ok a, t)
    | (.error e, t) => (handler e).run t := rfl

theorem run_bind_ok {a : α} (h : x.run s = (.ok a, t)) : (x >>= f).run s = (f a).run t := by
  rw [run_bind, h]

theorem run_bind_error {e : ε} (h : x.run s = (.error e, t)) : (x >>= f).run s = (.error e, t) := by
  rw [run_bind, h]

theorem run_tryCatch_error {e : ε} {handler : ε → Program σ ε α} (h : x.run s = (.error e, t)) :
    Program.run (tryCatch x handler) s = (handler e).run t := by
  rw [run_tryCatch, h]

end Program

/-! ## Specifications -/

/-- The run from `s` ends with `Q` when it returns, and with `E` when it raises. -/
def Ends (s : σ) (x : Program σ ε α) (Q : α → σ → Prop) (E : ε → σ → Prop) : Prop :=
  match x.run s with
  | (.ok a, t)    => Q a t
  | (.error e, t) => E e t

namespace Ends

open Program

variable {s : σ} {x : Program σ ε α} {Q : α → σ → Prop} {E : ε → σ → Prop}

/-- The postconditions, said of the two kinds of outcomes. -/
theorem iff_forall : Ends s x Q E ↔
    (∀ a t, x.run s = (.ok a, t) → Q a t) ∧ ∀ e t, x.run s = (.error e, t) → E e t := by
  unfold Ends
  constructor
  · intro h
    constructor
    · intro a t hrun
      rw [hrun] at h
      exact h
    · intro e t hrun
      rw [hrun] at h
      exact h
  · rintro ⟨hok, herror⟩
    split
    · rename_i a t hrun
      exact hok a t hrun
    · rename_i e t hrun
      exact herror e t hrun

theorem of_ok {a : α} {t : σ} (h : Ends s x Q E) (hrun : x.run s = (.ok a, t)) :
    Q a t := (iff_forall.mp h).1 a t hrun

theorem of_error {e : ε} {t : σ} (h : Ends s x Q E) (hrun : x.run s = (.error e, t)) : E e t :=
  (iff_forall.mp h).2 e t hrun

/-- Weaker postconditions hold of the same run. -/
theorem mono {P : α → σ → Prop} {F : ε → σ → Prop} (h : Ends s x P F) (hQ : ∀ a t, P a t → Q a t)
    (hE : ∀ e t, F e t → E e t) : Ends s x Q E := by
  refine iff_forall.mpr ⟨?_, ?_⟩
  · intro a t hrun
    exact hQ a t (h.of_ok hrun)
  · intro e t hrun
    exact hE e t (h.of_error hrun)

/-- Two facts about one run, at once. -/
theorem and {P : α → σ → Prop} {F : ε → σ → Prop} (h : Ends s x P F) (h' : Ends s x Q E) :
    Ends s x (fun a t => P a t ∧ Q a t) (fun e t => F e t ∧ E e t) := by
  refine iff_forall.mpr ⟨?_, ?_⟩
  · intro a t hrun
    exact ⟨h.of_ok hrun, h'.of_ok hrun⟩
  · intro e t hrun
    exact ⟨h.of_error hrun, h'.of_error hrun⟩

theorem pure {a : α} (h : Q a s) : Ends s (Pure.pure a : Program σ ε α) Q E := h

theorem throw {e : ε} (h : E e s) : Ends s (MonadExcept.throw e : Program σ ε α) Q E := h

/-- A question changes nothing; its answer and its failure are each answered for. -/
theorem ask {f : σ → Except ε α} (hok : ∀ a, f s = .ok a → Q a s) (herror : ∀ e, f s = .error e → E e s) :
    Ends s (Program.ask f) Q E := by
  unfold Ends
  rw [run_ask]
  cases hf : f s with
  | ok a => exact hok a hf
  | error e => exact herror e hf

/-- A value that may not be there. -/
theorem ask_elim {e : ε} {f : σ → Option α} (hsome : ∀ a, f s = some a → Q a s) (hnone : f s = none → E e s) :
    Ends s (Program.ask fun s => (f s).elim (.error e) .ok) Q E := by
  unfold Ends
  rw [run_ask]
  cases hf : f s with
  | none => exact hnone hf
  | some a => exact hsome a hf

/-- An attempt is left in the state it makes, or in the one it found. -/
theorem attempt {e : ε} {f : σ → Option σ} {Q : Unit → σ → Prop} (hsome : ∀ t, f s = some t → Q () t)
    (hnone : f s = none → E e s) : Ends s (Program.attempt e f) Q E := by
  unfold Ends
  cases hf : f s with
  | none =>
    rw [run_attempt_none hf]
    exact hnone hf
  | some t =>
    rw [run_attempt_some hf]
    exact hsome t hf

/-- **The rule of a sequence.** What the first part ends in is what the second starts from; an exception
    of either ends the whole. -/
theorem bind {f : α → Program σ ε β} {P : α → σ → Prop} {Q : β → σ → Prop} (hx : Ends s x P E)
    (hf : ∀ a t, P a t → Ends t (f a) Q E) : Ends s (x >>= f) Q E := by
  unfold Ends
  rw [run_bind]
  cases hrun : x.run s with
  | mk result t =>
    cases result with
    | ok a => exact hf a t (hx.of_ok hrun)
    | error e => exact hx.of_error hrun

/-- **The rule of a handler.** It starts where the body has raised, and may raise itself. -/
theorem tryCatch {handler : ε → Program σ ε α} {F : ε → σ → Prop} (hx : Ends s x Q F)
    (hhandler : ∀ e t, F e t → Ends t (handler e) Q E) : Ends s (MonadExcept.tryCatch x handler) Q E := by
  unfold Ends
  rw [run_tryCatch]
  cases hrun : x.run s with
  | mk result t =>
    cases result with
    | ok a => exact hx.of_ok hrun
    | error e => exact hhandler e t (hx.of_error hrun)

end Ends

end Raising
