import Mathlib.Data.List.Basic

/-!
# `Lib.Readings` — which failure of a run surfaces

A run that reads one datum after another and stops at the first malformed one fails the way *that* datum's
reader fails. `Reading` is one datum as far as this matters: whether it is well formed, and whether its
reader wraps the failure (raises an error of the documented family) or lets the raw one through.
`firstFailure` is what a sequence of readings predicts for the run, `raised` what an `Except` computation
does, and `Follows` says that they agree.

`Follows` composes along `bind` and `mapM`, so the prediction for a whole run is put together from one fact
per reader.
-/

namespace Readings

variable {ε α β γ : Type}

/-- One datum read. -/
structure Reading where
  wrapped : Bool
  ok : Bool
deriving DecidableEq

/-- A reading whose failure its reader turns into a typed error. -/
abbrev wrapped (ok : Bool) : Reading := ⟨true, ok⟩

/-- A reading whose failure leaves its reader as it is. -/
abbrev unwrapped (ok : Bool) : Reading := ⟨false, ok⟩

/-- Whether the first failing reading is wrapped; `none` when none fails. -/
def firstFailure : List Reading → Option Bool
  | []      => none
  | r :: rs => if r.ok then firstFailure rs else some r.wrapped

@[simp] theorem firstFailure_nil : firstFailure [] = none := rfl

@[simp] theorem firstFailure_cons_ok (w : Bool) (rs : List Reading) :
    firstFailure (⟨w, true⟩ :: rs) = firstFailure rs := rfl

/-- The first failure hides what comes after it. -/
@[simp] theorem firstFailure_cons_failed (w : Bool) (rs : List Reading) :
    firstFailure (⟨w, false⟩ :: rs) = some w := rfl

/-- Of two sequences of readings the first one fails first. -/
theorem firstFailure_append (rs rs' : List Reading) :
    firstFailure (rs ++ rs') = (firstFailure rs).or (firstFailure rs') := by
  induction rs with
  | nil => rfl
  | cons r rs ih =>
      rw [List.cons_append, firstFailure, firstFailure, ih]
      split <;> rfl

/-- Every failure that can surface first is wrapped. -/
def Covered (rs : List Reading) : Prop := firstFailure rs ≠ some false

instance (rs : List Reading) : Decidable (Covered rs) := inferInstanceAs (Decidable (_ ≠ _))

/-! ## What a computation does -/

/-- Whether the error of a computation is typed; `none` when it succeeds. -/
def raised (typed : ε → Bool) : Except ε α → Option Bool
  | .ok _    => none
  | .error e => some (typed e)

variable {typed : ε → Bool}

@[simp] theorem raised_ok (a : α) : raised typed (.ok a : Except ε α) = none := rfl

@[simp] theorem raised_error (e : ε) : raised typed (.error e : Except ε α) = some (typed e) := rfl

/-- A sequence raises what its first part raises, or else its second. -/
theorem raised_bind (x : Except ε α) (f : α → Except ε β) :
    raised typed (x >>= f) =
      match x with
      | .ok a    => raised typed (f a)
      | .error e => some (typed e) := by
  cases x <;> rfl

/-- The computation fails as the readings predict. -/
def Follows (typed : ε → Bool) (x : Except ε α) (rs : List Reading) : Prop := raised typed x = firstFailure rs

namespace Follows

/-- A value follows no readings, -/
theorem ok (a : α) : Follows typed (.ok a : Except ε α) [] := rfl

/-- and an exception those that fail with it. -/
theorem error {e : ε} {w : Bool} (h : typed e = w) (rs : List Reading) :
    Follows typed (.error e : Except ε α) (⟨w, false⟩ :: rs) := by
  rw [Follows, raised_error, firstFailure_cons_failed, h]

/-- **Sequencing**: the readings of the second computation come after those of the first. -/
theorem bind {x : Except ε α} {f : α → Except ε β} {rs rs' : List Reading} (hx : Follows typed x rs)
    (hf : ∀ a, x = .ok a → Follows typed (f a) rs') : Follows typed (x >>= f) (rs ++ rs') := by
  rw [Follows, raised_bind, firstFailure_append, ← hx]
  cases h : x with
  | ok a => exact hf a h
  | error e => rfl

/-- A computation followed by one that cannot fail. -/
theorem bind_ok {x : Except ε α} {f : α → β} {rs : List Reading} (hx : Follows typed x rs) :
    Follows typed (x >>= fun a => .ok (f a)) rs := by
  rw [← List.append_nil rs]
  exact hx.bind fun a _ => .ok (f a)

/-- **Loops**: a loop that stops at the first failure makes the readings of its iterations. -/
theorem mapM {l : List γ} {f : γ → Except ε β} {rs : γ → List Reading}
    (h : ∀ c ∈ l, Follows typed (f c) (rs c)) : Follows typed (l.mapM f) (l.flatMap rs) := by
  induction l with
  | nil => exact .ok []
  | cons c l ih =>
      rw [List.mapM_cons, List.flatMap_cons]
      obtain ⟨hc, hl⟩ := List.forall_mem_cons.mp h
      exact hc.bind fun b _ => (ih hl).bind_ok

/-- The last step of a run may fail in other ways than a reading: it only has to raise typed errors when its
    readings are well formed. -/
theorem covered_bind {x : Except ε α} {f : α → Except ε β} {rs rs' : List Reading} (hx : Follows typed x rs)
    (hf : ∀ a, x = .ok a → (raised typed (f a) ≠ some false ↔ Covered rs')) :
    raised typed (x >>= f) ≠ some false ↔ Covered (rs ++ rs') := by
  rw [Covered, raised_bind, firstFailure_append, ← hx]
  cases h : x with
  | ok a => exact hf a h
  | error e => exact Iff.rfl

end Follows
end Readings
