import Mathlib.Data.List.Infix

/-!
# `Lib.Runs` — runs of a partial deterministic step

A component that is driven by a list of events is a `step : σ → α → Option σ`; `none` is an event that is
refused. `run` folds it over a list of events, and `reached` collects what the run passes through.

The main rule, `forall_reached_iff`, is for an invariant whose failures are known exactly: if from a good
state a step leads to a good state *iff* the event meets a guard, then every state of a run is good iff the
first one is and every event of the run met the guard where it was taken. `preserved` is the rule for a plain
invariant.
-/

namespace Runs

variable {σ α : Type} (step : σ → α → Option σ)

/-- The state after a list of events, if none of them is refused. -/
def run (s : σ) : List α → Option σ
  | []      => some s
  | e :: es => (step s e).bind (fun t => run t es)

@[simp] theorem run_nil (s : σ) : run step s [] = some s := rfl

/-- `t` is a state the run passes through. -/
def Reached (s : σ) (es : List α) (t : σ) : Prop := ∃ pre, pre <+: es ∧ run step s pre = some t

/-- Every event of the run meets `guard` in the state where it is taken. -/
def GuardedRun (guard : α → σ → Prop) (s : σ) : List α → Prop
  | []      => True
  | e :: es => guard e s ∧ ∀ t, step s e = some t → GuardedRun guard t es

/-- The states of a run are its first one and those of the rest. -/
theorem reached_cons {s t u : σ} {e : α} {es : List α} (h : step s e = some t) :
    Reached step s (e :: es) u ↔ u = s ∨ Reached step t es u := by
  constructor
  · rintro ⟨pre, hpre, hrun⟩
    cases pre with
    | nil => exact .inl (Option.some.inj hrun).symm
    | cons e' pre =>
        obtain ⟨rfl, htail⟩ := List.cons_prefix_cons.mp hpre
        rw [run, h] at hrun
        exact .inr ⟨pre, htail, hrun⟩
  · rintro (rfl | ⟨pre, hpre, hrun⟩)
    · exact ⟨[], List.nil_prefix, rfl⟩
    · exact ⟨e :: pre, List.cons_prefix_cons.mpr ⟨rfl, hpre⟩, by rw [run, h]; exact hrun⟩

theorem reached_nil {s u : σ} : Reached step s [] u ↔ u = s := by
  constructor
  · rintro ⟨pre, hpre, hrun⟩
    rw [List.prefix_nil.mp hpre] at hrun
    exact (Option.some.inj hrun).symm
  · rintro rfl
    exact ⟨[], List.nil_prefix, rfl⟩

/-- A run of two sequences is a run of the second from where the first ends. -/
theorem run_append (s : σ) (es fs : List α) :
    run step s (es ++ fs) = (run step s es).bind (fun t => run step t fs) := by
  induction es generalizing s with
  | nil => rfl
  | cons e es ih =>
      rw [List.cons_append, run, run]
      cases step s e with
      | none => rfl
      | some t => exact ih t

/-- **What every allowed step keeps, a run of allowed events keeps.** -/
theorem preserved (I : σ → Prop) {allowed : α → Prop}
    (hstep : ∀ s e t, allowed e → I s → step s e = some t → I t)
    {s t : σ} {es : List α} (hes : ∀ e ∈ es, allowed e) (hs : I s) (hrun : run step s es = some t) : I t := by
  induction es generalizing s with
  | nil =>
      obtain rfl := Option.some.inj hrun
      exact hs
  | cons e es ih =>
      obtain ⟨he, hes⟩ := List.forall_mem_cons.mp hes
      obtain ⟨m, hm, hrun⟩ := Option.bind_eq_some_iff.mp hrun
      exact ih hes (hstep s e m he hs hm) hrun

/-- **An exact guard, over a run.** -/
theorem forall_reached_iff {good : σ → Prop} {guard : α → σ → Prop}
    (exact_step : ∀ s e t, good s → step s e = some t → (good t ↔ guard e s))
    {s t : σ} {es : List α} (hrun : run step s es = some t) :
    (∀ u, Reached step s es u → good u) ↔ good s ∧ GuardedRun step guard s es := by
  induction es generalizing s with
  | nil => simp [reached_nil, GuardedRun]
  | cons e es ih =>
      obtain ⟨m, hm, hrun⟩ := Option.bind_eq_some_iff.mp hrun
      simp only [reached_cons step hm, forall_eq_or_imp, ih hrun, GuardedRun]
      constructor
      · rintro ⟨hs, hgm, hes⟩
        refine ⟨hs, (exact_step s e m hs hm).mp hgm, fun m' hm' => ?_⟩
        rw [hm] at hm'
        exact Option.some.inj hm' ▸ hes
      · rintro ⟨hs, hguard, hes⟩
        exact ⟨hs, (exact_step s e m hs hm).mpr hguard, hes m hm⟩

end Runs
