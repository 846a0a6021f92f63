import HostConfig.Lib.Runs

/-!
# `Lib.Interleaving` — processes that take steps on a shared state, in any order

A system is a shared state and a list of processes, each with a state of its own. An event starts a process
or lets one of them take a step, so the runs of a system are all the interleavings of its processes. Three
rules:

- `preserved` — an invariant of the shared state and one of the single process, kept together by every step;
- `relied` — an invariant of every process may speak of the shared state, as long as it survives the steps of others;
- `balance` — if every step raises a measure of the shared state exactly when its process enters a phase and lowers
  it when its process leaves it, then the measure counts the processes in the phase, at every moment.
-/

namespace Interleaving

variable {σ π α β : Type}

structure System (σ π : Type) where
  shared : σ
  procs : List π

inductive Event (α β : Type)
  /-- A process starts. -/
  | spawn (b : β)
  /-- The `i`-th process takes a step. -/
  | act (i : Nat) (a : α)

/-- `start` is the state a process starts in, `move` a step of one process on the shared state. -/
def step (start : β → π) (move : α → σ → π → Option (σ × π)) (s : System σ π) :
    Event α β → Option (System σ π)
  | .spawn b => some { s with procs := s.procs ++ [start b] }
  | .act i a => s.procs[i]?.bind fun p => (move a s.shared p).map fun r => ⟨r.1, s.procs.set i r.2⟩

variable {start : β → π} {move : α → σ → π → Option (σ × π)} {s t : System σ π}

/-- **What one event can do.** -/
theorem step_cases {e : Event α β} (h : step start move s e = some t) :
    (∃ b, e = .spawn b ∧ t = { s with procs := s.procs ++ [start b] }) ∨
      ∃ i a shared q, ∃ hi : i < s.procs.length, e = .act i a ∧
        move a s.shared s.procs[i] = some (shared, q) ∧ t = ⟨shared, s.procs.set i q⟩ := by
  cases e with
  | spawn b => exact .inl ⟨b, rfl, (Option.some.inj h).symm⟩
  | act i a =>
    obtain ⟨p, hp, h⟩ := Option.bind_eq_some_iff.mp h
    obtain ⟨⟨shared, q⟩, hmove, rfl⟩ := Option.map_eq_some_iff.mp h
    obtain ⟨hi, rfl⟩ := List.getElem?_eq_some_iff.mp hp
    exact .inr ⟨i, a, shared, q, hi, rfl, hmove, rfl⟩

/-- A step of the process that was started last. -/
theorem step_last (m : σ) (procs : List π) (p : π) (a : α) :
    step start move ⟨m, procs ++ [p]⟩ (.act procs.length a) = (move a m p).map fun r =>
      ⟨r.1, procs ++ [r.2]⟩ := by
  have hlast : (procs ++ [p])[procs.length]? = some p := List.getElem?_concat_length
  have hset : ∀ q, (procs ++ [p]).set procs.length q = procs ++ [q] := by
    intro q
    rw [List.set_append_right _ _ (Nat.le_refl _), Nat.sub_self, List.set_cons_zero]
  show ((procs ++ [p])[procs.length]?.bind fun q => _) = _
  rw [hlast, Option.bind_some]
  apply congrArg (fun f => (move a m p).map f)
  funext r
  rw [hset]

/-- **The process that was started last, running alone.** -/
theorem run_last (m : σ) (procs : List π) (p : π) (as : List α) :
    Runs.run (step start move) ⟨m, procs ++ [p]⟩ (as.map (.act procs.length)) =
      (Runs.run (fun (r : σ × π) a => move a r.1 r.2) (m, p) as).map fun r => ⟨r.1, procs ++ [r.2]⟩ := by
  induction as generalizing m p with
  | nil => rfl
  | cons a as ih =>
    rw [List.map_cons, Runs.run, Runs.run, step_last]
    cases move a m p with
    | none => rfl
    | some r => exact ih r.1 r.2

/-- **Invariants**: one of the shared state, one of every process. -/
theorem preserved {allowed : Event α β → Prop} (I : σ → Prop) (P : π → Prop)
    (hstart : ∀ b, allowed (.spawn b) → P (start b))
    (hmove : ∀ i a shared p shared' q, allowed (.act i a) → I shared → P p →
      move a shared p = some (shared', q) →
      I shared' ∧ P q)
    {es : List (Event α β)} (hes : ∀ e ∈ es, allowed e) (hI : I s.shared) (hP : ∀ p ∈ s.procs, P p)
    (hrun : Runs.run (step start move) s es = some t) : I t.shared ∧ ∀ p ∈ t.procs, P p := by
  refine Runs.preserved (step start move) (fun u => I u.shared ∧ ∀ p ∈ u.procs, P p) ?_ hes ⟨hI, hP⟩ hrun
  rintro u e v he ⟨hI, hP⟩ hstep
  rcases step_cases hstep with ⟨b, rfl, rfl⟩ | ⟨i, a, shared, q, hi, rfl, hq, rfl⟩
  · refine ⟨hI, fun p hp => ?_⟩
    rcases List.mem_append.mp hp with hp | hp
    · exact hP p hp
    · rw [List.mem_singleton.mp hp]
      exact hstart b he
  · obtain ⟨hI', hq'⟩ := hmove i a _ _ _ _ he hI (hP _ (List.getElem_mem hi)) hq
    refine ⟨hI', fun p hp => ?_⟩
    rcases List.mem_or_eq_of_mem_set hp with hp | rfl
    · exact hP p hp
    · exact hq'

/-- **Invariants that speak of the shared state**: a step changes it along `R`, and along `R` the invariant
    of a process that does not move is kept. -/
theorem relied {allowed : Event α β → Prop} (I : σ → Prop) (R : σ → σ → Prop) (P : σ → π → Prop)
    (hstart : ∀ b shared, allowed (.spawn b) → P shared (start b))
    (hmove : ∀ i a shared p shared' q, allowed (.act i a) → I shared → P shared p →
      move a shared p = some (shared', q) →
      I shared' ∧ R shared shared' ∧ P shared' q)
    (hrely : ∀ shared shared' p, R shared shared' → P shared p → P shared' p)
    {es : List (Event α β)} (hes : ∀ e ∈ es, allowed e) (hI : I s.shared) (hP : ∀ p ∈ s.procs, P s.shared p)
    (hrun : Runs.run (step start move) s es = some t) : I t.shared ∧ ∀ p ∈ t.procs, P t.shared p := by
  refine Runs.preserved (step start move) (fun u => I u.shared ∧
    ∀ p ∈ u.procs, P u.shared p) ?_ hes ⟨hI, hP⟩ hrun
  rintro u e v he ⟨hI, hP⟩ hstep
  rcases step_cases hstep with ⟨b, rfl, rfl⟩ | ⟨i, a, shared, q, hi, rfl, hq, rfl⟩
  · refine ⟨hI, ?_⟩
    intro p hp
    rcases List.mem_append.mp hp with hp | hp
    · exact hP p hp
    · rw [List.mem_singleton.mp hp]
      exact hstart b u.shared he
  · obtain ⟨hI', hR, hq'⟩ := hmove i a _ _ _ _ he hI (hP _ (List.getElem_mem hi)) hq
    refine ⟨hI', ?_⟩
    intro p hp
    rcases List.mem_or_eq_of_mem_set hp with hp | rfl
    · exact hrely _ _ _ hR (hP p hp)
    · exact hq'

/-- **A measure of the shared state counts the processes in a phase.** -/
theorem balance (measure : σ → Int) (phase : π → Bool) (hstart : ∀ b, phase (start b) = false)
    (hmove : ∀ a shared p shared' q, move a shared p = some (shared', q) →
      measure shared' + (phase p).toNat = measure shared + (phase q).toNat)
    {es : List (Event α β)} (hrun : Runs.run (step start move) s es = some t) :
    measure t.shared + s.procs.countP phase = measure s.shared + t.procs.countP phase := by
  have hall : ∀ e ∈ es, (fun _ : Event α β => True) e := fun _ _ => trivial
  refine Runs.preserved (step start move)
    (fun u => measure u.shared + s.procs.countP phase =
      measure s.shared + u.procs.countP phase) ?_ hall rfl hrun
  intro u e v _ hbalance hstep
  rcases step_cases hstep with ⟨b, rfl, rfl⟩ | ⟨i, a, shared, q, hi, rfl, hq, rfl⟩
  · -- a process does not start in the phase
    rw [List.countP_append, List.countP_singleton, hstart b]
    simpa using hbalance
  · have hdelta := hmove a _ _ _ _ hq
    have hcount := List.countP_set (p := phase) (a := q) hi
    -- the process that moves was counted if it was in the phase
    have hpos : (if phase u.procs[i] = true then 1 else 0) ≤ u.procs.countP phase :=
      List.boole_getElem_le_countP hi
    show measure shared + s.procs.countP phase = measure s.shared + ((u.procs.set i q).countP phase : Int)
    cases hp : phase u.procs[i] <;> cases hq' : phase q <;>
      simp only [hp, hq', Bool.toNat_true, Bool.toNat_false, if_true, if_false,
        Bool.false_eq_true] at hdelta hcount hpos <;>
      omega

/-! ## Simulation -/

section Simulation

variable {σ' π' α' β' : Type} {start' : β' → π'} {move' : α' → σ' → π' → Option (σ' × π')}

/-- A system, seen through maps of its parts. -/
def System.map (f : σ → σ') (g : π → π') (s : System σ π) : System σ' π' := ⟨f s.shared, s.procs.map g⟩

/-- A step is matched by at most one step. -/
theorem simulated_step {f : σ → σ'} {g : π → π'} (k : β → β') (hstart : ∀ b, g (start b) = start' (k b))
    (hmove : ∀ a shared p shared' q, move a shared p = some (shared', q) →
      (f shared' = f shared ∧ g q = g p) ∨ ∃ a', move' a' (f shared) (g p) = some (f shared', g q))
    {e : Event α β} (h : step start move s e = some t) :
    t.map f g = s.map f g ∨ ∃ e', step start' move' (s.map f g) e' = some (t.map f g) := by
  rcases step_cases h with ⟨b, rfl, rfl⟩ | ⟨i, a, shared, q, hi, rfl, hq, rfl⟩
  · refine .inr ⟨.spawn (k b), ?_⟩
    simp [step, System.map, hstart]
  · rcases hmove a _ _ _ _ hq with ⟨hshared, hproc⟩ | ⟨a', ha'⟩
    · left
      -- the process that moved is seen where it was
      have hset : (s.procs.set i q).map g = s.procs.map g := by
        rw [List.map_set, hproc, ← List.getElem_map g (h := by simpa using hi), List.set_getElem_self]
      simp only [System.map, hshared, hset]
    · right
      refine ⟨.act i a', ?_⟩
      have hget : (s.procs.map g)[i]? = some (g s.procs[i]) := by
        rw [List.getElem?_map, List.getElem?_eq_getElem hi, Option.map_some]
      simp only [step, System.map, hget, Option.bind_some, ha', Option.map_some, List.map_set]

/-- **Every run is one of the other system.** -/
theorem simulated {f : σ → σ'} {g : π → π'} (k : β → β') (hstart : ∀ b, g (start b) = start' (k b))
    (hmove : ∀ a shared p shared' q, move a shared p = some (shared', q) →
      (f shared' = f shared ∧ g q = g p) ∨ ∃ a', move' a' (f shared) (g p) = some (f shared', g q))
    {es : List (Event α β)} (hrun : Runs.run (step start move) s es = some t) :
    ∃ es', Runs.run (step start' move') (s.map f g) es' = some (t.map f g) := by
  induction es generalizing s with
  | nil =>
    obtain rfl := Option.some.inj hrun
    exact ⟨[], rfl⟩
  | cons e es ih =>
    obtain ⟨u, hstep, hrest⟩ := Option.bind_eq_some_iff.mp hrun
    obtain ⟨es', hes'⟩ := ih hrest
    rcases simulated_step k hstart hmove hstep with hsame | ⟨e', he'⟩
    · exact ⟨es', hsame ▸ hes'⟩
    · refine ⟨e' :: es', ?_⟩
      rw [Runs.run, he', Option.bind_some, hes']

end Simulation

end Interleaving
