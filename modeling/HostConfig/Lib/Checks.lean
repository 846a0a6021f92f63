import Mathlib.Data.List.Forall2

/-!
# `Lib.Checks` — a sequence of checks that stops at the first failure

A validator that raises is an `Except ε Unit`; a validator that calls others in order raises what the
first failing one raises (`firstError`). This module relates such a sequence to a **declarative** one: a
list of rules `(tag, P)`, where check number `k` succeeds exactly when its `P` holds and otherwise raises
an error carrying its `tag` (`Decides`). From one `Decides` fact per check follow

* `firstError_ok_iff` — the sequence passes exactly when every rule holds;
* `firstError_error` — a failure carries the tag of the first rule that does not hold;
* `firstError_congr` — two sequences whose rules agree have the same outcome up to the tag.
-/

namespace Checks

variable {ε τ : Type}

/-- Run the checks in order; the first failure is the outcome. -/
def firstError : List (Except ε Unit) → Except ε Unit
  | []      => .ok ()
  | c :: cs => do c; firstError cs

@[simp] theorem firstError_nil : firstError ([] : List (Except ε Unit)) = .ok () := rfl

@[simp] theorem firstError_cons_ok (cs : List (Except ε Unit)) :
    firstError (.ok () :: cs) = firstError cs := rfl

@[simp] theorem firstError_cons_error (e : ε) (cs : List (Except ε Unit)) :
    firstError (.error e :: cs) = .error e := rfl

/-- `c` decides the rule `r`: it succeeds exactly when `r.2` holds, and its errors carry `r.1`. -/
structure Decides (tag : ε → τ) (c : Except ε Unit) (r : τ × Prop) : Prop where
  ok_iff : c = .ok () ↔ r.2
  tag_eq : ∀ e, c = .error e → tag e = r.1

variable {tag : ε → τ}

/-- The shape of a check that raises one error under one condition. -/
theorem Decides.of_ite {P : Prop} [Decidable P] {t : τ} {e : ε} (he : tag e = t) :
    Decides tag (if P then .error e else .ok ()) (t, ¬ P) where
  ok_iff := by by_cases h : P <;> simp [h]
  tag_eq := by
    intro e' h
    by_cases hP : P
    · rw [if_pos hP] at h; injection h with h; rw [← h, he]
    · rw [if_neg hP] at h; exact absurd h (by simp)

/-- A rule may be replaced by an equivalent one. -/
theorem Decides.congr {c : Except ε Unit} {t : τ} {P Q : Prop} (h : Decides tag c (t, P)) (hPQ : P ↔ Q) :
    Decides tag c (t, Q) where
  ok_iff := h.ok_iff.trans hPQ
  tag_eq := h.tag_eq

theorem Decides.eq_error {c : Except ε Unit} {r : τ × Prop} (h : Decides tag c r) (hr : ¬ r.2) :
    ∃ e, c = .error e ∧ tag e = r.1 := by
  cases hc : c with
  | ok u => exact absurd (h.ok_iff.mp hc) hr
  | error e => exact ⟨e, rfl, h.tag_eq e hc⟩

/-- **The sequence passes exactly when every rule holds.** -/
theorem firstError_ok_iff {cs : List (Except ε Unit)} {rs : List (τ × Prop)}
    (h : List.Forall₂ (Decides tag) cs rs) : firstError cs = .ok () ↔ ∀ r ∈ rs, r.2 := by
  induction h with
  | nil => simp
  | @cons c r cs rs hc _ ih =>
      rw [List.forall_mem_cons]
      by_cases hr : r.2
      · rw [hc.ok_iff.mpr hr, firstError_cons_ok, ih]
        exact ⟨fun h => ⟨hr, h⟩, fun h => h.2⟩
      · obtain ⟨e, rfl, _⟩ := hc.eq_error hr
        rw [firstError_cons_error]
        exact ⟨fun h => absurd h (by simp), fun h => absurd h.1 hr⟩

/-- **A failure carries the tag of the first rule that does not hold.** -/
theorem firstError_error {cs : List (Except ε Unit)} {rs : List (τ × Prop)}
    (h : List.Forall₂ (Decides tag) cs rs) {e : ε} (he : firstError cs = .error e) :
    ∃ pre r post, rs = pre ++ r :: post ∧ (∀ q ∈ pre, q.2) ∧ ¬ r.2 ∧ tag e = r.1 := by
  induction h with
  | nil => simp at he
  | @cons c r cs rs hc _ ih =>
      by_cases hr : r.2
      · rw [hc.ok_iff.mpr hr, firstError_cons_ok] at he
        obtain ⟨pre, q, post, rfl, hpre, hq, ht⟩ := ih he
        exact ⟨r :: pre, q, post, rfl, List.forall_mem_cons.mpr ⟨hr, hpre⟩, hq, ht⟩
      · obtain ⟨e', rfl, ht⟩ := hc.eq_error hr
        rw [firstError_cons_error] at he
        injection he with he
        exact ⟨[], r, rs, rfl, by simp, hr, by rw [← he, ht]⟩

/-- The first of a list to fail stands at or before any other that fails. -/
theorem eq_or_mem_of_split {α : Type} {A B pre post : List α} {q r : α} (h : A ++ q :: B = pre ++ r :: post)
    (hq : q ∉ pre) : r = q ∨ r ∈ A := by
  rcases List.append_eq_append_iff.mp h with ⟨mid, rfl, hmid⟩ | ⟨mid, rfl, hmid⟩
  · cases mid with
    | nil => exact .inl (List.cons.inj hmid).1.symm
    | cons a mid =>
        refine absurd ?_ hq
        rw [(List.cons.inj hmid).1]
        exact List.mem_append_right _ List.mem_cons_self
  · cases mid with
    | nil => exact .inl (List.cons.inj hmid).1
    | cons a mid =>
        rw [(List.cons.inj hmid).1]
        exact .inr (List.mem_append_right _ List.mem_cons_self)

/-- **Equivalent rules give the same outcome**, up to what the error carries besides its tag. -/
theorem firstError_congr {cs cs' : List (Except ε Unit)} {rs rs' : List (τ × Prop)}
    (h : List.Forall₂ (Decides tag) cs rs) (h' : List.Forall₂ (Decides tag) cs' rs')
    (hrs : List.Forall₂ (fun r r' => r.1 = r'.1 ∧ (r.2 ↔ r'.2)) rs rs') :
    (firstError cs).mapError tag = (firstError cs').mapError tag := by
  induction hrs generalizing cs cs' with
  | nil => cases h; cases h'; rfl
  | @cons r r' rs rs' hr _ ih =>
      cases h with
      | cons hc hcs =>
        cases h' with
        | cons hc' hcs' =>
          by_cases hP : r.2
          · rw [hc.ok_iff.mpr hP, hc'.ok_iff.mpr (hr.2.mp hP), firstError_cons_ok, firstError_cons_ok]
            exact ih hcs hcs'
          · obtain ⟨e, rfl, ht⟩ := hc.eq_error hP
            obtain ⟨e', rfl, ht'⟩ := hc'.eq_error (fun hP' => hP (hr.2.mpr hP'))
            simp only [firstError_cons_error, Except.mapError, ht, ht', hr.1]

end Checks
