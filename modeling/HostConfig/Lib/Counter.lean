import Mathlib.Data.List.Count
import Mathlib.Data.List.Perm.Basic
import Mathlib.Data.List.Dedup

/-!
# `Lib.Counter` — an insertion-ordered counting dictionary

`ofList l` counts the entries of `l`, one key for each distinct entry in order of first occurrence, as a
counting dictionary filled by a loop does. `get_ofList` says what it holds; the two questions clients ask of
it are answered by `eqv_ofList` (two counters compare equal exactly when the lists are permutations) and
`repeated_ofList` (nothing is counted twice exactly when the list has no duplicate). A counter that is
raised step by step is followed by `get_bump`, `total_bump`, `totalOf_bump` (what has been counted under
some keys), `total_foldl_bump` and `length_le` (it has no more keys than values it can be given).
-/

namespace Counter

variable {α : Type} [DecidableEq α]

/-- Count one more `a`: raise its entry, or append a new one. -/
def bump : List (α × Nat) → α → List (α × Nat)
  | [], a          => [(a, 1)]
  | (b, n) :: c, a => if b = a then (b, n + 1) :: c else (b, n) :: bump c a

/-- The counter of a list. -/
def ofList (l : List α) : List (α × Nat) := l.foldl bump []

/-- The count of `a`; a missing key counts zero. -/
def get (c : List (α × Nat)) (a : α) : Nat := ((c.find? (fun e => e.1 = a)).map (·.2)).getD 0

/-- Equality of counters: a key missing on one side is read as zero. -/
def eqv (c d : List (α × Nat)) : Bool := ((c ++ d).map (·.1)).all (fun a => get c a = get d a)

/-- What has been counted in all. -/
def total : List (α × Nat) → Nat
  | []     => 0
  | e :: c => e.2 + total c

/-- What has been counted under the keys with `p`. -/
def totalOf (p : α → Bool) : List (α × Nat) → Nat
  | []     => 0
  | e :: c => (if p e.1 then e.2 else 0) + totalOf p c

/-- The keys counted more than once. -/
def repeated (c : List (α × Nat)) : List α := (c.filter (fun e => 1 < e.2)).map (·.1)

/-- One more of what is counted, and of nothing else. -/
theorem get_bump (c : List (α × Nat)) (a b : α) :
    get (bump c a) b = get c b + if a = b then 1 else 0 := by
  induction c with
  | nil => by_cases h : a = b <;> simp [bump, get, h]
  | cons e c ih =>
      obtain ⟨k, n⟩ := e
      by_cases hka : k = a
      · subst hka
        by_cases hkb : k = b <;> simp [bump, get, hkb]
      · by_cases hkb : k = b
        · subst hkb; simp [bump, get, hka, Ne.symm hka]
        · simpa [bump, get, hka, hkb] using ih

/-- The total grows by one, -/
@[simp] theorem total_bump (c : List (α × Nat)) (a : α) : total (bump c a) = total c + 1 := by
  induction c with
  | nil => rfl
  | cons e c ih =>
      obtain ⟨k, n⟩ := e
      by_cases hka : k = a
      · simp only [bump, if_pos hka, total]
        omega
      · simp only [bump, if_neg hka, total, ih]
        omega

/-- and the total of a kind if what is counted is of that kind. -/
theorem totalOf_bump (p : α → Bool) (c : List (α × Nat)) (a : α) :
    totalOf p (bump c a) = totalOf p c + (p a).toNat := by
  induction c with
  | nil => cases h : p a <;> simp [bump, totalOf, h]
  | cons e c ih =>
      obtain ⟨k, n⟩ := e
      by_cases hka : k = a
      · subst hka
        cases h : p k <;> simp [bump, totalOf, h]
        omega
      · rw [bump, if_neg hka, totalOf, totalOf, ih]
        omega

/-- Counting a list adds its length. -/
theorem total_foldl_bump (l : List α) (c : List (α × Nat)) : total (l.foldl bump c) = total c + l.length := by
  induction l generalizing c with
  | nil => rfl
  | cons a l ih =>
      rw [List.foldl_cons, ih, total_bump, List.length_cons]
      omega

omit [DecidableEq α] in
/-- Nothing is counted exactly if every entry is zero. -/
theorem total_eq_zero_iff (c : List (α × Nat)) : total c = 0 ↔ ∀ e ∈ c, e.2 = 0 := by
  induction c with
  | nil => simp [total]
  | cons e c ih =>
      rw [total, Nat.add_eq_zero_iff, ih, List.forall_mem_cons]

/-- Each element is counted as often as it occurs. -/
theorem get_foldl_bump (l : List α) (c : List (α × Nat)) (b : α) :
    get (l.foldl bump c) b = get c b + l.count b := by
  induction l generalizing c with
  | nil => simp
  | cons a l ih =>
      rw [List.foldl_cons, ih, get_bump, List.count_cons]
      by_cases h : a = b
      · simp only [h, if_true, beq_self_eq_true]; omega
      · simp only [h, if_false, beq_iff_eq]; omega

/-- **The counter holds the counts.** -/
theorem get_ofList (l : List α) (a : α) : get (ofList l) a = l.count a := by
  unfold ofList; rw [get_foldl_bump]; simp [get]

/-- Counting makes no other label, -/
theorem keys_bump (c : List (α × Nat)) (a b : α) :
    b ∈ (bump c a).map (·.1) ↔ b = a ∨ b ∈ c.map (·.1) := by
  induction c with
  | nil => simp [bump]
  | cons e c ih =>
      obtain ⟨k, n⟩ := e
      by_cases h : k = a
      · subst h; simp [bump]
      · simp only [bump, if_neg h, List.map_cons, List.mem_cons, ih]; tauto

/-- repeats none, -/
theorem nodup_keys_bump {c : List (α × Nat)} (a : α) (h : (c.map (·.1)).Nodup) :
    ((bump c a).map (·.1)).Nodup := by
  induction c with
  | nil => simp [bump]
  | cons e c ih =>
      obtain ⟨k, n⟩ := e
      obtain ⟨hk, hc⟩ := List.nodup_cons.mp h
      by_cases hka : k = a
      · simpa [bump, hka] using h
      · rw [bump, if_neg hka, List.map_cons, List.nodup_cons, keys_bump]
        exact ⟨fun hmem => hmem.elim hka hk, ih hc⟩

/-- and makes an entry for a new one. -/
theorem length_bump_of_notMem {c : List (α × Nat)} {a : α} (h : a ∉ c.map (·.1)) :
    (bump c a).length = c.length + 1 := by
  induction c with
  | nil => rfl
  | cons e c ih =>
      obtain ⟨k, n⟩ := e
      rw [List.map_cons, List.mem_cons, not_or] at h
      rw [bump, if_neg (Ne.symm h.1), List.length_cons, List.length_cons, ih h.2]

/-- The labels of a counted list are its elements, -/
theorem keys_ofList (l : List α) (b : α) : b ∈ (ofList l).map (·.1) ↔ b ∈ l := by
  suffices h : ∀ c : List (α × Nat), b ∈ (l.foldl bump c).map (·.1) ↔ b ∈ l ∨ b ∈ c.map (·.1) by
    simpa [ofList] using h []
  induction l with
  | nil => simp
  | cons a l ih => intro c; rw [List.foldl_cons, ih, keys_bump, List.mem_cons]; tauto

/-- each once. -/
theorem nodup_keys_ofList (l : List α) : ((ofList l).map (·.1)).Nodup := by
  suffices h : ∀ c : List (α × Nat), (c.map (·.1)).Nodup → ((l.foldl bump c).map (·.1)).Nodup from
    h [] List.nodup_nil
  induction l with
  | nil => exact fun _ h => h
  | cons a l ih => exact fun c hc => ih _ (nodup_keys_bump a hc)

omit [DecidableEq α] in
/-- A counter with distinct keys, all of them in `l`, has no more entries than `l`. -/
theorem length_le {c : List (α × Nat)} (h : (c.map (·.1)).Nodup) {l : List α} (hl : ∀ e ∈ c, e.1 ∈ l) :
    c.length ≤ l.length := by
  have hsub : c.map (·.1) ⊆ l := by
    intro a ha
    obtain ⟨e, he, rfl⟩ := List.mem_map.mp ha
    exact hl e he
  have hlen := (List.subperm_of_subset h hsub).length_le
  rwa [List.length_map] at hlen

/-- An entry of a counter with distinct keys is the count of its key. -/
theorem get_of_mem {c : List (α × Nat)} (h : (c.map (·.1)).Nodup) {e : α × Nat} (he : e ∈ c) :
    get c e.1 = e.2 := by
  induction c with
  | nil => simp at he
  | cons d c ih =>
      obtain ⟨hd, hc⟩ := List.nodup_cons.mp h
      rcases List.mem_cons.mp he with rfl | he
      · simp [get]
      · have hne : d.1 ≠ e.1 := fun heq => hd (List.mem_map.mpr ⟨e, he, heq.symm⟩)
        simpa [get, hne] using ih hc he

/-- **Counters compare equal exactly when the lists are permutations of each other.** -/
theorem eqv_ofList (l l' : List α) : eqv (ofList l) (ofList l') = true ↔ l.Perm l' := by
  rw [List.perm_iff_count, eqv, List.all_eq_true]
  constructor
  · intro h a
    by_cases ha : a ∈ l ∨ a ∈ l'
    · have hmem : a ∈ ((ofList l ++ ofList l').map (·.1)) := by
        rw [List.map_append, List.mem_append, keys_ofList, keys_ofList]; exact ha
      have heq : get (ofList l) a = get (ofList l') a := by simpa using h a hmem
      rwa [get_ofList, get_ofList] at heq
    · rw [not_or] at ha
      rw [List.count_eq_zero.mpr ha.1, List.count_eq_zero.mpr ha.2]
  · intro h a _
    rw [decide_eq_true_eq, get_ofList, get_ofList, h a]

/-- **Nothing is counted twice exactly when the list has no duplicate.** -/
theorem repeated_ofList (l : List α) : repeated (ofList l) = [] ↔ l.Nodup := by
  rw [repeated, List.map_eq_nil_iff, List.filter_eq_nil_iff, List.nodup_iff_count_le_one]
  constructor
  · intro h a
    by_cases ha : a ∈ l
    · obtain ⟨e, he, rfl⟩ := List.mem_map.mp ((keys_ofList l a).mpr ha)
      have hcount := get_of_mem (nodup_keys_ofList l) he
      rw [get_ofList] at hcount
      have := h e he
      rw [decide_eq_true_eq] at this
      omega
    · rw [List.count_eq_zero.mpr ha]; exact Nat.zero_le _
  · intro h e he
    have hcount := get_of_mem (nodup_keys_ofList l) he
    rw [get_ofList] at hcount
    have := h e.1
    rw [decide_eq_true_eq]
    omega

end Counter
