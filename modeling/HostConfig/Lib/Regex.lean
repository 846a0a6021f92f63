import Mathlib.Computability.RegularExpressions

/-!
# `Lib.Regex` — the everyday operators on Mathlib's regular expressions

`RegularExpression Char` with the operators a pattern is written with (`oneOf` for a character class, `lit`,
`opt`, `many1`, `times`), and two structural bounds: `maxCount r c` is the largest number of times `c` can
occur in a match of `r`, when `r` bounds it, and `requires r c` says that every match has a `c`.
`count_le_of_rmatch` and `mem_of_rmatch` turn them into facts about every matching string, which is how a
client shows that a string does *not* match: it has too many of some `c`, or none. `symbols r` are the
characters a match is made of.
-/

namespace Regex

open RegularExpression

/-- A character class. -/
def oneOf : List Char → RegularExpression Char
  | []      => 0
  | c :: cs => char c + oneOf cs

/-- A literal string. -/
def lit : List Char → RegularExpression Char
  | []      => 1
  | c :: cs => char c * lit cs

/-- `r?` -/
def opt (r : RegularExpression Char) : RegularExpression Char := 1 + r

/-- `r+` -/
def many1 (r : RegularExpression Char) : RegularExpression Char := r * RegularExpression.star r

/-- The repetition of `r` exactly `n` times. -/
def times : Nat → RegularExpression Char → RegularExpression Char
  | 0, _     => 1
  | n + 1, r => r * times n r

/-- One of several patterns. -/
def anyOf : List (RegularExpression Char) → RegularExpression Char
  | []      => 0
  | r :: rs => r + anyOf rs

/-- The most often `c` can occur in a match of `r`; `none` where `r` sets no bound. -/
def maxCount : RegularExpression Char → Char → Option Nat
  | .zero, _     => some 0
  | .epsilon, _  => some 0
  | .char a, c   => some (if a = c then 1 else 0)
  | .plus p q, c => do return max (← maxCount p c) (← maxCount q c)
  | .comp p q, c => do return (← maxCount p c) + (← maxCount q c)
  | .star p, c   => if maxCount p c = some 0 then some 0 else none

theorem count_le_of_matches {r : RegularExpression Char} {c : Char} {n : Nat} (hn : maxCount r c = some n)
    {s : List Char} (hs : s ∈ r.matches') : s.count c ≤ n := by
  induction r generalizing n s with
  | zero => exact absurd hs (by simp [matches'])
  | epsilon =>
      rw [matches', Language.mem_one] at hs
      subst hs; simp
  | char a =>
      obtain rfl : s = [a] := Set.mem_singleton_iff.mp hs
      by_cases h : a = c <;> simp_all [maxCount]
  | plus p q ihp ihq =>
      rw [matches', Language.mem_add] at hs
      cases hp : maxCount p c with
      | none => simp [maxCount, hp] at hn
      | some np =>
        cases hq : maxCount q c with
        | none => simp [maxCount, hp, hq] at hn
        | some nq =>
          have hmax : n = max np nq := by simpa [maxCount, hp, hq] using hn.symm
          rcases hs with hs | hs
          · have := ihp hp hs; omega
          · have := ihq hq hs; omega
  | comp p q ihp ihq =>
      rw [matches', Language.mem_mul] at hs
      obtain ⟨x, hx, y, hy, rfl⟩ := hs
      cases hp : maxCount p c with
      | none => simp [maxCount, hp] at hn
      | some np =>
        cases hq : maxCount q c with
        | none => simp [maxCount, hp, hq] at hn
        | some nq =>
          have hsum : n = np + nq := by simpa [maxCount, hp, hq] using hn.symm
          have h1 := ihp hp hx
          have h2 := ihq hq hy
          rw [List.count_append]; omega
  | star p ih =>
      rw [matches', Language.mem_kstar] at hs
      obtain ⟨L, rfl, hL⟩ := hs
      -- a repetition has a bound only where its body has none of `c`
      by_cases hp : maxCount p c = some 0
      · have hzero : L.flatten.count c = 0 := by
          refine List.count_eq_zero.mpr (fun hmem => ?_)
          obtain ⟨x, hx, hc⟩ := List.mem_flatten.mp hmem
          exact List.count_eq_zero.mp (Nat.le_zero.mp (ih hp (hL x hx))) hc
        omega
      · simp [maxCount, hp] at hn

/-- **A match of `r` contains `c` at most `maxCount r c` times.** -/
theorem count_le_of_rmatch {r : RegularExpression Char} {c : Char} {n : Nat} (hn : maxCount r c = some n)
    {s : List Char} (hs : r.rmatch s = true) : s.count c ≤ n :=
  count_le_of_matches hn ((rmatch_iff_matches' r s).mp hs)

/-- A character `r` never uses does not occur in a match. -/
theorem notMem_of_rmatch {r : RegularExpression Char} {c : Char} (hn : maxCount r c = some 0)
    {s : List Char} (hs : r.rmatch s = true) : c ∉ s :=
  List.count_eq_zero.mp (Nat.le_zero.mp (count_le_of_rmatch hn hs))

/-- The characters of `r`. -/
def symbols : RegularExpression Char → List Char
  | .zero     => []
  | .epsilon  => []
  | .char a   => [a]
  | .plus p q => symbols p ++ symbols q
  | .comp p q => symbols p ++ symbols q
  | .star p   => symbols p

@[simp] theorem symbols_mul (p q : RegularExpression Char) : symbols (p * q) = symbols p ++ symbols q := rfl

@[simp] theorem symbols_char (c : Char) : symbols (char c) = [c] := rfl

theorem symbols_oneOf (cs : List Char) : symbols (oneOf cs) = cs := by
  induction cs with
  | nil => rfl
  | cons c cs ih => exact congrArg (c :: ·) ih

theorem mem_symbols_of_times {n : Nat} {r : RegularExpression Char} {c : Char} (h : c ∈ symbols (times n r)) :
    c ∈ symbols r := by
  induction n with
  | zero => exact absurd h List.not_mem_nil
  | succ n ih => exact (List.mem_append.mp h).elim id ih

theorem maxCount_of_notMem_symbols {r : RegularExpression Char} {c : Char} (h : c ∉ symbols r) :
    maxCount r c = some 0 := by
  induction r with
  | zero => rfl
  | epsilon => rfl
  | char a =>
      have hne : a ≠ c := fun hac => h (List.mem_singleton.mpr hac.symm)
      simp [maxCount, hne]
  | plus p q ihp ihq =>
      rw [symbols, List.mem_append, not_or] at h
      simp [maxCount, ihp h.1, ihq h.2]
  | comp p q ihp ihq =>
      rw [symbols, List.mem_append, not_or] at h
      simp [maxCount, ihp h.1, ihq h.2]
  | star p ih => simp [maxCount, ih h]

/-- **A match of `r` is made of the characters of `r`.** -/
theorem mem_symbols_of_rmatch {r : RegularExpression Char} {s : List Char} (hs : r.rmatch s = true) {c : Char}
    (hc : c ∈ s) : c ∈ symbols r := by
  by_contra h
  exact notMem_of_rmatch (maxCount_of_notMem_symbols h) hs hc

/-- Every match of `r` has a `c`, as far as the structure of `r` shows. -/
def requires : RegularExpression Char → Char → Bool
  | .zero, _     => true
  | .epsilon, _  => false
  | .char a, c   => a = c
  | .plus p q, c => requires p c && requires q c
  | .comp p q, c => requires p c || requires q c
  | .star _, _   => false

theorem mem_of_matches {r : RegularExpression Char} {c : Char} (hr : requires r c = true) {s : List Char}
    (hs : s ∈ r.matches') : c ∈ s := by
  induction r generalizing s with
  | zero => exact absurd hs (by simp [matches'])
  | epsilon => cases hr
  | char a =>
      obtain rfl : s = [a] := Set.mem_singleton_iff.mp hs
      exact List.mem_singleton.mpr (of_decide_eq_true hr).symm
  | plus p q ihp ihq =>
      rw [requires, Bool.and_eq_true] at hr
      rw [matches', Language.mem_add] at hs
      exact hs.elim (ihp hr.1) (ihq hr.2)
  | comp p q ihp ihq =>
      rw [requires, Bool.or_eq_true] at hr
      rw [matches', Language.mem_mul] at hs
      obtain ⟨x, hx, y, hy, rfl⟩ := hs
      exact List.mem_append.mpr (hr.imp (fun h => ihp h hx) (fun h => ihq h hy))
  | star p _ => cases hr

/-- **A match of `r` contains every character `r` requires.** -/
theorem mem_of_rmatch {r : RegularExpression Char} {c : Char} (hr : requires r c = true) {s : List Char}
    (hs : r.rmatch s = true) : c ∈ s :=
  mem_of_matches hr ((rmatch_iff_matches' r s).mp hs)

/-! ## What the operators match -/

theorem mem_oneOf {cs : List Char} {c : Char} (hc : c ∈ cs) : [c] ∈ (oneOf cs).matches' := by
  induction cs with
  | nil => exact absurd hc List.not_mem_nil
  | cons d cs ih =>
      rw [oneOf, matches'_add, Language.mem_add]
      rcases List.mem_cons.mp hc with rfl | hc
      · exact .inl (Set.mem_singleton _)
      · exact .inr (ih hc)

/-- A run of characters of one class. -/
theorem mem_star_oneOf {cs s : List Char} (hs : ∀ c ∈ s, c ∈ cs) :
    s ∈ (RegularExpression.star (oneOf cs)).matches' := by
  rw [matches'_star, Language.mem_kstar]
  refine ⟨s.map ([·]), ?_, fun y hy => ?_⟩
  · rw [← List.flatMap_def, List.flatMap_singleton']
  · obtain ⟨c, hc, rfl⟩ := List.mem_map.mp hy
    exact mem_oneOf (hs c hc)

theorem mem_anyOf {rs : List (RegularExpression Char)} {r : RegularExpression Char} (hr : r ∈ rs)
    {s : List Char} (hs : s ∈ r.matches') : s ∈ (anyOf rs).matches' := by
  induction rs with
  | nil => exact absurd hr List.not_mem_nil
  | cons q rs ih =>
      rw [anyOf, matches'_add, Language.mem_add]
      rcases List.mem_cons.mp hr with rfl | hr
      · exact .inl hs
      · exact .inr (ih hr)

/-- `r?` matches what `r` leaves out. -/
theorem mem_opt_mul {r q : RegularExpression Char} {s : List Char} (hs : s ∈ q.matches') :
    s ∈ (opt r * q).matches' := by
  rw [matches'_mul, opt, matches'_add, matches'_epsilon, Language.mem_mul]
  exact ⟨[], (Language.mem_add _ _ _).mpr (.inl (Language.nil_mem_one)), s, hs, rfl⟩

end Regex
