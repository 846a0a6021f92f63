import Mathlib.Algebra.Group.Nat.Defs
import Mathlib.Data.List.Basic
import Mathlib.Data.Option.Basic
import HostConfig.Lib.Traverse

/-!
# `Lib.Hexadecimal` — integers in base sixteen

`toInt` reads a text as Python's `int(text, 16)` reads one of Latin-1 characters: white space around the
numeral, a sign, the prefix `0x`, single underscores between digits and either case are let through.
`padded` writes a number in a given number of lower-case digits at least.

A text of digits is read as its value (`toInt_of_digits`), and what is written is read back
(`toInt_padded`).
-/

namespace Hexadecimal

/-- White space around a numeral. -/
def isBlank (c : Char) : Bool := ['\x09', '\x0a', '\x0b', '\x0c', '\x0d', '\x20', '\x85', '\xa0'].contains c

def digitValue (c : Char) : Option Nat :=
  if '0' ≤ c ∧ c ≤ '9' then some (c.toNat - 48)
  else if 'a' ≤ c ∧ c ≤ 'f' then some (c.toNat - 87)
  else if 'A' ≤ c ∧ c ≤ 'F' then some (c.toNat - 55)
  else none

/-- The value of digits, the most significant one first, after digits of the value `n`. -/
def value (n : Nat) (ds : List Nat) : Nat := ds.foldl (fun n d => 16 * n + d) n

/-! ## Reading -/

/-- Digits after digits of the value `n`, and what follows them. -/
def digitsFrom (n : Nat) : List Char → Option (Nat × List Char)
  | []               => some (n, [])
  | '_' :: c :: rest => (digitValue c).bind fun d => digitsFrom (16 * n + d) rest
  | c :: rest        =>
      match digitValue c with
      | some d => digitsFrom (16 * n + d) rest
      | none   => if c = '_' then none else some (n, c :: rest)

/-- The prefix `0x`, with the underscore that may follow it. -/
def dropPrefix : List Char → List Char
  | '0' :: x :: rest =>
      if x = 'x' ∨ x = 'X' then
        match rest with
        | '_' :: rest => rest
        | rest        => rest
      else '0' :: x :: rest
  | cs => cs

/-- A numeral without a sign, and white space after it. -/
def toNat (cs : List Char) : Option Nat :=
  match dropPrefix cs with
  | []        => none
  | c :: rest => (digitValue c).bind fun d =>
      (digitsFrom d rest).bind fun (n, rest) => if rest.all isBlank then some n else none

/-- `int(text, 16)` -/
def toInt (cs : List Char) : Option Int :=
  match cs.dropWhile isBlank with
  | '-' :: rest => (toNat rest).map fun n => -(n : Int)
  | '+' :: rest => (toNat rest).map (↑)
  | rest        => (toNat rest).map (↑)

section

variable {cs : List Char} {ds : List Nat}

/-- A digit is none of the characters that are read in another way. -/
theorem not_digit {c : Char} {d : Nat} (h : digitValue c = some d) :
    isBlank c = false ∧ c ≠ '-' ∧ c ≠ '+' ∧ c ≠ '_' ∧ c ≠ 'x' ∧ c ≠ 'X' := by
  have hnone : ∀ c ∈ ['\x09', '\x0a', '\x0b', '\x0c', '\x0d', '\x20', '\x85', '\xa0', '-', '+',
      '_', 'x', 'X'],
      digitValue c = none := by simp [digitValue]
  have hnot : c ∉ ['\x09', '\x0a', '\x0b', '\x0c', '\x0d', '\x20', '\x85', '\xa0', '-', '+', '_',
      'x', 'X'] := by
    intro hc
    rw [hnone c hc] at h
    cases h
  simp only [List.mem_cons, List.not_mem_nil, or_false, not_or] at hnot
  simp [isBlank, hnot]

/-- A digit shifts what has been read by one place. -/
theorem digitsFrom_cons {c : Char} {d : Nat} (h : digitValue c = some d) (n : Nat) (rest : List Char) :
    digitsFrom n (c :: rest) = digitsFrom (16 * n + d) rest := by
  have hc := (not_digit h).2.2.2.1
  rw [digitsFrom, h]
  intro _ _ hunderscore _
  exact hc hunderscore

/-- A text of digits is read to its end. -/
theorem digitsFrom_digits (h : cs.mapM digitValue = some ds) (n : Nat) :
    digitsFrom n cs = some (value n ds, []) := by
  induction cs generalizing ds n with
  | nil =>
    obtain rfl : [] = ds := Option.some.inj h
    rfl
  | cons c cs ih =>
    rw [List.mapM_cons] at h
    obtain ⟨d, hd, h⟩ := Option.bind_eq_some_iff.mp h
    obtain ⟨ds', hds, h⟩ := Option.bind_eq_some_iff.mp h
    obtain rfl : d :: ds' = ds := Option.some.inj h
    rw [digitsFrom_cons hd, ih hds]
    rfl

/-- A text of digits is no prefix. -/
theorem dropPrefix_digits (h : cs.mapM digitValue = some ds) : dropPrefix cs = cs := by
  unfold dropPrefix
  split
  · rename_i x rest
    rw [List.mapM_cons, List.mapM_cons] at h
    obtain ⟨_, -, h⟩ := Option.bind_eq_some_iff.mp h
    obtain ⟨_, h, -⟩ := Option.bind_eq_some_iff.mp h
    obtain ⟨_, hx, -⟩ := Option.bind_eq_some_iff.mp h
    obtain ⟨-, -, -, -, hlower, hupper⟩ := not_digit hx
    rw [if_neg (not_or.mpr ⟨hlower, hupper⟩)]
  · rfl

/-- **A text of digits is read as its value.** -/
theorem toInt_of_digits (h : cs.mapM digitValue = some ds) (hne : cs ≠ []) :
    toInt cs = some ((value 0 ds : Nat) : Int) := by
  cases cs with
  | nil => exact absurd rfl hne
  | cons c cs =>
    have hdropped := dropPrefix_digits h
    rw [List.mapM_cons] at h
    obtain ⟨d, hd, h⟩ := Option.bind_eq_some_iff.mp h
    obtain ⟨ds', hds, h⟩ := Option.bind_eq_some_iff.mp h
    obtain rfl : d :: ds' = ds := Option.some.inj h
    obtain ⟨hblank, hminus, hplus, -⟩ := not_digit hd
    have hnat : toNat (c :: cs) = some (value 0 (d :: ds')) := by
      unfold toNat
      rw [hdropped]
      simp only [hd, Option.bind_some, digitsFrom_digits hds]
      simp [value]
    unfold toInt
    rw [List.dropWhile_cons_of_neg (by simp [hblank])]
    split
    · rename_i hcons
      exact absurd (List.cons.inj hcons).1 hminus
    · rename_i hcons
      exact absurd (List.cons.inj hcons).1 hplus
    · rw [hnat]
      rfl

/-! ## Values -/

/-- Reading goes on from the value so far, -/
theorem value_append (n : Nat) (ds es : List Nat) : value n (ds ++ es) = value (value n ds) es :=
  List.foldl_append

/-- and leading zeros have no value. -/
theorem value_zeros (k : Nat) (ds : List Nat) : value 0 (List.replicate k 0 ++ ds) = value 0 ds := by
  induction k with
  | zero => rfl
  | succ k ih =>
    rw [List.replicate_succ]
    exact ih

/-! ## Writing -/

/-- `'%0{width}x' % n` -/
def padded (width n : Nat) : List Char := (Nat.toDigits 16 n).leftpad width '0'

def lowerDigits : List Char :=
  ['0', '1', '2', '3', '4', '5', '6', '7', '8', '9', 'a', 'b', 'c', 'd', 'e', 'f']

/-- A printed digit has its value, and is a lower-case one. -/
theorem digitValue_digitChar : ∀ d < 16, digitValue (Nat.digitChar d) = some d := by decide

theorem digitChar_mem : ∀ d < 16, Nat.digitChar d ∈ lowerDigits := by decide

/-- Induction over the digits a number is written in. -/
theorem toDigits_induction {P : Nat → List Char → Prop} (hlast : ∀ d < 16, P d [Nat.digitChar d])
    (hmore : ∀ n, ∀ d < 16, P n (Nat.toDigits 16 n) → P (16 * n + d) (Nat.toDigits 16 n ++ [Nat.digitChar d]))
    (n : Nat) : P n (Nat.toDigits 16 n) := by
  induction n using Nat.strongRecOn with
  | ind n ih =>
    rw [Nat.toDigits_eq_if (by omega)]
    split
    · rename_i hlt
      exact hlast n hlt
    · have hn : 16 * (n / 16) + n % 16 = n := by omega
      have hdiv := hmore (n / 16) (n % 16) (by omega) (ih (n / 16) (by omega))
      rwa [hn] at hdiv

/-- Printed digits are digits, and their value is the number. -/
theorem digits_toDigits (n : Nat) : ∃ ds, (Nat.toDigits 16 n).mapM digitValue = some ds ∧ value 0 ds = n := by
  apply toDigits_induction (P := fun n cs => ∃ ds, cs.mapM digitValue = some ds ∧ value 0 ds = n)
  · intro d hd
    exact ⟨[d], by simp [digitValue_digitChar d hd], by simp [value]⟩
  · rintro n d hd ⟨ds, hds, hvalue⟩
    refine ⟨ds ++ [d], by simp [List.mapM_append, hds, digitValue_digitChar d hd], ?_⟩
    rw [value_append, hvalue]
    rfl

theorem mem_toDigits {c : Char} {n : Nat} (h : c ∈ Nat.toDigits 16 n) : c ∈ lowerDigits := by
  revert h
  apply toDigits_induction (P := fun _ cs => c ∈ cs → c ∈ lowerDigits)
  · intro d hd hc
    exact List.mem_singleton.mp hc ▸ digitChar_mem d hd
  · intro n d hd ih hc
    rcases List.mem_append.mp hc with hc | hc
    · exact ih hc
    · exact List.mem_singleton.mp hc ▸ digitChar_mem d hd

theorem mem_padded {c : Char} {width n : Nat} (h : c ∈ padded width n) : c ∈ lowerDigits := by
  rcases List.mem_append.mp h with h | h
  · rw [List.eq_of_mem_replicate h]
    decide
  · exact mem_toDigits h

/-- A number that fits is written in exactly the width. -/
theorem length_padded {width n : Nat} (hwidth : 0 < width) (hn : n < 16 ^ width) :
    (padded width n).length = width := by
  have hlength := (Nat.length_toDigits_le_iff (by omega) hwidth).mpr hn
  simp only [padded, List.leftpad, List.length_append, List.length_replicate]
  omega

/-- So are padded ones. -/
theorem digits_padded (width n : Nat) : ∃ ds, (padded width n).mapM digitValue = some ds ∧
    value 0 ds = n := by
  obtain ⟨ds, hds, hvalue⟩ := digits_toDigits n
  have hzeros : ∀ k, (List.replicate k '0').mapM digitValue = some (List.replicate k 0) := by
    intro k
    induction k with
    | zero => rfl
    | succ k ih => simp [List.replicate_succ, List.mapM_cons, ih, show digitValue '0' = some 0 by decide]
  refine ⟨_, ?_, (value_zeros (width - (Nat.toDigits 16 n).length) ds).trans hvalue⟩
  simp [padded, List.leftpad, List.mapM_append, hzeros, hds]

/-- **What is written is read back.** -/
theorem toInt_padded (width n : Nat) : toInt (padded width n) = some (n : Int) := by
  obtain ⟨ds, hds, hvalue⟩ := digits_padded width n
  have hne : padded width n ≠ [] := by
    intro hnil
    have hdigits : Nat.toDigits 16 n = [] := (List.append_eq_nil_iff.mp hnil).2
    exact Nat.toDigits_ne_nil hdigits
  rw [toInt_of_digits hds hne, hvalue]

end

example : toInt " +0x_1f_0 ".toList = some 496 := by decide

end Hexadecimal
