import Mathlib.Data.Bool.AllAny
import HostConfig.Lib.Regex

/-!
# `Lib.YamlScalar` — plain scalars, as a YAML 1.1 safe loader types them

An unquoted scalar has no type of its own: the loader gives it the tag of the first implicit resolver that
matches it, and is a string only when none does. `resolvers` is PyYAML's table, in its order, each with the
characters a scalar must start with to be tried; `construct` is the value a tag gives, if it gives one: a
date must be one of the calendar, and for two tags, `<<` and `=`, a safe loader has no scalar constructor; as
a mapping key, `=` is a string.

`plainValue` and `plainKey` say which text on a line is one plain scalar, as a value and in front of a
colon; a text that is not (it is quoted, starts with an indicator, ends in a space, contains `: ` or ` #`)
is either no scalar or one with another text. `quotedScalar` is the string in quotes. `bare` is text that
starts no notation but that of plain scalars, whether or not it is one.
-/

namespace Yaml

open Regex

/-- A loaded value. A float keeps its text, and so does a value of a type that is not listed (a date); a
    mapping has the pairs of its node, in order. -/
inductive Value
  | null
  | bool (b : Bool)
  | int (z : Int)
  | float (text : String)
  | other (text : String)
  | str (s : String)
  | seq (items : List Value)
  | map (entries : List (Value × Value))

inductive Tag
  | bool | float | int | merge | null | timestamp | value | str
deriving DecidableEq

/-! ## Implicit resolvers -/

def digits : List Char := ['0', '1', '2', '3', '4', '5', '6', '7', '8', '9']
def nonzeroDigits : List Char := ['1', '2', '3', '4', '5', '6', '7', '8', '9']
def hexDigits : List Char := digits ++ ['a', 'b', 'c', 'd', 'e', 'f', 'A', 'B', 'C', 'D', 'E', 'F']

/-- `[-+]?` -/
def sign : RegularExpression Char := opt (oneOf ['-', '+'])

/-- `[0-9]` -/
def digit : RegularExpression Char := oneOf digits

/-- `[0-9_]*` -/
def digitsOrUnderscores : RegularExpression Char := .star (oneOf ('_' :: digits))

/-- `(?::[0-5]?[0-9])+` -/
def sexagesimalPlaces : RegularExpression Char :=
  many1 (.char ':' * (opt (oneOf ['0', '1', '2', '3', '4', '5']) * digit))

/-- `(?:[eE][-+][0-9]+)?` -/
def exponent : RegularExpression Char := opt (oneOf ['e', 'E'] * (oneOf ['-', '+'] * many1 digit))

def boolWords : List (List Char) :=
  [['y', 'e', 's'], ['Y', 'e', 's'], ['Y', 'E', 'S'], ['n', 'o'], ['N', 'o'], ['N', 'O'],
   ['t', 'r', 'u', 'e'], ['T', 'r', 'u', 'e'], ['T', 'R', 'U', 'E'],
   ['f', 'a', 'l', 's', 'e'], ['F', 'a', 'l', 's', 'e'], ['F', 'A', 'L', 'S', 'E'],
   ['o', 'n'], ['O', 'n'], ['O', 'N'], ['o', 'f', 'f'], ['O', 'f', 'f'], ['O', 'F', 'F']]

def boolRe : RegularExpression Char := anyOf (boolWords.map lit)

def floatRe : RegularExpression Char := anyOf
  [sign * (digit * (digitsOrUnderscores * (.char '.' * (digitsOrUnderscores * exponent)))),
   .char '.' * (digit * (digitsOrUnderscores * exponent)),
   sign * (digit * (digitsOrUnderscores * (sexagesimalPlaces * (.char '.' * digitsOrUnderscores)))),
   sign * (.char '.' * anyOf [lit ['i', 'n', 'f'], lit ['I', 'n', 'f'], lit ['I', 'N', 'F']]),
   .char '.' * anyOf [lit ['n', 'a', 'n'], lit ['N', 'a', 'N'], lit ['N', 'A', 'N']]]

/-- `0|[1-9][0-9_]*` -/
def decimalRe : RegularExpression Char := .char '0' + oneOf nonzeroDigits * digitsOrUnderscores

def intRe : RegularExpression Char := anyOf
  [sign * (lit ['0', 'b'] * many1 (oneOf ['0', '1', '_'])),
   sign * (.char '0' * many1 (oneOf ['0', '1', '2', '3', '4', '5', '6', '7', '_'])),
   sign * decimalRe,
   sign * (lit ['0', 'x'] * many1 (oneOf ('_' :: hexDigits))),
   sign * (oneOf nonzeroDigits * (digitsOrUnderscores * sexagesimalPlaces))]

def nullRe : RegularExpression Char :=
  anyOf [lit ['~'], lit ['n', 'u', 'l', 'l'], lit ['N', 'u', 'l', 'l'], lit ['N', 'U', 'L', 'L']]

/-- `(?:[ \t]*(?:Z|[-+][0-9][0-9]?(?::[0-9][0-9])?))?` -/
def timeZone : RegularExpression Char :=
  opt (.star (oneOf [' ', '\t']) *
    (.char 'Z' + oneOf ['-', '+'] * (digit * (opt digit * opt (.char ':' * times 2 digit)))))

def timestampRe : RegularExpression Char := anyOf
  [times 4 digit * (.char '-' * (times 2 digit * (.char '-' * times 2 digit))),
   times 4 digit * (.char '-' * (digit * (opt digit * (.char '-' * (digit * (opt digit *
     ((oneOf ['T', 't'] + many1 (oneOf [' ', '\t'])) * (digit * (opt digit *
       (.char ':' * (times 2 digit * (.char ':' * (times 2 digit *
         (opt (.char '.' * .star digit) * timeZone))))))))))))))]

/-- An entry of the table: the tag, the first characters it is tried for, the pattern. -/
structure Resolver where
  tag : Tag
  first : List Char
  re : RegularExpression Char

/-- The resolvers, in the order they are tried. -/
def resolvers : List Resolver :=
  [⟨.bool, ['y', 'Y', 'n', 'N', 't', 'T', 'f', 'F', 'o', 'O'], boolRe⟩,
   ⟨.float, ['-', '+'] ++ digits ++ ['.'], floatRe⟩,
   ⟨.int, ['-', '+'] ++ digits, intRe⟩,
   ⟨.merge, ['<'], lit ['<', '<']⟩,
   ⟨.null, ['~', 'n', 'N'], nullRe⟩,
   ⟨.timestamp, digits, timestampRe⟩,
   ⟨.value, ['='], lit ['=']⟩]

def Resolver.matches (r : Resolver) (cs : List Char) : Bool := cs.head?.any (· ∈ r.first) && r.re.rmatch cs

/-- The tag of a plain scalar. -/
def resolve (cs : List Char) : Tag := ((resolvers.find? (·.matches cs)).map (·.tag)).getD .str

/-! ## Construction -/

def digitValue (c : Char) : Nat :=
  if c.isDigit then c.toNat - '0'.toNat
  else if 'a' ≤ c then c.toNat - 'a'.toNat + 10
  else c.toNat - 'A'.toNat + 10

/-- `int(text, base)` on digits of the base: an empty text is rejected. -/
def numeral (base : Nat) (ds : List Char) : Option Nat :=
  if ds = [] then none else some (ds.foldl (fun n c => base * n + digitValue c) 0)

/-- The value of an integer scalar without sign and underscores. -/
def constructNat : List Char → Option Nat
  | ['0']            => some 0
  | '0' :: 'b' :: ds => numeral 2 ds
  | '0' :: 'x' :: ds => numeral 16 ds
  | '0' :: ds        => numeral 8 ('0' :: ds)
  | ds               =>
      if ':' ∈ ds then ((ds.splitOn ':').mapM (numeral 10)).map (·.foldl (fun n d => 60 * n + d) 0)
      else numeral 10 ds

def constructInt (cs : List Char) : Option Int :=
  match cs.filter (· ≠ '_') with
  | '-' :: ds => (constructNat ds).map (fun n => -(n : Int))
  | '+' :: ds => (constructNat ds).map (fun n => (n : Int))
  | ds        => (constructNat ds).map (fun n => (n : Int))

/-- The numbers written in the text. -/
def numerals (cs : List Char) : List Nat := (cs.splitOnP (!·.isDigit)).filterMap (numeral 10)

def daysIn (year month : Nat) : Nat :=
  if month = 2 then (if year % 4 = 0 ∧ (year % 100 = 0 → year % 400 = 0) then 29 else 28)
  else if month ∈ [4, 6, 9, 11] then 30 else 31

/-- A day of the calendar; `datetime` begins with the year 1. -/
def validDate : List Nat → Bool
  | [year, month, day] => 1 ≤ year && 1 ≤ month && month ≤ 12 && 1 ≤ day && day ≤ daysIn year month
  | _                  => false

/-- A time of day, if one is given. -/
def validTime : List Nat → Bool
  | []                     => true
  | [hour, minute, second] => hour < 24 && minute < 60 && second < 60
  | _                      => false

/-- An offset from UTC, if one is given, is less than a day. -/
def validOffset : List Nat → Bool
  | []             => true
  | [hour]         => hour < 24
  | [hour, minute] => hour * 60 + minute < 24 * 60
  | _              => false

/-- The numbers of a time stamp, behind its date those of the time up to the fraction and of the offset,
    are in range. -/
def validTimestamp (cs : List Char) : Bool :=
  let rest := cs.dropWhile (fun c => c.isDigit || c = '-')
  validDate (numerals (cs.takeWhile fun c => c.isDigit || c = '-')) &&
    validTime (numerals (rest.takeWhile (· ∉ ['.', '+', '-']))) &&
    validOffset (numerals (rest.dropWhile (· ∉ ['+', '-'])))

/-- The value of a plain scalar with this tag. Python converts no numeral of more than 4300 digits, and no
    power of 60 from the 174th on to a float. -/
def construct (tag : Tag) (cs : List Char) : Option Value :=
  match tag with
  | .null      => some .null
  | .bool      => some (.bool (cs.map Char.toLower ∈ [['y', 'e', 's'], ['t', 'r', 'u', 'e'], ['o', 'n']]))
  | .int       => if cs.length ≤ 4300 then (constructInt cs).map .int else none
  | .float     => if cs.count ':' < 174 then some (.float (String.ofList cs)) else none
  | .timestamp => if validTimestamp cs then some (.other (String.ofList cs)) else none
  | .str       => some (.str (String.ofList cs))
  | .merge | .value => none

/-! ## Plain scalars on a line -/

/-- The characters that end a line. -/
def breaks : List Char := ['\n', '\r', '\u0085', '\u2028', '\u2029']

def isBreak : Char → Bool := breaks.contains

/-- White space, by which a line may be indented, and what ends one. -/
def isWhite (c : Char) : Bool := c = ' ' || c = '\t' || isBreak c

theorem isWhite_of_isBreak (c : Char) (h : isBreak c = true) : isWhite c = true := by simp [isWhite, h]

/-- The characters a line may have: the printable ones, without the tab and the line breaks. -/
def inlineChar (c : Char) : Bool :=
  let n := c.toNat
  (0x20 ≤ n && n ≤ 0x7e) || (0xa0 ≤ n && n ≤ 0xd7ff && n ≠ 0x2028 && n ≠ 0x2029) ||
    (0xe000 ≤ n && n ≤ 0xfffd) || 0x10000 ≤ n

/-- A comment starts at a `#` that stands first or after a space. -/
def hasComment : Char → List Char → Bool
  | _,    []      => false
  | prev, c :: cs => (c = '#' && prev = ' ') || hasComment c cs

/-- `: ` occurs. -/
def colonSpace : List Char → Bool
  | []      => false
  | c :: cs => (c = ':' && cs.head? = some ' ') || colonSpace cs

/-- The text starts a plain scalar: not with an indicator, except `-`, `?` or `:` in front of a character. -/
def plainStart : List Char → Bool
  | []      => false
  | c :: cs =>
      if c ∈ ['-', '?', ':'] then cs.head?.any (· ≠ ' ')
      else c ∉ [' ', ',', '[', ']', '{', '}', '#', '&', '*', '!', '|', '>', '\'', '"', '%', '@', '`']

def plainBody (cs : List Char) : Bool :=
  cs.all inlineChar && !hasComment ' ' cs && !colonSpace cs && cs.getLast? ≠ some ' '

/-- The rest of a line is this plain scalar. -/
def plainValue (cs : List Char) : Bool := plainStart cs && plainBody cs && cs.getLast? ≠ some ':'

/-- The text in front of a colon is this plain scalar; a key that needs no `?` has at most 1024 characters. -/
def plainKey (cs : List Char) : Bool := plainStart (cs ++ [':']) && plainBody cs && cs.length ≤ 1024

/-- The value of a plain scalar. -/
def scalar (cs : List Char) : Option Value := if plainValue cs then construct (resolve cs) cs else none

/-- The tag of a mapping key: a key `=` is a string. -/
def resolveKey (cs : List Char) : Tag := if resolve cs = .value then .str else resolve cs

/-- The value of a plain mapping key. -/
def key (cs : List Char) : Option Value := if plainKey cs then construct (resolveKey cs) cs else none

/-- The string, written without quotes as a value, is read as itself. -/
def PlainString (s : String) : Prop := plainValue s.toList = true ∧ resolve s.toList = .str

/-- The string, written without quotes as a key, is read as itself. -/
def PlainKey (s : String) : Prop := plainKey s.toList = true ∧ resolveKey s.toList = .str

instance (s : String) : Decidable (PlainString s) := inferInstanceAs (Decidable (_ ∧ _))

instance (s : String) : Decidable (PlainKey s) := inferInstanceAs (Decidable (_ ∧ _))

/-! ## Quoted scalars on a line -/

/-- The text up to the closing single quote, which ends the line; two single quotes are one. -/
def singleQuoted : List Char → Option (List Char)
  | []                 => none
  | ['\'']             => some []
  | '\'' :: '\'' :: cs => (singleQuoted cs).map ('\'' :: ·)
  | c :: cs            => if c = '\'' then none else (singleQuoted cs).map (c :: ·)

/-- The characters that have an escape of one letter, by the letter. -/
def escapes : List (Char × Char) :=
  [('0', '\x00'), ('a', '\x07'), ('b', '\x08'), ('t', '\t'), ('n', '\n'), ('v', '\x0b'),
    ('f', '\x0c'), ('r', '\r'),
   ('e', '\x1b'), (' ', ' '), ('"', '"'), ('\\', '\\'), ('/', '/'), ('N', '\u0085'), ('_', '\u00a0'),
   ('L', '\u2028'), ('P', '\u2029')]

/-- The text up to the closing double quote, which ends the line. Escapes by a code point are left out. -/
def doubleQuoted : List Char → Option (List Char)
  | []              => none
  | ['"']           => some []
  | '\\' :: c :: cs => do return (← escapes.lookup c) :: (← doubleQuoted cs)
  | c :: cs         => if c = '"' || c = '\\' then none else (doubleQuoted cs).map (c :: ·)

/-- The string of a quoted scalar. -/
def quotedScalar : List Char → Option String
  | '\'' :: cs => (singleQuoted cs).map String.ofList
  | '"' :: cs  => (doubleQuoted cs).map String.ofList
  | _          => none

example : quotedScalar ['"', 'a', '\\', '"', 'b', '"'] = some "a\"b" := by decide

/-! ## Text in which every scalar is plain -/

/-- The characters that start another notation: quoted and block scalars, flow collections, anchors,
    aliases, tags and complex keys. -/
def openers : List Char := ['"', '\'', '[', '{', '&', '*', '!', '|', '>', '?']

/-- One of them stands where a token can start: first on a line, or after a space. -/
def opens : Char → List Char → Bool
  | _,    []      => false
  | prev, c :: cs => (c ∈ openers && (prev = ' ' || prev = '\n')) || opens c cs

/-- What text on one line has none of: line breaks, tabs and byte order marks. -/
def barred : List Char := '\t' :: '\ufeff' :: breaks

/-- The text stays on its line and starts no notation but that of plain scalars. -/
def bare (cs : List Char) : Bool := cs.all (· ∉ barred) && !opens ' ' cs

/-- Every scalar of the text is plain, though some may go over several lines. -/
def allPlain (text : List Char) : Bool := text.all (fun c => c = '\n' || c ∉ barred) && !opens '\n' text

/-- The string is bare. -/
def Bare (s : String) : Prop := bare s.toList = true

instance (s : String) : Decidable (Bare s) := inferInstanceAs (Decidable (_ = true))

/-- What stands after another character opens no more than after a space. -/
theorem opens_of_space {prev : Char} {cs : List Char} (h : opens ' ' cs = false) : opens prev cs = false := by
  cases cs with
  | nil => rfl
  | cons c cs =>
      rw [opens, Bool.or_eq_false_iff] at h ⊢
      refine ⟨?_, h.2⟩
      rw [Bool.and_eq_false_iff] at h ⊢
      exact .inl (h.1.resolve_right (by decide))

/-- An opener stands in one of the two parts; the second one needs to know what stands before it. -/
theorem opens_append (prev : Char) (a b : List Char) :
    opens prev (a ++ b) = (opens prev a || opens (a.getLastD prev) b) := by
  induction a generalizing prev with
  | nil => rw [List.nil_append, opens, Bool.false_or]; rfl
  | cons c a ih =>
      rw [List.cons_append, opens, ih, opens, Bool.or_assoc]
      cases a <;> rfl

/-- A bare text holds no barred character and opens nothing, -/
theorem bare_iff {cs : List Char} : bare cs = true ↔ (∀ c ∈ cs, c ∉ barred) ∧ opens ' ' cs = false := by
  simp [bare]

/-- and a text of several lines is made of bare ones. -/
theorem allPlain_iff {text : List Char} :
    allPlain text = true ↔ (∀ c ∈ text, c = '\n' ∨ c ∉ barred) ∧ opens '\n' text = false := by
  simp [allPlain]

/-- Bare text behind bare text is bare. -/
theorem bare_append {a b : List Char} (ha : bare a = true) (hb : bare b = true) : bare (a ++ b) = true := by
  rw [bare_iff] at ha hb ⊢
  refine ⟨fun c hc => (List.mem_append.mp hc).elim (ha.1 c) (hb.1 c), ?_⟩
  rw [opens_append, ha.2, opens_of_space hb.2]
  rfl

/-- Text without any of the characters in question. -/
theorem bare_of_notMem {cs : List Char} (h : ∀ c ∈ cs, c ∉ openers ∧ c ∉ barred) : bare cs = true := by
  refine bare_iff.mpr ⟨fun c hc => (h c hc).2, ?_⟩
  have hopens : ∀ prev, opens prev cs = false := by
    induction cs with
    | nil => exact fun prev => rfl
    | cons c cs ih =>
        intro prev
        obtain ⟨hc, hcs⟩ := List.forall_mem_cons.mp h
        rw [opens, decide_eq_false hc.1, Bool.false_and, Bool.false_or, ih hcs]
  exact hopens ' '

/-- **Lines of bare text make text in which every scalar is plain.** -/
theorem allPlain_lines {β : Type} {f : β → List Char} {l : List β} (h : ∀ b ∈ l, bare (f b) = true) :
    allPlain (l.flatMap fun b => f b ++ ['\n']) = true := by
  refine allPlain_iff.mpr ⟨fun c hc => ?_, ?_⟩
  · obtain ⟨b, hb, hc⟩ := List.mem_flatMap.mp hc
    rcases List.mem_append.mp hc with hc | hc
    · exact .inr ((bare_iff.mp (h b hb)).1 c hc)
    · exact .inl (List.mem_singleton.mp hc)
  · have hopens : ∀ prev, opens prev (l.flatMap fun b => f b ++ ['\n']) = false := by
      induction l with
      | nil => exact fun prev => rfl
      | cons b l ih =>
          intro prev
          obtain ⟨hb, hl⟩ := List.forall_mem_cons.mp h
          have hline : opens prev (f b) = false := opens_of_space (bare_iff.mp hb).2
          have hbreak : ∀ c, opens c ['\n'] = false := fun c => by
            rw [opens, decide_eq_false (by decide : '\n' ∉ openers)]
            rfl
          rw [List.flatMap_cons, opens_append, opens_append, hline, hbreak, ih hl]
          rfl
    exact hopens '\n'

/-! ## What is read as a string -/

/-- A string that a plain scalar can spell reads as itself, -/
theorem scalar_of_plainString {s : String} (h : PlainString s) : scalar s.toList = some (.str s) := by
  rw [scalar, if_pos h.1, h.2, construct, String.ofList_toList]

/-- as a key, too. -/
theorem key_of_plainKey {s : String} (h : PlainKey s) : key s.toList = some (.str s) := by
  rw [key, if_pos h.1, h.2, construct, String.ofList_toList]

/-- Conversely, what reads as a scalar is written plainly. -/
theorem plainValue_of_scalar {cs : List Char} {v : Value} (h : scalar cs = some v) :
    plainValue cs = true := by
  unfold scalar at h
  split at h
  · assumption
  · cases h

/-- Only the tag `str` gives a string. -/
theorem construct_eq_str {tag : Tag} {cs : List Char} {s : String} (h : construct tag cs = some (.str s)) :
    tag = .str ∧ s = String.ofList cs := by
  cases tag with
  | str => exact ⟨rfl, (Value.str.inj (Option.some.inj h)).symm⟩
  | int =>
      rw [construct] at h
      split at h
      · obtain ⟨z, -, hz⟩ := Option.map_eq_some_iff.mp h
        cases hz
      · cases h
  | float | timestamp =>
      rw [construct] at h
      split at h <;> cases h
  | null | bool => cases h
  | merge | value => cases h

/-- **A string that comes out of a plain scalar is its text**, and a plain string. -/
theorem plainString_of_scalar {cs : List Char} {s : String} (h : scalar cs = some (.str s)) :
    PlainString s := by
  unfold scalar at h
  split at h
  · rename_i hplain
    obtain ⟨htag, rfl⟩ := construct_eq_str h
    rw [PlainString, String.toList_ofList]
    exact ⟨hplain, htag⟩
  · cases h

/-- A key that reads as a string is written plainly. -/
theorem plainKey_of_key {cs : List Char} {s : String} (h : key cs = some (.str s)) : PlainKey s := by
  unfold key at h
  split at h
  · rename_i hplain
    obtain ⟨htag, rfl⟩ := construct_eq_str h
    rw [PlainKey, String.toList_ofList]
    exact ⟨hplain, htag⟩
  · cases h

/-- Text that starts a plain scalar still does with a colon behind it. -/
theorem plainStart_append {cs : List Char} (h : plainStart cs = true) (rest : List Char) :
    plainStart (cs ++ rest) = true := by
  cases cs with
  | nil => cases h
  | cons c cs =>
      rw [plainStart] at h
      rw [List.cons_append, plainStart]
      split
      · rename_i hc
        rw [if_pos hc] at h
        cases cs with
        | nil => cases h
        | cons d cs => exact h
      · rename_i hc
        rwa [if_neg hc] at h

/-- Bare text has no line break in it. -/
theorem Bare.oneLine {s : String} (h : Bare s) : ∀ c ∈ s.toList, isBreak c = false := by
  intro c hc
  have hbarred := (bare_iff.mp h).1 c hc
  refine Bool.eq_false_iff.mpr fun hbreak => hbarred ?_
  exact List.mem_cons_of_mem _ (List.mem_cons_of_mem _ (List.contains_iff_mem.mp hbreak))

/-- A plain string is one as a key too. -/
theorem PlainString.plainKey {s : String} (h : PlainString s) (hlen : s.length ≤ 1024) : PlainKey s := by
  obtain ⟨hplain, hstr⟩ := h
  rw [plainValue, Bool.and_eq_true, Bool.and_eq_true] at hplain
  refine ⟨?_, by rw [resolveKey, hstr]; rfl⟩
  rw [Yaml.plainKey, plainStart_append hplain.1.1, hplain.1.2, String.length_toList, decide_eq_true hlen]
  rfl

/-! ## Numerals and dotted quads -/

/-- Without a hash there is no comment, -/
theorem hasComment_of_notMem {cs : List Char} (h : '#' ∉ cs) (prev : Char) : hasComment prev cs = false := by
  induction cs generalizing prev with
  | nil => rfl
  | cons c cs ih =>
      obtain ⟨hc, hcs⟩ := not_or.mp (List.mem_cons.not.mp h)
      rw [hasComment, ih hcs, decide_eq_false (Ne.symm hc)]
      rfl

/-- and without a colon no key ends. -/
theorem colonSpace_of_notMem {cs : List Char} (h : ':' ∉ cs) : colonSpace cs = false := by
  induction cs with
  | nil => rfl
  | cons c cs ih =>
      obtain ⟨hc, hcs⟩ := not_or.mp (List.mem_cons.not.mp h)
      rw [colonSpace, ih hcs, decide_eq_false (Ne.symm hc)]
      rfl

/-- The characters of numerals, dotted quads and prefixes. -/
def numericChars : List Char := digits ++ ['.', '/']

theorem mem_digits_of_isDigit {c : Char} (h : c.isDigit = true) : c ∈ digits := by
  have hrange : 48 ≤ c.toNat ∧ c.toNat < 58 := by
    rw [Char.isDigit, Bool.and_eq_true, decide_eq_true_iff, decide_eq_true_iff] at h
    exact ⟨h.1, Nat.lt_succ_of_le h.2⟩
  have htable : ∀ n < 58, 48 ≤ n → Char.ofNat n ∈ digits := by decide
  rw [← Char.ofNat_toNat c]
  exact htable c.toNat hrange.2 hrange.1

/-- Lists of characters without a common one; evaluated list by list. -/
theorem notMem_of_all {l l' : List Char} (h : l.all (· ∉ l') = true) {c : Char} (hc : c ∈ l) : c ∉ l' :=
  List.all_iff_forall_prop.mp h c hc

/-- Text of these characters is one plain scalar. -/
theorem plainValue_of_numeric {cs : List Char} (hne : cs ≠ []) (h : ∀ c ∈ cs, c ∈ numericChars) :
    plainValue cs = true := by
  have hnotMem : ∀ c, c ∉ numericChars → c ∉ cs := fun c hc hmem => hc (h c hmem)
  have hstart : plainStart cs = true := by
    cases cs with
    | nil => exact absurd rfl hne
    | cons c cs =>
        have hc := h c List.mem_cons_self
        rw [plainStart, if_neg (notMem_of_all (by decide) hc)]
        exact decide_eq_true (notMem_of_all (by decide) hc)
  have hlast : ∀ d, d ∉ numericChars → cs.getLast? ≠ some d := fun d hd hlast =>
    hnotMem d hd (List.mem_of_getLast? hlast)
  have hinline : cs.all inlineChar = true := by
    have htable : numericChars.all inlineChar = true := by decide
    exact List.all_eq_true.mpr fun c hc => List.all_eq_true.mp htable c (h c hc)
  rw [plainValue, plainBody, hstart, hinline, hasComment_of_notMem (hnotMem '#' (by decide)),
    colonSpace_of_notMem (hnotMem ':' (by decide)), decide_eq_true (hlast ' ' (by decide)),
    decide_eq_true (hlast ':' (by decide))]
  rfl

/-- A resolver is not tried for other first characters than its own. -/
theorem Resolver.matches_of_first {r : Resolver} {c : Char} {cs : List Char} (h : c ∉ r.first) :
    r.matches (c :: cs) = false := by
  rw [Resolver.matches, List.head?_cons, Option.any_some, decide_eq_false h, Bool.false_and]

/-- Nor does it match text with more of some character than its pattern allows. -/
theorem Resolver.matches_of_count {r : Resolver} {d : Char} {n : Nat} (hn : maxCount r.re d = some n)
    {cs : List Char} (h : n < cs.count d) : r.matches cs = false := by
  rw [Resolver.matches, Bool.and_eq_false_iff]
  refine .inr (Bool.eq_false_iff.mpr fun hmatch => ?_)
  exact absurd (count_le_of_rmatch hn hmatch) (Nat.not_le.mpr h)

/-- Or without a character its pattern requires. -/
theorem Resolver.matches_of_requires {r : Resolver} {d : Char} (hr : requires r.re d = true) {cs : List Char}
    (h : d ∉ cs) : r.matches cs = false := by
  rw [Resolver.matches, Bool.and_eq_false_iff]
  exact .inr (Bool.eq_false_iff.mpr fun hmatch => h (mem_of_rmatch hr hmatch))

/-- **Text that starts with a digit and has two dots is a string**: no number and no date
    has more than one. -/
theorem resolve_of_dots {c : Char} {cs : List Char} (hc : c ∈ digits) (h : 1 < (c :: cs).count '.') :
    resolve (c :: cs) = .str := by
  have hnone : resolvers.find? (·.matches (c :: cs)) = none := by
    rw [List.find?_eq_none]
    simp only [resolvers, List.forall_mem_cons, List.not_mem_nil, false_implies, implies_true, and_true,
      Bool.not_eq_true]
    refine ⟨?bool, ?float, ?int, ?merge, ?null, ?timestamp, ?value⟩
    case bool => exact Resolver.matches_of_first (notMem_of_all (by decide) hc)
    case float => exact Resolver.matches_of_count (d := '.') (n := 1) (by rfl) h
    case int => exact Resolver.matches_of_count (d := '.') (n := 0) (by rfl) (Nat.lt_trans Nat.zero_lt_one h)
    case merge => exact Resolver.matches_of_first (notMem_of_all (by decide) hc)
    case null => exact Resolver.matches_of_first (notMem_of_all (by decide) hc)
    case timestamp => exact Resolver.matches_of_count (d := '.') (n := 1) (by rfl) h
    case value => exact Resolver.matches_of_first (notMem_of_all (by decide) hc)
  rw [resolve, hnone]
  rfl

/-- A dotted quad, with or without a prefix, is read as a string. -/
theorem scalar_of_dots {c : Char} {cs : List Char} (hc : c ∈ digits) (hcs : ∀ d ∈ cs, d ∈ numericChars)
    (h : 1 < (c :: cs).count '.') : scalar (c :: cs) = some (.str (String.ofList (c :: cs))) := by
  have hall : ∀ d ∈ c :: cs, d ∈ numericChars := List.forall_mem_cons.mpr ⟨List.mem_append_left _ hc, hcs⟩
  rw [scalar, if_pos (plainValue_of_numeric (List.cons_ne_nil _ _) hall), resolve_of_dots hc h, construct]

/-- The digits of a number: a zero alone, or no leading zero. -/
theorem toDigits_cases (n : Nat) : (n = 0 ∧ Nat.toDigits 10 n = ['0']) ∨
    ∃ c cs, Nat.toDigits 10 n = c :: cs ∧ c ∈ nonzeroDigits ∧ ∀ d ∈ cs, d ∈ digits := by
  induction n using Nat.strongRecOn with
  | _ n ih =>
    by_cases hn : n < 10
    · have htable : ∀ n < 10, (n = 0 ∧ Nat.toDigits 10 n = ['0']) ∨
          Nat.toDigits 10 n ∈ nonzeroDigits.map fun c => [c] := by decide
      rcases htable n hn with h | h
      · exact .inl h
      · obtain ⟨c, hc, h⟩ := List.mem_map.mp h
        exact .inr ⟨c, [], h.symm, hc, fun d hd => absurd hd List.not_mem_nil⟩
    · -- the leading digit is that of the number without its last digit
      have heq : Nat.toDigits 10 n = Nat.toDigits 10 (n / 10) ++ [(n % 10).digitChar] := by
        rw [Nat.toDigits_eq_if (by decide), if_neg hn]
      have hlast : (n % 10).digitChar ∈ digits :=
        (by decide : ∀ k < 10, k.digitChar ∈ digits) (n % 10) (Nat.mod_lt n (by decide))
      rcases ih (n / 10) (Nat.div_lt_self (by omega) (by decide)) with ⟨hz, -⟩ | ⟨c, cs, h, hc, hcs⟩
      · omega
      · refine .inr ⟨c, cs ++ [(n % 10).digitChar], by rw [heq, h]; rfl, hc, fun d hd => ?_⟩
        rcases List.mem_append.mp hd with hd | hd
        · exact hcs d hd
        · rw [List.mem_singleton.mp hd]; exact hlast

theorem mem_toDigits {n : Nat} {c : Char} (h : c ∈ Nat.toDigits 10 n) : c ∈ digits :=
  mem_digits_of_isDigit (Nat.isDigit_of_mem_toDigits (by decide) (by decide) h)

/-- The decimal digits of a number match the resolver's pattern, -/
theorem decimalRe_toDigits (n : Nat) : Nat.toDigits 10 n ∈ decimalRe.matches' := by
  rw [decimalRe, RegularExpression.matches'_add, Language.mem_add]
  rcases toDigits_cases n with ⟨-, h⟩ | ⟨c, cs, h, hc, hcs⟩
  · rw [h]
    exact .inl (Set.mem_singleton _)
  · rw [h, RegularExpression.matches'_mul]
    refine .inr ((Language.mem_mul).mpr ⟨[c], mem_oneOf hc, cs, mem_star_oneOf fun d hd => ?_, rfl⟩)
    exact List.mem_cons_of_mem _ (hcs d hd)

/-- so that they resolve to an integer, -/
theorem resolve_toDigits (n : Nat) : resolve (Nat.toDigits 10 n) = .int := by
  obtain ⟨c, cs, h⟩ := List.exists_cons_of_ne_nil (Nat.toDigits_ne_nil (n := n) (b := 10))
  have hc : c ∈ digits := mem_toDigits (h ▸ List.mem_cons_self)
  have hdot : '.' ∉ c :: cs := fun hmem => absurd (mem_toDigits (h ▸ hmem)) (by decide)
  have hint : intRe.rmatch (c :: cs) = true := by
    rw [RegularExpression.rmatch_iff_matches', ← h]
    exact mem_anyOf (.tail _ (.tail _ (.head _))) (mem_opt_mul (decimalRe_toDigits n))
  have hbool : (Resolver.mk .bool ['y', 'Y', 'n', 'N', 't', 'T', 'f', 'F', 'o', 'O'] boolRe).matches
      (c :: cs) = false :=
    Resolver.matches_of_first (notMem_of_all (by decide) hc)
  have hfloat : (Resolver.mk .float (['-', '+'] ++ digits ++ ['.']) floatRe).matches (c :: cs) = false :=
    Resolver.matches_of_requires (d := '.') (by rfl) hdot
  have hmatch : (Resolver.mk .int (['-', '+'] ++ digits) intRe).matches (c :: cs) = true := by
    rw [Resolver.matches, List.head?_cons, Option.any_some, hint, Bool.and_true, decide_eq_true_iff]
    exact List.mem_append_right _ hc
  simp only [h, resolve, resolvers, List.find?_cons, hbool, hfloat, hmatch]
  rfl

/-- and are read back as the number. -/
theorem numeral_toDigits (n : Nat) : numeral 10 (Nat.toDigits 10 n) = some n := by
  have hfold : ∀ (cs : List Char) (m : Nat), (∀ c ∈ cs, c ∈ digits) →
      cs.foldl (fun n c => 10 * n + digitValue c) m = Nat.ofDigitChars 10 cs m := by
    intro cs
    induction cs with
    | nil => exact fun m _ => Nat.ofDigitChars_nil.symm
    | cons c cs ih =>
        intro m hcs
        obtain ⟨hc, hcs⟩ := List.forall_mem_cons.mp hcs
        have htable : digits.all (fun c => digitValue c = c.toNat - '0'.toNat) = true := by decide
        have hvalue : digitValue c = c.toNat - '0'.toNat := List.all_iff_forall_prop.mp htable c hc
        rw [List.foldl_cons, Nat.ofDigitChars_cons, hvalue, ih _ hcs]
  rw [numeral, if_neg Nat.toDigits_ne_nil, hfold _ _ fun c hc =>
    mem_toDigits hc, Nat.ofDigitChars_ten_toDigits]

/-- The constructor agrees: as a natural number -/
theorem constructNat_toDigits (n : Nat) : constructNat (Nat.toDigits 10 n) = some n := by
  rcases toDigits_cases n with ⟨rfl, h⟩ | ⟨c, cs, h, hc, -⟩
  · rw [h]; rfl
  · have hcolon : ':' ∉ Nat.toDigits 10 n := fun hmem => absurd (mem_toDigits hmem) (by decide)
    have hzero : c ≠ '0' := fun hc0 => absurd (hc0 ▸ hc) (by decide)
    rw [h] at hcolon
    have hnumeral : constructNat (c :: cs) = numeral 10 (c :: cs) := by
      unfold constructNat
      split
      case h_5 => exact if_neg hcolon
      all_goals
        rename_i heq
        exact absurd (List.cons.inj heq).1 hzero
    rw [h, hnumeral, ← h, numeral_toDigits]

/-- and as an integer. -/
theorem constructInt_toDigits (n : Nat) : constructInt (Nat.toDigits 10 n) = some (n : Int) := by
  have hfilter : (Nat.toDigits 10 n).filter (· ≠ '_') = Nat.toDigits 10 n := by
    have htable : digits.all (· ≠ '_') = true := by decide
    exact List.filter_eq_self.mpr fun c hc => List.all_eq_true.mp htable c (mem_toDigits hc)
  unfold constructInt
  rw [hfilter]
  split
  · rename_i heq
    exact absurd (mem_toDigits (heq ▸ List.mem_cons_self)) (by decide)
  · rename_i heq
    exact absurd (mem_toDigits (heq ▸ List.mem_cons_self)) (by decide)
  · rw [constructNat_toDigits]; rfl

/-- **A decimal numeral is read as its number.** -/
theorem scalar_toDigits {n : Nat} (h : n < 10 ^ 5) : scalar (Nat.toDigits 10 n) = some (.int n) := by
  have hplain : plainValue (Nat.toDigits 10 n) = true :=
    plainValue_of_numeric Nat.toDigits_ne_nil fun c hc => List.mem_append_left _ (mem_toDigits hc)
  have hlength : (Nat.toDigits 10 n).length ≤ 4300 :=
    Nat.le_trans ((Nat.length_toDigits_le_iff (by decide) (by decide)).mpr h) (by decide)
  rw [scalar, if_pos hplain, resolve_toDigits, construct, if_pos hlength, constructInt_toDigits]
  rfl

end Yaml
