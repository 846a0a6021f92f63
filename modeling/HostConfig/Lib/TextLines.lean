import Mathlib.Data.List.Basic

/-!
# `Lib.TextLines` — the lines of a text, and what starts in column 0

A text is a list of characters. A line ends at a line break (`brk`, a parameter: a format may have several),
and starts in column 0 when its first character is not white space (`sp`, another; line breaks are white
space, and blank lines start nowhere). `column0` is additive over the pieces of a text that end in a line
break.

A value that is written into the middle of a line adds lines to the text when it contains a line break. The
lines it adds stay out of column 0 exactly when it is `contained`: no line break is followed by a character
that is not white space (`later_eq_nil_iff`).

`fromLine` is the text from the first line that is a given one. Lines before it that are others do not
matter to it (`fromLine_pieces`).
-/

namespace TextLines

variable {brk sp : Char → Bool}

/-- The line starts in column 0. -/
def starts (sp : Char → Bool) (l : List Char) : Bool := l.head?.any (fun c => !sp c)

/-- The lines that start in column 0, in order. -/
def column0 (brk sp : Char → Bool) (text : List Char) : List (List Char) :=
  (text.splitOnP brk).filter (starts sp)

/-- Those of them that are not the first line of the text. -/
def later (brk sp : Char → Bool) (text : List Char) : List (List Char) :=
  (text.splitOnP brk).tail.filter (starts sp)

/-- The text stays on its line. -/
def NoBreak (brk : Char → Bool) (text : List Char) : Prop := ∀ c ∈ text, brk c = false

instance (text : List Char) : Decidable (NoBreak brk text) := List.decidableBAll (fun c => brk c = false) text

/-- No line break is directly followed by a character that is not white space. -/
def contained (brk sp : Char → Bool) : List Char → Bool
  | []        => true
  | c :: rest => (!brk c || rest.head?.all sp) && contained brk sp rest

@[simp] theorem contained_nil : contained brk sp [] = true := rfl

/-- A piece that is ended by its separator is followed by an empty one. -/
theorem splitOn_ended {a : Char} {piece : List Char} (h : a ∉ piece) :
    (piece ++ a :: []).splitOn a = [piece, []] := by
  rw [List.splitOn_append_cons_self_of_not_mem h, List.splitOn_nil]

/-! ## Texts without a line break -/

theorem noBreak_append {a b : List Char} : NoBreak brk (a ++ b) ↔ NoBreak brk a ∧ NoBreak brk b := by
  simp only [NoBreak, List.forall_mem_append]

theorem noBreak_cons {c : Char} {text : List Char} : NoBreak brk (c :: text) ↔
    brk c = false ∧ NoBreak brk text := by
  simp only [NoBreak, List.forall_mem_cons]

/-- A string literal has no line break: `hs` is the conversion of the literal, so that the characters are
    compared one by one and the literal is not decoded. -/
theorem noBreak_of_ofList {s : String} {cs : List Char} (hs : s = String.ofList cs)
    (h : cs.all (fun c => !brk c) = true) : NoBreak brk s.toList := by
  rw [hs, String.toList_ofList]
  intro c hc
  simpa using List.all_eq_true.mp h c hc

/-- The breaks are the characters of a list, and none of them occurs in the text. -/
theorem noBreak_of_forall {breaks : List Char} {text : List Char} (h : ∀ b ∈ breaks, b ∉ text) :
    NoBreak breaks.contains text := by
  intro c hc
  rw [List.contains_eq_mem, decide_eq_false_iff_not]
  intro hmem
  exact h c hmem hc

theorem contained_of_noBreak {cs : List Char} (h : NoBreak brk cs) : contained brk sp cs = true := by
  induction cs with
  | nil => rfl
  | cons c cs ih =>
    obtain ⟨hc, hcs⟩ := noBreak_cons.mp h
    rw [contained, ih hcs, hc]
    rfl

/-! ## Containment -/

/-- Text without a line break in front changes nothing. -/
theorem contained_append_of_noBreak {cs : List Char} (h : NoBreak brk cs) (rest : List Char) :
    contained brk sp (cs ++ rest) = contained brk sp rest := by
  induction cs with
  | nil => rfl
  | cons c cs ih =>
    obtain ⟨hc, hcs⟩ := noBreak_cons.mp h
    rw [List.cons_append, contained, ih hcs, hc]
    rfl

/-- A text is contained when its two halves are, the first one up to the first character of the second. -/
theorem contained_append_cons (cs : List Char) (c : Char) (rest : List Char) :
    contained brk sp (cs ++ c :: rest) = (contained brk sp (cs ++ [c]) && contained brk sp (c :: rest)) := by
  induction cs with
  | nil => simp [contained]
  | cons d cs ih =>
    have hhead : (cs ++ c :: rest).head? = (cs ++ [c]).head? := by cases cs <;> rfl
    rw [List.cons_append, List.cons_append, contained, contained, ih, hhead, Bool.and_assoc]

/-- What is contained in front of one more character is contained in front of white space. -/
theorem contained_snoc_sp {cs : List Char} {c d : Char} (hd : sp d = true)
    (h : contained brk sp (cs ++ [c]) = true) : contained brk sp (cs ++ [d]) = true := by
  induction cs with
  | nil => simp [contained]
  | cons e cs ih =>
    rw [List.cons_append, contained, Bool.and_eq_true] at h ⊢
    refine ⟨?_, ih h.2⟩
    cases cs with
    | nil => simp [hd]
    | cons f cs => exact h.1

/-- What is contained in front of one more character is contained. -/
theorem contained_of_snoc {cs : List Char} {c : Char} (h : contained brk sp (cs ++ [c]) = true) :
    contained brk sp cs = true := by
  induction cs with
  | nil => rfl
  | cons e cs ih =>
    rw [List.cons_append, contained, Bool.and_eq_true] at h
    rw [contained, Bool.and_eq_true]
    refine ⟨?_, ih h.2⟩
    cases cs with
    | nil => simp
    | cons f cs => exact h.1

/-! ## Column 0 -/

theorem column0_append_cons {b : Char} (hb : brk b = true) (text rest : List Char) :
    column0 brk sp (text ++ b :: rest) = column0 brk sp text ++ column0 brk sp rest := by
  rw [column0, List.splitOnP_append_cons _ _ hb, List.filter_append]
  rfl

/-- The lines of a text that begins with pieces, each ending in a line feed. -/
theorem splitOn_pieces {α : Type} (piece : α → List Char) (l : List α) (rest : List Char) :
    ((l.flatMap fun a => piece a ++ ['\n']) ++ rest).splitOn '\n' =
      (l.flatMap fun a => (piece a).splitOn '\n') ++ rest.splitOn '\n' := by
  induction l with
  | nil => rfl
  | cons a l ih =>
    rw [List.flatMap_cons, List.flatMap_cons, List.append_assoc, List.append_assoc, List.singleton_append,
      List.splitOn_append_cons_self, ih, List.append_assoc]

/-- Those of them that start in column 0, when the text is put together from pieces that
    end in a line break. -/
theorem column0_pieces {α : Type} {b : Char} (hb : brk b = true) (piece : α → List Char) (l : List α) :
    column0 brk sp (l.flatMap fun a => piece a ++ [b]) = l.flatMap fun a => column0 brk sp (piece a) := by
  induction l with
  | nil => rfl
  | cons a l ih =>
    rw [List.flatMap_cons, List.flatMap_cons, List.append_assoc, List.singleton_append,
      column0_append_cons hb, ih]

/-- A line break does not occur in a line. -/
theorem noBreak_of_mem_splitOnP {text l : List Char} (h : l ∈ text.splitOnP brk) : NoBreak brk l := by
  induction text generalizing l with
  | nil =>
    obtain rfl := List.mem_singleton.mp h
    exact fun c hc => absurd hc List.not_mem_nil
  | cons c text ih =>
    rw [List.splitOnP_cons_eq_if_modifyHead] at h
    obtain ⟨first, more, hsplit⟩ := List.exists_cons_of_ne_nil (List.splitOnP_ne_nil brk text)
    rw [hsplit] at h ih
    split at h
    · rcases List.mem_cons.mp h with rfl | h
      · exact fun c hc => absurd hc List.not_mem_nil
      · exact ih h
    · rename_i hc
      rcases List.mem_cons.mp h with rfl | h
      · exact noBreak_cons.mpr ⟨by simpa using hc, ih List.mem_cons_self⟩
      · exact ih (List.mem_cons_of_mem _ h)

theorem column0_of_noBreak {text : List Char} (h : NoBreak brk text) (hstarts : starts sp text = true) :
    column0 brk sp text = [text] := by
  rw [column0, List.splitOnP_eq_singleton h, List.filter_cons, if_pos hstarts, List.filter_nil]

/-- The first line of a text starts where the text does. -/
theorem starts_head (hbrk : ∀ c, brk c = true → sp c = true) {text first : List Char}
    {more : List (List Char)}
    (h : text.splitOnP brk = first :: more) : starts sp first = starts sp text := by
  cases text with
  | nil =>
    rw [List.splitOnP_nil] at h
    rw [← (List.cons.inj h).1]
  | cons c text =>
    obtain ⟨first', more', hsplit⟩ := List.exists_cons_of_ne_nil (List.splitOnP_ne_nil brk text)
    rw [List.splitOnP_cons_eq_if_modifyHead, hsplit] at h
    split at h
    · rename_i hc
      rw [← (List.cons.inj h).1]
      simp [starts, hbrk c hc]
    · rw [← (List.cons.inj h).1]
      rfl

/-- **The lines a text adds after its first one stay out of column 0 exactly when it is contained.** -/
theorem later_eq_nil_iff (hbrk : ∀ c, brk c = true → sp c = true) (text : List Char) :
    later brk sp text = [] ↔ contained brk sp text = true := by
  induction text with
  | nil => simp [later]
  | cons c text ih =>
    obtain ⟨first, more, hsplit⟩ := List.exists_cons_of_ne_nil (List.splitOnP_ne_nil brk text)
    have hlater : later brk sp text = more.filter (starts sp) := by
      rw [later, hsplit]
      rfl
    rw [contained, Bool.and_eq_true, ← ih, hlater, later, List.splitOnP_cons_eq_if_modifyHead, hsplit]
    by_cases hc : brk c = true
    · -- the text begins a new line, which is the first line of the rest
      have hstarts : starts sp first = !(text.head?.all sp) := by
        rw [starts_head hbrk hsplit, starts]
        cases text.head? <;> rfl
      cases hall : text.head?.all sp <;> simp [hc, hstarts, hall]
    · simp [hc]

/-- A text that does not start in column 0 has lines there exactly when it is not contained. -/
theorem column0_eq_nil_iff (hbrk : ∀ c, brk c = true → sp c = true) {text : List Char}
    (hstarts : starts sp text = false) : column0 brk sp text = [] ↔ contained brk sp text = true := by
  obtain ⟨first, more, hsplit⟩ := List.exists_cons_of_ne_nil (List.splitOnP_ne_nil brk text)
  rw [← later_eq_nil_iff hbrk, column0, later, hsplit, List.filter_cons, starts_head hbrk hsplit, hstarts]
  rfl

/-- A text that starts in column 0 has at least one line there. -/
theorem column0_ne_nil (hbrk : ∀ c, brk c = true → sp c = true) {text : List Char}
    (hstarts : starts sp text = true) : column0 brk sp text ≠ [] := by
  obtain ⟨first, more, hsplit⟩ := List.exists_cons_of_ne_nil (List.splitOnP_ne_nil brk text)
  rw [column0, hsplit, List.filter_cons, starts_head hbrk hsplit, hstarts]
  exact List.cons_ne_nil _ _

/-! ## The text from a line on -/

/-- Is the first line of the text this one? -/
def isFirst (brk : Char → Bool) (line text : List Char) : Bool := text.takeWhile (fun c => !brk c) == line

/-- The text from the first line that is this one to the end; `atStart` says that a line begins here. -/
def fromLineAt (brk : Char → Bool) (line : List Char) : Bool → List Char → List Char
  | _, []            => []
  | atStart, c :: cs =>
    if atStart && isFirst brk line (c :: cs) then c :: cs else fromLineAt brk line (brk c) cs

def fromLine (brk : Char → Bool) (line text : List Char) : List Char := fromLineAt brk line true text

/-- What is in front of the first line break is the first line. -/
theorem takeWhile_of_splitOnP {b : Char} (hb : brk b = true) {text rest first : List Char}
    {more : List (List Char)}
    (h : text.splitOnP brk = first :: more) : (text ++ b :: rest).takeWhile (fun c => !brk c) = first := by
  induction text generalizing first more with
  | nil =>
    rw [List.splitOnP_nil] at h
    rw [← (List.cons.inj h).1]
    simp [hb]
  | cons c text ih =>
    obtain ⟨first', more', hsplit⟩ := List.exists_cons_of_ne_nil (List.splitOnP_ne_nil brk text)
    rw [List.splitOnP_cons_eq_if_modifyHead, hsplit] at h
    split at h
    · rename_i hc
      rw [← (List.cons.inj h).1]
      simp [hc]
    · rename_i hc
      rw [← (List.cons.inj h).1, List.cons_append, List.takeWhile_cons, if_pos (by simp [hc]), ih hsplit]

/-- The lines in front that are others are skipped; the first of them counts if the text begins a line. -/
theorem fromLineAt_append {b : Char} (hb : brk b = true) {line text : List Char} (rest : List Char)
    {atStart : Bool} (h : ∀ l ∈ if atStart then text.splitOnP brk else (text.splitOnP brk).tail, l ≠ line) :
    fromLineAt brk line atStart (text ++ b :: rest) = fromLineAt brk line true rest := by
  induction text generalizing atStart with
  | nil =>
    have hskip : (atStart && isFirst brk line (b :: rest)) = false := by
      cases atStart with
      | false => rfl
      | true =>
        have hne : [] ≠ line := h [] (by simp)
        simpa [isFirst, hb] using hne
    rw [List.nil_append, fromLineAt, hskip, hb]
    rfl
  | cons c text ih =>
    obtain ⟨first, more, hsplit⟩ := List.exists_cons_of_ne_nil (List.splitOnP_ne_nil brk (c :: text))
    have hskip : (atStart && isFirst brk line (c :: (text ++ b :: rest))) = false := by
      cases atStart with
      | false => rfl
      | true =>
        have hne : first ≠ line := h first (by simp [hsplit])
        rw [Bool.true_and, isFirst, ← List.cons_append, takeWhile_of_splitOnP hb hsplit]
        simpa using hne
    have hlater : ∀ l ∈ (List.splitOnP brk (c :: text)).tail, l ≠ line := by
      intro l hl
      cases atStart with
      | false => exact h l hl
      | true => exact h l (List.mem_of_mem_tail hl)
    rw [List.cons_append, fromLineAt, hskip, if_neg Bool.false_ne_true]
    apply ih
    rw [List.splitOnP_cons_eq_if_modifyHead] at hlater
    split at hlater
    · rename_i hc
      rw [hc]
      exact hlater
    · rename_i hc
      rw [Bool.not_eq_true] at hc
      rw [hc]
      simpa using hlater

/-- **The lines before it do not matter**, however they are cut into pieces. -/
theorem fromLine_pieces {α : Type} {b : Char} (hb : brk b = true) {line : List Char} (piece : α → List Char)
    (l : List α) (rest : List Char) (h : ∀ a ∈ l, ∀ x ∈ (piece a).splitOnP brk, x ≠ line) :
    fromLine brk line ((l.flatMap fun a => piece a ++ [b]) ++ rest) = fromLine brk line rest := by
  induction l with
  | nil => rfl
  | cons a l ih =>
    obtain ⟨ha, hl⟩ := List.forall_mem_cons.mp h
    rw [List.flatMap_cons, List.append_assoc, List.append_assoc, List.singleton_append, ← ih hl]
    exact fromLineAt_append hb _ ha

/-- The line itself is where the text begins. -/
theorem fromLine_self {b : Char} (hb : brk b = true) {c : Char} {line : List Char}
    (h : NoBreak brk (c :: line))
    (rest : List Char) : fromLine brk (c :: line) (c :: line ++ b :: rest) = c :: line ++ b :: rest := by
  have hfirst : isFirst brk (c :: line) (c :: line ++ b :: rest) = true := by
    rw [isFirst, takeWhile_of_splitOnP hb (List.splitOnP_eq_singleton h)]
    exact beq_self_eq_true _
  rw [List.cons_append] at hfirst ⊢
  rw [fromLine, fromLineAt, hfirst]
  rfl

end TextLines
