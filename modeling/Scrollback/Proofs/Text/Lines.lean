import Scrollback.Text.Lines

/-!
Texts put together from lines.

A line feed is the end of a line wherever it stands, so the lines of two texts with
a line feed between them are the lines of the one and the lines of the other
(`lines_append_cons`), and some of the lines of a text are the lines of what they make
(`lines_flatten_append`). What is dropped at the end of a text is its longest stretch of
line ends, and what is left is told by what it ends in (`dropLineEnd_eq_iff`).
-/

namespace Scrollback.Text

/-! ### The end of a text -/

/-- A text ends in no character of a class. -/
def EndsOutside (p : Char → Bool) (cs : List Char) : Prop :=
  ∀ c ∈ cs.getLast?, p c = false

theorem all_getLast?_iff {p : Char → Bool} {cs : List Char} :
    (cs.getLast?.all fun c => !p c) = true ↔ EndsOutside p cs := by
  simp [EndsOutside, Option.all_eq_true]

instance (p : Char → Bool) (cs : List Char) : Decidable (EndsOutside p cs) :=
  decidable_of_iff _ all_getLast?_iff

/-- What is left when the end is dropped ends outside the class, and only characters
of the class were dropped. -/
theorem dropEndWhile_eq_iff {p : Char → Bool} {cs kept : List Char} :
    dropEndWhile p cs = kept ↔
      EndsOutside p kept ∧ ∃ ending, cs = kept ++ ending ∧ ∀ c ∈ ending, p c = true := by
  constructor
  · rintro rfl
    refine ⟨?_, dropEndWhile_append p cs⟩
    intro c last
    rw [dropEndWhile, List.getLast?_reverse] at last
    have first := List.head?_dropWhile_not p cs.reverse
    rw [Option.mem_def.mp last] at first
    exact first
  · rintro ⟨outside, ending, rfl, inside⟩
    have dropped : ∀ c ∈ ending.reverse, p c = true := by
      intro c mem
      exact inside c (List.mem_reverse.mp mem)
    rw [dropEndWhile, List.reverse_append, List.dropWhile_append_of_pos dropped]
    cases eq : kept.reverse with
    | nil => exact (List.reverse_eq_nil_iff.mp eq).symm
    | cons c rest =>
        have last : c ∈ kept.getLast? := by
          rw [List.getLast?_eq_head?_reverse, eq]
          rfl
        rw [List.dropWhile_cons_of_neg (by simp [outside c last]), ← eq, List.reverse_reverse]

/-- Trimmed text does not begin with a blank character. -/
theorem isBlank_of_strip {cs rest : List Char} {c : Char} (kept : strip cs = c :: rest) :
    isBlank c = false := by
  obtain ⟨ending, eq, -⟩ := dropEndWhile_append isBlank (cs.dropWhile isBlank)
  have first := List.head?_dropWhile_not isBlank cs
  rw [eq, show dropEndWhile isBlank (cs.dropWhile isBlank) = c :: rest from kept] at first
  simpa using first

/-- Trimmed text begins and ends outside the blank characters, so it is trimmed already. -/
theorem strip_strip (cs : List Char) : strip (strip cs) = strip cs := by
  obtain ⟨outside, -⟩ := dropEndWhile_eq_iff.mp (Eq.refl (strip cs))
  have begun : (strip cs).dropWhile isBlank = strip cs := by
    cases kept : strip cs with
    | nil => rfl
    | cons c rest => exact List.dropWhile_cons_of_neg (by simp [isBlank_of_strip kept])
  unfold strip at begun ⊢
  rw [begun]
  exact dropEndWhile_eq_iff.mpr ⟨outside, [], (List.append_nil _).symm, by simp⟩

theorem mem_of_mem_strip {cs : List Char} {c : Char} (mem : c ∈ strip cs) : c ∈ cs := by
  obtain ⟨ending, eq, -⟩ := dropEndWhile_append isBlank (cs.dropWhile isBlank)
  apply (List.dropWhile_sublist isBlank).subset
  rw [eq]
  exact List.mem_append_left ending mem

/-- A line reads as a text: it is the text with line ends after it. -/
def Reads (line text : List Char) : Prop :=
  ∃ ending, line = text ++ ending ∧ ∀ c ∈ ending, isLineEnd c = true

/-- What is left when the line ends at the end are dropped is what the line reads as. -/
theorem dropLineEnd_eq_iff {line text : List Char} :
    dropLineEnd line = text ↔ EndsOutside isLineEnd text ∧ Reads line text :=
  dropEndWhile_eq_iff

/-- Line ends put after a text that has none at its end are dropped again. -/
theorem dropLineEnd_append {cs ending : List Char} (outside : EndsOutside isLineEnd cs)
    (ends : ∀ c ∈ ending, isLineEnd c = true) : dropLineEnd (cs ++ ending) = cs :=
  dropLineEnd_eq_iff.mpr ⟨outside, ending, rfl, ends⟩

/-- Line ends put after a line do not change what it reads as. -/
theorem Reads.append {line text ending : List Char} (reads : Reads line text)
    (ends : ∀ c ∈ ending, isLineEnd c = true) : Reads (line ++ ending) text := by
  obtain ⟨first, rfl, firstEnds⟩ := reads
  refine ⟨first ++ ending, List.append_assoc .., ?_⟩
  intro c mem
  rcases List.mem_append.mp mem with inFirst | inEnding
  · exact firstEnds c inFirst
  · exact ends c inEnding

theorem dropLineEnd_append_ends (line : List Char) {ending : List Char}
    (ends : ∀ c ∈ ending, isLineEnd c = true) : dropLineEnd (line ++ ending) = dropLineEnd line := by
  obtain ⟨outside, reads⟩ := dropLineEnd_eq_iff.mp (Eq.refl (dropLineEnd line))
  exact dropLineEnd_eq_iff.mpr ⟨outside, reads.append ends⟩

/-- What ends in a character that is no line end occurs in a text exactly if it occurs in
what is left when the line ends at the end are dropped. -/
theorem infix_dropLineEnd_iff {sought cs : List Char} {c : Char} (inside : isLineEnd c = false) :
    sought ++ [c] <:+: dropLineEnd cs ↔ sought ++ [c] <:+: cs := by
  obtain ⟨ending, eq, ends⟩ := dropEndWhile_append isLineEnd cs
  constructor
  · intro occurs
    rw [eq]
    exact occurs.trans (List.prefix_append _ ending).isInfix
  · rintro ⟨front, back, found⟩
    rw [eq, List.append_eq_append_iff] at found
    -- The last character sought is not among the line ends, so nothing of it reaches there.
    rcases found with ⟨more, kept, -⟩ | ⟨more, whole, rfl⟩
    · exact ⟨front, more, kept.symm⟩
    · rcases List.eq_nil_or_concat more with rfl | ⟨init, last, rfl⟩
      · exact ⟨front, [], by rw [List.append_nil, whole, List.append_nil]; rfl⟩
      · rw [List.concat_eq_append, ← List.append_assoc, ← List.append_assoc] at whole
        obtain ⟨-, lasts⟩ := List.append_inj' whole rfl
        cases lasts
        have dropped := ends c (by simp)
        rw [inside] at dropped
        cases dropped

/-! ### Lines of a text with a line feed in it -/

theorem lines_cons (c : Char) (cs : List Char) : lines (c :: cs) = consLine c (lines cs) :=
  rfl

theorem lines_lineFeed_cons (cs : List Char) : lines ('\n' :: cs) = ['\n'] :: lines cs :=
  rfl

/-- A character in front of lines joins the first of them, whatever lines follow. -/
theorem consLine_append (c : Char) {ls : List (List Char)} (nonempty : ls ≠ [])
    (rest : List (List Char)) : consLine c (ls ++ rest) = consLine c ls ++ rest := by
  unfold consLine
  split
  · rfl
  · cases ls with
    | nil => exact absurd rfl nonempty
    | cons line ls => rfl

/-- A character put after a text joins its last line, or is a line by itself when the text
has no line that lacks its line feed. -/
theorem lines_append_singleton (cs : List Char) (d : Char) :
    ∃ init last, lines (cs ++ [d]) = init ++ [last ++ [d]] ∧
      (lines cs = init ++ [last] ∨ lines cs = init ∧ last = []) := by
  induction cs with
  | nil =>
      refine ⟨[], [], ?_, .inr ⟨rfl, rfl⟩⟩
      by_cases feed : d = '\n' <;> simp [lines, consLine, feed]
  | cons c cs ih =>
      obtain ⟨init, last, ended, unended⟩ := ih
      rw [List.cons_append, lines_cons, lines_cons, ended]
      by_cases feed : c = '\n'
      · subst feed
        refine ⟨['\n'] :: init, last, rfl, ?_⟩
        rcases unended with eq | ⟨eq, blank⟩
        · exact .inl (by rw [eq]; rfl)
        · exact .inr ⟨by rw [eq]; rfl, blank⟩
      · cases init with
        | nil =>
            refine ⟨[], c :: last, by simp [consLine, feed], .inl ?_⟩
            rcases unended with eq | ⟨eq, blank⟩
            · simp [consLine, feed, eq]
            · simp [consLine, feed, eq, blank]
        | cons first init =>
            refine ⟨(c :: first) :: init, last, by simp [consLine, feed], ?_⟩
            rcases unended with eq | ⟨eq, blank⟩
            · exact .inl (by simp [consLine, feed, eq])
            · exact .inr ⟨by simp [consLine, feed, eq], blank⟩

/-- The lines of two texts with a line feed between them. -/
theorem lines_append_cons (cs ds : List Char) :
    lines (cs ++ '\n' :: ds) = lines (cs ++ ['\n']) ++ lines ds := by
  induction cs with
  | nil => rfl
  | cons c cs ih =>
      obtain ⟨init, last, ended, -⟩ := lines_append_singleton cs '\n'
      have nonempty : lines (cs ++ ['\n']) ≠ [] := by simp [ended]
      calc lines (c :: cs ++ '\n' :: ds)
          = consLine c (lines (cs ++ ['\n']) ++ lines ds) := by rw [← ih]; rfl
        _ = lines (c :: cs ++ ['\n']) ++ lines ds := consLine_append c nonempty _

/-- A text without a line feed is one line when a line feed is put after it. -/
theorem lines_of_not_mem {cs : List Char} (single : '\n' ∉ cs) :
    lines (cs ++ ['\n']) = [cs ++ ['\n']] := by
  induction cs with
  | nil => rfl
  | cons c cs ih =>
      rw [List.mem_cons, not_or] at single
      rw [List.cons_append, lines_cons, ih single.2, consLine, if_neg (Ne.symm single.1)]

/-! ### Some of the lines of a text -/

/-- Lines of a text that stand together are the lines of the text they make. -/
theorem lines_flatten_append {cs : List Char} {ls rest : List (List Char)}
    (eq : lines cs = ls ++ rest) : lines ls.flatten = ls ∧ lines rest.flatten = rest := by
  induction cs generalizing ls with
  | nil =>
      obtain ⟨rfl, rfl⟩ := List.append_eq_nil_iff.mp eq.symm
      exact ⟨rfl, rfl⟩
  | cons c cs ih =>
      cases ls with
      | nil =>
          rw [List.nil_append] at eq
          exact ⟨rfl, by rw [← eq, flatten_lines]⟩
      | cons line ls =>
          rw [lines_cons] at eq
          unfold consLine at eq
          split at eq
          · rename_i feed
            subst feed
            obtain ⟨rfl, tail⟩ := List.cons.inj eq
            obtain ⟨front, back⟩ := ih tail
            refine ⟨?_, back⟩
            rw [List.flatten_cons, List.singleton_append, lines_lineFeed_cons, front]
          · rename_i other
            split at eq
            · obtain ⟨rfl, tail⟩ := List.cons.inj eq
              obtain ⟨rfl, rfl⟩ := List.append_eq_nil_iff.mp tail.symm
              exact ⟨by simp [lines, consLine, other], rfl⟩
            · rename_i first more whole
              obtain ⟨rfl, rfl⟩ := List.cons.inj eq
              have cut : lines cs = (first :: ls) ++ rest := whole
              obtain ⟨front, back⟩ := ih cut
              refine ⟨?_, back⟩
              rw [List.flatten_cons] at front
              rw [List.flatten_cons, List.cons_append, lines_cons, front, consLine, if_neg other]

/-- A line of a text is the only line of itself. -/
theorem lines_of_mem {cs line : List Char} (mem : line ∈ lines cs) : lines line = [line] := by
  obtain ⟨front, back, eq⟩ := List.append_of_mem mem
  have rest : lines (line :: back).flatten = [line] ++ back := (lines_flatten_append eq).2
  have first := (lines_flatten_append rest).1
  rwa [List.flatten_singleton] at first

/-- In a line of a text, nothing follows a line feed. -/
theorem eq_nil_of_mem_lines {cs front back : List Char} (mem : front ++ '\n' :: back ∈ lines cs) :
    back = [] := by
  have single := lines_of_mem mem
  obtain ⟨init, last, ended, -⟩ := lines_append_singleton front '\n'
  rw [lines_append_cons, ended] at single
  have short := congrArg List.length single
  have none : lines back = [] := by
    rw [← List.length_eq_zero_iff]
    simp only [List.length_append, List.length_singleton] at short
    omega
  rw [← flatten_lines back, none]
  rfl

end Scrollback.Text
