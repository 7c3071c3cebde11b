import Mathlib.Data.List.Induction
import Scrollback.Attachment.Reader
import Scrollback.Proofs.Text.Lines

/-!
Headers and separators, told by what stands on their lines.

A line opens a text under a body when it reads `-- L --` for a label the body admits
(`IsHeader`, `Opens`), and lines are separated where a line of four dashes stands right
before one that opens a text (`Separates`, `Separated`). The reader finds exactly these:
`header?_eq_some_iff` for headers, and for the separator `splitAtSeparator?_eq_some`
with `splitAtSeparator?_eq_none_iff`.
-/

namespace Scrollback.Attachment

open Text (lines isLineEnd EndsOutside Reads)

/-! ### Labels -/

/-- A label is `Text Attachment` and a number in decimal digits. -/
def Numbered (label : List Char) : Prop :=
  ∃ number, label = "Text Attachment ".toList ++ number ∧ number ≠ [] ∧
    ∀ c ∈ number, c.isDigit = true

/-- A body admits the numbered labels, and those it refers to in square brackets. -/
def Admits (body label : List Char) : Prop :=
  Numbered label ∨ '[' :: label ++ [']'] <:+: body

theorem isNumbered_iff {label : List Char} : isNumbered label = true ↔ Numbered label := by
  unfold isNumbered
  split
  · rename_i number begins
    rw [Text.after?_eq_some_iff] at begins
    constructor
    · intro decimal
      rw [Bool.and_eq_true, Bool.not_eq_true', List.isEmpty_eq_false_iff, List.all_eq_true] at decimal
      exact ⟨number, begins, decimal⟩
    · rintro ⟨other, eq, decimal⟩
      have same : number = other := List.append_cancel_left (begins.symm.trans eq)
      rw [Bool.and_eq_true, Bool.not_eq_true', List.isEmpty_eq_false_iff, List.all_eq_true, same]
      exact decimal
  · rename_i fails
    constructor
    · intro absurd
      cases absurd
    · rintro ⟨number, eq, -⟩
      rw [Text.after?_eq_some_iff.mpr eq] at fails
      cases fails

theorem admits_iff {body label : List Char} :
    (isNumbered label || refersTo body label) = true ↔ Admits body label := by
  rw [Bool.or_eq_true, isNumbered_iff, refersTo, Text.occurs_iff, Admits]

instance (body label : List Char) : Decidable (Admits body label) :=
  decidable_of_iff _ admits_iff

/-- What a body admits stays admitted when text is put after it. -/
theorem Admits.append {body label : List Char} (admits : Admits body label) (more : List Char) :
    Admits (body ++ more) label := by
  rcases admits with numbered | occurs
  · exact .inl numbered
  · exact .inr (occurs.trans (List.prefix_append body more).isInfix)

/-! ### Headers -/

/-- A line with dashes around a text. -/
def dashed (inner : List Char) : List Char :=
  ['-', '-', ' '] ++ inner ++ [' ', '-', '-']

theorem endsOutside_dashed (inner : List Char) : EndsOutside isLineEnd (dashed inner) := by
  intro c last
  rw [dashed, List.getLast?_append] at last
  cases last
  rfl

/-- A line is the header for a label: it reads as the label between dashes, with or
without blanks around the label, and the body admits the label. -/
structure IsHeader (body line label : List Char) : Prop where
  reads : ∃ inner, Reads line (dashed inner) ∧ Text.strip inner = label
  ne_nil : label ≠ []
  admitted : Admits body label

/-- A header for a body is one when text is put after the body. -/
theorem IsHeader.append {body line label : List Char} (header : IsHeader body line label)
    (more : List Char) : IsHeader (body ++ more) line label :=
  ⟨header.reads, header.ne_nil, header.admitted.append more⟩

/-- The label of a header is trimmed. -/
theorem IsHeader.strip_label {body line label : List Char} (header : IsHeader body line label) :
    Text.strip label = label := by
  obtain ⟨inner, -, rfl⟩ := header.reads
  exact Text.strip_strip inner

/-- A label stands on one line. -/
theorem IsHeader.lineFeed_not_mem {body line label cs : List Char}
    (header : IsHeader body line label) (mem : line ∈ lines cs) : '\n' ∉ label := by
  obtain ⟨inner, ⟨ending, eq, -⟩, rfl⟩ := header.reads
  intro feed
  obtain ⟨front, back, cut⟩ := List.append_of_mem (Text.mem_of_mem_strip feed)
  have split : line = (['-', '-', ' '] ++ front) ++ '\n' :: (back ++ [' ', '-', '-'] ++ ending) := by
    rw [eq, dashed, cut]
    simp
  rw [split] at mem
  have nothing := Text.eq_nil_of_mem_lines mem
  simp at nothing

/-- A line opens a text: it is the header for some label. -/
def Opens (body line : List Char) : Prop :=
  ∃ label, IsHeader body line label

theorem label?_eq_some_iff {line label : List Char} :
    label? line = some label ↔
      (∃ inner, Reads line (dashed inner) ∧ Text.strip inner = label) ∧ label ≠ [] := by
  have dropped : ∀ inner, Reads line (dashed inner) ↔ Text.dropLineEnd line = dashed inner := by
    intro inner
    rw [Text.dropLineEnd_eq_iff]
    exact (and_iff_right (endsOutside_dashed inner)).symm
  simp only [label?, Option.bind_eq_bind, Option.bind_eq_some_iff, Text.after?_eq_some_iff,
    Text.before?_eq_some_iff, dropped]
  constructor
  · rintro ⟨opened, afterDashes, inner, beforeDashes, found⟩
    split at found
    · cases found
    · rename_i nonempty
      cases found
      refine ⟨⟨inner, ?_, rfl⟩, fun nil => nonempty (List.isEmpty_iff.mpr nil)⟩
      rw [afterDashes, beforeDashes, dashed, List.append_assoc]
  · rintro ⟨⟨inner, reads, rfl⟩, nonempty⟩
    refine ⟨inner ++ [' ', '-', '-'], ?_, inner, rfl, ?_⟩
    · rw [reads, dashed, List.append_assoc]
    · rw [if_neg (fun nil => nonempty (List.isEmpty_iff.mp nil))]

/-- The reader takes a line for a header exactly when it is one. -/
theorem header?_eq_some_iff {body line label : List Char} :
    header? body line = some label ↔ IsHeader body line label := by
  rw [header?, Option.filter_eq_some_iff, label?_eq_some_iff, admits_iff]
  constructor
  · rintro ⟨⟨reads, nonempty⟩, admitted⟩
    exact ⟨reads, nonempty, admitted⟩
  · rintro ⟨reads, nonempty, admitted⟩
    exact ⟨⟨reads, nonempty⟩, admitted⟩

/-- A line is the header for one label at most. -/
theorem IsHeader.label_unique {body line label other : List Char}
    (header : IsHeader body line label) (again : IsHeader body line other) : other = label :=
  Option.some.inj ((header?_eq_some_iff.mpr again).symm.trans (header?_eq_some_iff.mpr header))

theorem isSome_header?_iff {body line : List Char} :
    (header? body line).isSome = true ↔ Opens body line := by
  rw [Option.isSome_iff_exists]
  exact exists_congr fun label => header?_eq_some_iff

instance (body line : List Char) : Decidable (Opens body line) :=
  decidable_of_iff _ isSome_header?_iff

theorem header?_eq_none_iff {body line : List Char} :
    header? body line = none ↔ ¬ Opens body line := by
  rw [← isSome_header?_iff, Bool.not_eq_true, Option.isSome_eq_false_iff, Option.isNone_iff_eq_none]

/-- Line ends put after a line do not make it open a text, nor keep it from opening one. -/
theorem opens_append {body line ending : List Char} (ends : ∀ c ∈ ending, isLineEnd c = true) :
    Opens body (line ++ ending) ↔ Opens body line := by
  rw [← isSome_header?_iff, ← isSome_header?_iff, header?, header?, label?, label?,
    Text.dropLineEnd_append_ends line ends]

theorem not_opens_nil (body : List Char) : ¬ Opens body [] := by
  rw [← header?_eq_none_iff]
  rfl

theorem not_opens_blank (body : List Char) : ¬ Opens body ['\n'] := by
  rw [← header?_eq_none_iff]
  rfl

/-- Line ends put after a text neither make a line of it open a text, nor keep one from
opening it. -/
theorem none_opens_append_iff {body cs ending : List Char}
    (ends : ∀ c ∈ ending, isLineEnd c = true) :
    (∀ line ∈ lines (cs ++ ending), ¬ Opens body line) ↔ ∀ line ∈ lines cs, ¬ Opens body line := by
  induction ending using List.reverseRecOn with
  | nil => rw [List.append_nil]
  | append_singleton init c ih =>
      rw [List.forall_mem_append] at ends
      rw [← ih ends.1, ← List.append_assoc]
      obtain ⟨front, last, ended, before⟩ := Text.lines_append_singleton (cs ++ init) c
      rcases before with eq | ⟨eq, rfl⟩
      · rw [ended, eq, List.forall_mem_append, List.forall_mem_append, List.forall_mem_singleton,
          List.forall_mem_singleton, opens_append ends.2]
      · rw [ended, eq, List.forall_mem_append, List.forall_mem_singleton, opens_append ends.2]
        exact and_iff_left (not_opens_nil body)

theorem not_opens_dashes (body : List Char) : ¬ Opens body ['-', '-', '-', '-', '\n'] := by
  rw [← header?_eq_none_iff]
  rfl

/-! ### The end of a body -/

/-- A body admits the labels that it admits without the line ends at its end. -/
theorem admits_dropLineEnd_iff {body label : List Char} :
    Admits (Text.dropLineEnd body) label ↔ Admits body label :=
  or_congr_right (Text.infix_dropLineEnd_iff rfl)

theorem isHeader_dropLineEnd_iff {body line label : List Char} :
    IsHeader (Text.dropLineEnd body) line label ↔ IsHeader body line label := by
  constructor
  · rintro ⟨reads, nonempty, admitted⟩
    exact ⟨reads, nonempty, admits_dropLineEnd_iff.mp admitted⟩
  · rintro ⟨reads, nonempty, admitted⟩
    exact ⟨reads, nonempty, admits_dropLineEnd_iff.mpr admitted⟩

theorem opens_dropLineEnd_iff {body line : List Char} :
    Opens (Text.dropLineEnd body) line ↔ Opens body line :=
  exists_congr fun _ => isHeader_dropLineEnd_iff

/-! ### Separators -/

/-- A line is a separator in front of the next one: it reads as four dashes, and the
next one opens a text under the body before it. -/
def Separates (body line next : List Char) : Prop :=
  Reads line ['-', '-', '-', '-'] ∧ Opens body next

/-- Somewhere among lines that follow others, one is a separator in front of the next. -/
def SeparatedAfter (passed ls : List (List Char)) : Prop :=
  ∃ before line next rest, ls = before ++ line :: next :: rest ∧
    Separates (passed ++ before).flatten line next

/-- Lines have a separator among them. -/
abbrev Separated (ls : List (List Char)) : Prop :=
  SeparatedAfter [] ls

theorem separates_iff {body line next : List Char} :
    (isSeparator line && (header? body next).isSome) = true ↔ Separates body line next := by
  have outside : EndsOutside isLineEnd ['-', '-', '-', '-'] := by decide
  rw [Bool.and_eq_true, isSome_header?_iff, isSeparator, beq_iff_eq, Text.dropLineEnd_eq_iff,
    and_iff_right outside, Separates]

/-- Lines are separated at their first line, or after it. -/
theorem separatedAfter_cons {passed : List (List Char)} {line next : List Char}
    {rest : List (List Char)} :
    SeparatedAfter passed (line :: next :: rest) ↔
      Separates passed.flatten line next ∨ SeparatedAfter (passed ++ [line]) (next :: rest) := by
  constructor
  · rintro ⟨before, sep, opening, others, eq, separates⟩
    cases before with
    | nil =>
        cases eq
        rw [List.append_nil] at separates
        exact .inl separates
    | cons first before =>
        obtain ⟨rfl, tail⟩ := List.cons.inj eq
        rw [List.append_cons] at separates
        exact .inr ⟨before, sep, opening, others, tail, separates⟩
  · rintro (separates | ⟨before, sep, opening, others, eq, separates⟩)
    · exact ⟨[], line, next, rest, rfl, by rwa [List.append_nil]⟩
    · refine ⟨line :: before, sep, opening, others, by rw [eq]; rfl, ?_⟩
      rwa [List.append_cons]

/-- The reader finds no separator exactly when there is none. -/
theorem splitAtSeparator?_eq_none_iff {passed ls : List (List Char)} :
    splitAtSeparator? passed ls = none ↔ ¬ SeparatedAfter passed.reverse ls := by
  fun_induction splitAtSeparator? passed ls with
  | case1 passed line next rest found =>
      rw [separates_iff] at found
      have separated : SeparatedAfter passed.reverse (line :: next :: rest) :=
        separatedAfter_cons.mpr (.inl found)
      constructor
      · intro none
        cases none
      · intro never
        exact absurd separated never
  | case2 passed line next rest other ih =>
      rw [separates_iff] at other
      rw [ih, separatedAfter_cons, List.reverse_cons, or_iff_right other]
  | case3 passed ls short =>
      refine ⟨fun _ => ?_, fun _ => rfl⟩
      rintro ⟨before, line, next, rest, eq, -⟩
      cases before with
      | nil => exact short line next rest eq
      | cons first before =>
          cases before with
          | nil => exact short first line (next :: rest) eq
          | cons second before => exact short first second (before ++ line :: next :: rest) eq

/-- Among lines that follow others, the reader stops at a separator with no other before
it. -/
theorem splitAtSeparator?_append {passed before rest : List (List Char)} {line next : List Char}
    (separates : Separates (passed.reverse ++ before).flatten line next)
    (first : ¬ SeparatedAfter passed.reverse (before ++ [line])) :
    splitAtSeparator? passed (before ++ line :: next :: rest) =
      some ((passed.reverse ++ before).flatten, next :: rest) := by
  induction before generalizing passed with
  | nil =>
      rw [List.append_nil] at separates ⊢
      rw [List.nil_append, splitAtSeparator?, if_pos (separates_iff.mpr separates)]
  | cons skipped before ih =>
      -- What follows the skipped line begins alike in the whole and up to the separator.
      obtain ⟨following, short, long, eqShort, eqLong⟩ : ∃ following short long,
          before ++ [line] = following :: short ∧
          before ++ line :: next :: rest = following :: long := by
        cases before with
        | nil => exact ⟨line, [], next :: rest, rfl, rfl⟩
        | cons second before => exact ⟨second, _, _, rfl, rfl⟩
      rw [List.cons_append, eqShort, separatedAfter_cons, not_or, ← List.reverse_cons, ← eqShort]
        at first
      have moved : passed.reverse ++ skipped :: before = (skipped :: passed).reverse ++ before := by
        rw [List.append_cons, List.reverse_cons]
      rw [moved] at separates ⊢
      rw [List.cons_append, eqLong, splitAtSeparator?, if_neg (mt separates_iff.mp first.1), ← eqLong]
      exact ih separates first.2

/-- The reader stops at a separator with no other before it. -/
theorem splitAtSeparator?_eq_some {before rest : List (List Char)} {line next : List Char}
    (separates : Separates before.flatten line next) (first : ¬ Separated (before ++ [line])) :
    splitAtSeparator? [] (before ++ line :: next :: rest) = some (before.flatten, next :: rest) :=
  splitAtSeparator?_append separates first

instance (ls : List (List Char)) : Decidable (Separated ls) :=
  decidable_of_decidable_of_iff (p := ¬ splitAtSeparator? [] ls = none)
    ((not_congr splitAtSeparator?_eq_none_iff).trans Classical.not_not)

/-- Lines with one more after them are separated among themselves, or at their last. -/
theorem separated_append_singleton {ls : List (List Char)} {next : List Char} :
    Separated (ls ++ [next]) ↔
      Separated ls ∨ ∃ before line, ls = before ++ [line] ∧ Separates before.flatten line next := by
  constructor
  · rintro ⟨before, line, opening, rest, eq, separates⟩
    rcases List.eq_nil_or_concat rest with rfl | ⟨init, last, rfl⟩
    · have split : ls ++ [next] = (before ++ [line]) ++ [opening] := by simpa using eq
      obtain ⟨inits, lasts⟩ := List.append_inj' split rfl
      cases lasts
      exact .inr ⟨before, line, inits, separates⟩
    · have split : ls ++ [next] = (before ++ line :: opening :: init) ++ [last] := by
        simpa using eq
      obtain ⟨inits, -⟩ := List.append_inj' split rfl
      exact .inl ⟨before, line, opening, init, inits, separates⟩
  · rintro (⟨before, line, opening, rest, rfl, separates⟩ | ⟨before, line, rfl, separates⟩)
    · exact ⟨before, line, opening, rest ++ [next], by simp, separates⟩
    · exact ⟨before, line, next, [], by simp, separates⟩

/-- A line that opens no text, put after lines, is in front of no separator. -/
theorem Separated.of_append_plain {ls : List (List Char)} {line : List Char}
    (separated : Separated (ls ++ [line])) (plain : ∀ body, ¬ Opens body line) : Separated ls := by
  rcases separated_append_singleton.mp separated with among | ⟨before, _, -, separates⟩
  · exact among
  · exact absurd separates.2 (plain before.flatten)

/-- A line feed put after a text brings no separator into it. -/
theorem Separated.of_lineFeed {cs : List Char} (separated : Separated (lines (cs ++ ['\n']))) :
    Separated (lines cs) := by
  obtain ⟨init, last, ended, unended | ⟨unended, blank⟩⟩ := Text.lines_append_singleton cs '\n'
  · rw [ended, separated_append_singleton] at separated
    rw [unended, separated_append_singleton]
    rcases separated with among | ⟨before, line, eq, reads, opens⟩
    · exact .inl among
    · exact .inr ⟨before, line, eq, reads, (opens_append (by simp [isLineEnd])).mp opens⟩
  · rw [ended, blank] at separated
    rw [unended]
    exact separated.of_append_plain not_opens_blank

end Scrollback.Attachment
