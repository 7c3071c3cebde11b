import Scrollback.Proofs.Attachment.Reader

/-!
Where content is divided.

Content with a separator among its lines is divided at the first one (`Divided`): the body
stands before it, and a header for the body right after it. Just such content has texts
attached to it, and no character of its body is lost (`attached_iff_separated`); any other
content is text as it stands.
-/

namespace Scrollback.Attachment

open Text (lines)

/-- Lines are divided at their first separator. -/
structure Divided (ls before : List (List Char)) (separator : List Char)
    (after : List (List Char)) : Prop where
  lines_eq : ls = before ++ separator :: after
  separates : ∃ next ∈ after.head?, Separates before.flatten separator next
  first : ¬ Separated (before ++ [separator])

/-! ### The first separator -/

/-- Among lines that follow others, the reader stops at a separator only when there is no
other before it. -/
theorem exists_of_splitAtSeparator? {passed ls after : List (List Char)} {text : List Char}
    (split : splitAtSeparator? passed ls = some (text, after)) :
    ∃ before separator, ls = before ++ separator :: after ∧
      text = (passed.reverse ++ before).flatten ∧
      (∃ next ∈ after.head?, Separates text separator next) ∧
      ¬ SeparatedAfter passed.reverse (before ++ [separator]) := by
  fun_induction splitAtSeparator? passed ls with
  | case1 passed line next rest found =>
      cases split
      have alone : ¬ SeparatedAfter passed.reverse [line] :=
        splitAtSeparator?_eq_none_iff.mp rfl
      exact ⟨[], line, rfl, by rw [List.append_nil], ⟨next, rfl, separates_iff.mp found⟩, alone⟩
  | case2 passed line next rest other ih =>
      obtain ⟨before, separator, eq, text_eq, separates, first⟩ := ih split
      rw [List.reverse_cons, List.append_assoc, List.singleton_append] at text_eq
      refine ⟨line :: before, separator, by rw [eq]; rfl, text_eq, separates, ?_⟩
      -- The line right after the skipped one is still among those up to the separator.
      obtain ⟨short, eqShort⟩ : ∃ short, before ++ [separator] = next :: short := by
        cases before with
        | nil =>
            cases eq
            exact ⟨[], rfl⟩
        | cons second before =>
            cases eq
            exact ⟨before ++ [separator], rfl⟩
      rw [eqShort, List.reverse_cons] at first
      rw [List.cons_append, eqShort, separatedAfter_cons, ← separates_iff]
      exact not_or.mpr ⟨other, first⟩
  | case3 passed ls short => cases split

/-- The reader stops at the first separator, and only there. -/
theorem splitAtSeparator?_eq_some_iff {ls after : List (List Char)} {text : List Char} :
    splitAtSeparator? [] ls = some (text, after) ↔
      ∃ before separator, Divided ls before separator after ∧ text = before.flatten := by
  constructor
  · intro split
    obtain ⟨before, separator, eq, rfl, separates, first⟩ := exists_of_splitAtSeparator? split
    exact ⟨before, separator, ⟨eq, separates, first⟩, rfl⟩
  · rintro ⟨before, separator, ⟨rfl, ⟨next, head, separates⟩, first⟩, rfl⟩
    obtain ⟨rest, rfl⟩ := List.head?_eq_some_iff.mp head
    exact splitAtSeparator?_eq_some separates first

theorem Divided.separated {ls before after : List (List Char)} {separator : List Char}
    (divided : Divided ls before separator after) : Separated ls := by
  obtain ⟨next, head, separates⟩ := divided.separates
  obtain ⟨rest, rfl⟩ := List.head?_eq_some_iff.mp head
  exact ⟨before, separator, next, rest, divided.lines_eq, separates⟩

/-- Lines with a separator are divided at one. -/
theorem Separated.exists_divided {ls : List (List Char)} (separated : Separated ls) :
    ∃ before separator after, Divided ls before separator after := by
  cases split : splitAtSeparator? [] ls with
  | none => exact absurd separated (splitAtSeparator?_eq_none_iff.mp split)
  | some parts =>
      obtain ⟨text, after⟩ := parts
      obtain ⟨before, separator, divided, -⟩ := splitAtSeparator?_eq_some_iff.mp split
      exact ⟨before, separator, after, divided⟩

/-! ### The content of a message -/

section Content

variable {content : String} {before after : List (List Char)} {separator : List Char}

/-- A header for the body stands right after the separator. -/
theorem Divided.opens_head {ls : List (List Char)} (divided : Divided ls before separator after) :
    ∃ next ∈ after.head?, Opens (Text.dropLineEnd before.flatten) next := by
  obtain ⟨next, head, -, opens⟩ := divided.separates
  exact ⟨next, head, opens_dropLineEnd_iff.mpr opens⟩

theorem Divided.sections_ne_nil {ls : List (List Char)}
    (divided : Divided ls before separator after) :
    sections (Text.dropLineEnd before.flatten) after ≠ [] := by
  obtain ⟨next, head, label, header⟩ := divided.opens_head
  obtain ⟨rest, rfl⟩ := List.head?_eq_some_iff.mp head
  rw [sections, header?_eq_some_iff.mpr header]
  exact List.cons_ne_nil _ _

/-- The bodies of divided content are the sections after the separator. -/
theorem Divided.ofContent (divided : Divided (lines content.toList) before separator after) :
    Parsed.ofContent content =
      { segments :=
          splitReferences (Bodies.ofSections (sections (Text.dropLineEnd before.flatten) after)) []
            (Text.dropLineEnd before.flatten)
        bodies := Bodies.ofSections (sections (Text.dropLineEnd before.flatten) after) } := by
  have split := splitAtSeparator?_eq_some_iff.mpr ⟨before, separator, divided, rfl⟩
  exact Parsed.ofContent_eq split divided.sections_ne_nil

theorem Divided.hasAttachments (divided : Divided (lines content.toList) before separator after) :
    (Parsed.ofContent content).hasAttachments = true := by
  rw [divided.ofContent, Parsed.hasAttachments, Bool.not_eq_true', List.isEmpty_eq_false_iff]
  exact Bodies.ofSections_ne_nil divided.sections_ne_nil

/-- The body of divided content is the text before the separator without the line ends at its
end. -/
theorem Divided.toList_written (divided : Divided (lines content.toList) before separator after) :
    (Parsed.ofContent content).written.toList = Text.dropLineEnd before.flatten := by
  have split := splitAtSeparator?_eq_some_iff.mpr ⟨before, separator, divided, rfl⟩
  exact (Parsed.ofContent_of_separator split divided.sections_ne_nil).2

/-- Content without a separator is text as it stands. -/
theorem Parsed.ofContent_of_not_separated (whole : ¬ Separated (lines content.toList)) :
    Parsed.ofContent content = .plain content := by
  have none : splitAtSeparator? [] (lines content.toList) = none :=
    splitAtSeparator?_eq_none_iff.mpr whole
  rw [Parsed.ofContent, none]

/-- Content with texts attached to it is divided. -/
theorem Parsed.exists_divided (attached : (Parsed.ofContent content).hasAttachments = true) :
    ∃ before separator after, Divided (lines content.toList) before separator after := by
  by_cases separated : Separated (lines content.toList)
  · exact separated.exists_divided
  · rw [Parsed.ofContent_of_not_separated separated] at attached
    cases attached

end Content

/-- Content has texts attached exactly if a line of four dashes stands in it right before a header
for the text above. Without one it is one text, and nothing is attached; with one, its segments
written one after another are the text above the first such line, without the line ends at its
end. -/
theorem attached_iff_separated (content : String) :
    ((Parsed.ofContent content).hasAttachments = true ↔ Separated (lines content.toList)) ∧
    (¬ Separated (lines content.toList) →
      Parsed.ofContent content = { segments := [.text content], bodies := [] }) ∧
    (Separated (lines content.toList) →
      ∃ before separator after, Divided (lines content.toList) before separator after ∧
        (Parsed.ofContent content).written.toList = Text.dropLineEnd before.flatten) := by
  refine ⟨⟨?_, ?_⟩, Parsed.ofContent_of_not_separated, ?_⟩
  · intro attached
    obtain ⟨before, separator, after, divided⟩ := Parsed.exists_divided attached
    exact divided.separated
  · intro separated
    obtain ⟨before, separator, after, divided⟩ := separated.exists_divided
    exact divided.hasAttachments
  · intro separated
    obtain ⟨before, separator, after, divided⟩ := separated.exists_divided
    exact ⟨before, separator, after, divided, divided.toList_written⟩

end Scrollback.Attachment
