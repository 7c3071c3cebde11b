import Scrollback.Proofs.Attachment.Reader

/-!
Reading undoes composing.

A message is composed of a body, a separator and texts attached under labels
(`compose`). When the body holds no separator of its own, the labels can stand in
headers and the texts hold no header (`Composable`), the message is read as the body
and the attached texts it was composed of (`ofContent_compose`).
-/

namespace Scrollback.Attachment

open Text (lines isLineEnd EndsOutside Reads)

/-! ### Composed messages -/

/-- An attached text as it is written: its header, the text, and a line feed. -/
def labelled (label text : String) : String :=
  "-- " ++ label ++ " --\n" ++ text ++ "\n"

/-- A message as it is written: the body, the separator, and the attached texts. -/
def compose (body : String) (attached : List (String × String)) : String :=
  body ++ "\n\n----\n" ++ String.join (attached.map fun a => labelled a.1 a.2)

/-- A text can be attached to a body under a label: the label can stand in a header for
the body, and no line of the text is one. -/
structure Attachable (body label text : String) : Prop where
  label_ne_empty : label ≠ ""
  label_trimmed : Text.trim label = label
  label_single : '\n' ∉ label.toList
  label_admitted : Admits body.toList label.toList
  text_ends : EndsOutside isLineEnd text.toList
  text_plain : ∀ line ∈ lines text.toList, ¬ Opens body.toList line

/-- Texts can be attached to a body: each under a label of its own, and the body has no
separator among its lines. -/
structure Composable (body : String) (attached : List (String × String)) : Prop where
  attached_ne_nil : attached ≠ []
  body_ends : EndsOutside isLineEnd body.toList
  body_whole : ¬ Separated (lines body.toList)
  labels_nodup : (attached.map Prod.fst).Nodup
  attachable : ∀ a ∈ attached, Attachable body a.1 a.2

/-! ### The lines of a composed message -/

/-- The header line for a label. -/
def headerLine (label : String) : List Char :=
  dashed label.toList ++ ['\n']

/-- The lines of attached texts: for each its header and the lines of the text. -/
def attachedLines (attached : List (String × String)) : List (List Char) :=
  attached.flatMap fun a => headerLine a.1 :: lines (a.2.toList ++ ['\n'])

theorem attachedLines_cons (a : String × String) (rest : List (String × String)) :
    attachedLines (a :: rest) =
      headerLine a.1 :: (lines (a.2.toList ++ ['\n']) ++ attachedLines rest) :=
  rfl

theorem toList_labelled (label text : String) :
    (labelled label text).toList =
      dashed label.toList ++ '\n' :: (text.toList ++ ['\n']) := by
  simp [labelled, dashed]

theorem lines_attached {attached : List (String × String)}
    (single : ∀ a ∈ attached, '\n' ∉ a.1.toList) :
    lines (attached.flatMap fun a => (labelled a.1 a.2).toList) = attachedLines attached := by
  induction attached with
  | nil => rfl
  | cons first rest ih =>
      have header : lines (dashed first.1.toList ++ ['\n']) = [headerLine first.1] := by
        apply Text.lines_of_not_mem
        simp [dashed, single first List.mem_cons_self]
      have linesRest := ih fun a mem => single a (List.mem_cons_of_mem _ mem)
      calc lines ((first :: rest).flatMap fun a => (labelled a.1 a.2).toList)
          = lines (dashed first.1.toList ++ '\n' :: (first.2.toList ++
              '\n' :: rest.flatMap fun a => (labelled a.1 a.2).toList)) := by
            rw [List.flatMap_cons, toList_labelled]
            simp
        _ = headerLine first.1 :: (lines (first.2.toList ++ ['\n']) ++ attachedLines rest) := by
            rw [Text.lines_append_cons (dashed _), header, Text.lines_append_cons first.2.toList, linesRest]
            rfl
        _ = attachedLines (first :: rest) := (attachedLines_cons first rest).symm

/-- The lines of a composed message: the body with its line ended, a blank line, the
separator, and the attached texts. -/
theorem lines_compose {body : String} {attached : List (String × String)}
    (single : ∀ a ∈ attached, '\n' ∉ a.1.toList) :
    lines (compose body attached).toList =
      (lines (body.toList ++ ['\n']) ++ [['\n']]) ++
        ['-', '-', '-', '-', '\n'] :: attachedLines attached := by
  have written : (compose body attached).toList = body.toList ++ '\n' :: '\n' ::
      (['-', '-', '-', '-'] ++ '\n' :: attached.flatMap fun a => (labelled a.1 a.2).toList) := by
    simp [compose, String.toList_join, List.flatMap_map]
  have dashes : lines (['-', '-', '-', '-'] ++ ['\n']) = [['-', '-', '-', '-', '\n']] := rfl
  rw [written, Text.lines_append_cons body.toList, Text.lines_lineFeed_cons,
    Text.lines_append_cons ['-', '-', '-', '-'], dashes, lines_attached single, List.append_assoc]
  rfl

/-! ### Headers -/

section Headers

variable {body : String} {attached : List (String × String)}

/-- The header line for a label that can stand in one is the header for it. -/
theorem Attachable.isHeader {label text : String} (attachable : Attachable body label text) :
    IsHeader body.toList (headerLine label) label.toList where
  reads := by
    refine ⟨label.toList, ⟨['\n'], rfl, by simp [isLineEnd]⟩, ?_⟩
    have trimmed := congrArg String.toList attachable.label_trimmed
    rwa [Text.trim, String.toList_ofList] at trimmed
  ne_nil := by
    intro nil
    exact attachable.label_ne_empty (String.toList_eq_nil_iff.mp nil)
  admitted := attachable.label_admitted

/-- The first line of attached texts opens one. -/
theorem opens_head (attachable : ∀ a ∈ attached, Attachable body a.1 a.2) :
    ∀ line ∈ (attachedLines attached).head?, Opens body.toList line := by
  intro line first
  cases attached with
  | nil => cases first
  | cons a rest =>
      cases first
      exact ⟨_, (attachable a List.mem_cons_self).isHeader⟩

/-- The sections of the lines of attached texts are these texts. -/
theorem sections_attachedLines (attachable : ∀ a ∈ attached, Attachable body a.1 a.2) :
    sections body.toList (attachedLines attached) = attached := by
  induction attached with
  | nil => rfl
  | cons a rest ih =>
      have first := attachable a List.mem_cons_self
      have later : ∀ b ∈ rest, Attachable body b.1 b.2 := by
        intro b mem
        exact attachable b (List.mem_cons_of_mem _ mem)
      have feed : ∀ c ∈ ['\n'], isLineEnd c = true := by simp [isLineEnd]
      have plain := (none_opens_append_iff feed).mpr first.text_plain
      have text : Text.dropLineEnd (a.2.toList ++ ['\n']) = a.2.toList :=
        Text.dropLineEnd_append first.text_ends (by simp [isLineEnd])
      rw [attachedLines_cons, sections_cons_append first.isHeader plain (opens_head later), Text.flatten_lines,
        text, String.ofList_toList, String.ofList_toList]
      exact congrArg (a :: ·) (ih later)

end Headers

/-! ### The message read -/

section Reading

variable {body : String} {attached : List (String × String)}

/-- The separator that is found is the one that was put after the body. -/
theorem Composable.splitAtSeparator? (composable : Composable body attached) :
    splitAtSeparator? [] (lines (compose body attached).toList) =
      some (body.toList ++ ['\n', '\n'], attachedLines attached) := by
  have single : ∀ a ∈ attached, '\n' ∉ a.1.toList := by
    intro a mem
    exact (composable.attachable a mem).label_single
  rw [lines_compose single]
  cases attached with
  | nil => exact absurd rfl composable.attached_ne_nil
  | cons a rest =>
      have before : (lines (body.toList ++ ['\n']) ++ [['\n']]).flatten =
          body.toList ++ ['\n', '\n'] := by
        simp [Text.flatten_lines]
      have header := (composable.attachable a List.mem_cons_self).isHeader
      have separates : Separates (lines (body.toList ++ ['\n']) ++ [['\n']]).flatten
          ['-', '-', '-', '-', '\n'] (headerLine a.1) := by
        rw [before]
        exact ⟨⟨['\n'], rfl, by simp [isLineEnd]⟩, _, header.append _⟩
      have first : ¬ Separated ((lines (body.toList ++ ['\n']) ++ [['\n']]) ++
          [['-', '-', '-', '-', '\n']]) := by
        intro separated
        have inBody := separated.of_append_plain not_opens_dashes
        have inLines := inBody.of_append_plain not_opens_blank
        exact composable.body_whole inLines.of_lineFeed
      rw [attachedLines_cons, splitAtSeparator?_eq_some separates first, before]

end Reading

/-- A composed message is read as what it was composed of: its bodies are the attached
texts under their labels, and its segments written one after another are the body. -/
theorem ofContent_compose {body : String} {attached : List (String × String)}
    (composable : Composable body attached) :
    (Parsed.ofContent (compose body attached)).bodies.Perm attached ∧
      (Parsed.ofContent (compose body attached)).bodies.Ascending ∧
      (Parsed.ofContent (compose body attached)).written = body := by
  have text : Text.dropLineEnd (body.toList ++ ['\n', '\n']) = body.toList :=
    Text.dropLineEnd_append composable.body_ends (by simp [isLineEnd])
  have sectioned : sections (Text.dropLineEnd (body.toList ++ ['\n', '\n']))
      (attachedLines attached) = attached := by
    rw [text]
    exact sections_attachedLines composable.attachable
  have nonempty := composable.attached_ne_nil
  rw [← sectioned] at nonempty
  obtain ⟨bodies, written⟩ :=
    Parsed.ofContent_of_separator composable.splitAtSeparator? nonempty
  rw [sectioned] at bodies
  rw [text] at written
  rw [bodies]
  exact ⟨Bodies.perm_ofSections composable.labels_nodup, Bodies.ascending_ofSections attached,
    String.toList_inj.mp written⟩

namespace Sample

/-- A body with dashes that separate nothing and brackets that refer to nothing. -/
def body : String :=
  "Compare [notes] with [Text Attachment 1]\n----\nand [neither"

/-- A numbered text with a comment that is no header, and a text the body refers to. -/
def attached : List (String × String) :=
  [("notes", "----\n-- cleanup --\r\n[notes]"), ("Text Attachment 1", "")]

theorem composable : Composable body attached where
  attached_ne_nil := by decide
  body_ends := by decide
  body_whole := by decide
  labels_nodup := by decide
  attachable := by
    intro a mem
    simp only [attached, List.mem_cons, List.not_mem_nil, or_false] at mem
    rcases mem with rfl | rfl
    · constructor <;> decide
    · constructor <;> decide

end Sample

/-- Two texts attached out of order come back, and the body as it was. -/
theorem ofContent_compose_sample :
    Composable Sample.body Sample.attached ∧
      (Parsed.ofContent (compose Sample.body Sample.attached)).bodies.Perm Sample.attached ∧
      (Parsed.ofContent (compose Sample.body Sample.attached)).bodies.Ascending ∧
      (Parsed.ofContent (compose Sample.body Sample.attached)).written = Sample.body :=
  ⟨Sample.composable, ofContent_compose Sample.composable⟩

end Scrollback.Attachment
