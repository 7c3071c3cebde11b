import Scrollback.Proofs.Attachment.Composition
import Scrollback.Proofs.Attachment.Separation

/-!
The sections after the separator.

The lines after the separator are sections, each a header and the lines up to the next one
(`InSections`), in one way only. The bodies are their texts under the labels of their
headers, the last one where a label comes again (`bodies_of_sections`), so nothing that
stands after the separator is lost but for a label that comes again and the line ends at the
end of a text.
-/

namespace Scrollback.Attachment

open Text (lines)

/-- A section: its header, the label of the header, and the lines after it. -/
structure Section where
  label : List Char
  header : List Char
  lines : List (List Char)

/-- The text of a section: its lines, without the line ends at their end. -/
def Section.text (s : Section) : String :=
  String.ofList (Text.dropLineEnd s.lines.flatten)

/-- Lines are sections for a body: each section is a header for the body and lines that are none,
and the next one follows. -/
inductive InSections (body : List Char) : List (List Char) → List Section → Prop where
  | nil : InSections body [] []
  | cons {header label : List Char} {ls rest : List (List Char)} {ss : List Section} :
      IsHeader body header label → (∀ line ∈ ls, ¬ Opens body line) → InSections body rest ss →
      InSections body (header :: (ls ++ rest)) (⟨label, header, ls⟩ :: ss)

namespace InSections

variable {body : List Char} {ls : List (List Char)} {ss : List Section}

/-! ### Cutting lines into sections -/

/-- Sections begin with a header. -/
theorem opens_head (sectioned : InSections body ls ss) : ∀ line ∈ ls.head?, Opens body line := by
  intro line first
  cases sectioned with
  | nil => cases first
  | cons isHeader plain rest =>
      cases first
      exact ⟨_, isHeader⟩

/-- Any lines are sections after lines that are no headers. -/
theorem exists_after_plain (body : List Char) (ls : List (List Char)) :
    ∃ front rest ss, ls = front ++ rest ∧ (∀ line ∈ front, ¬ Opens body line) ∧
      InSections body rest ss := by
  induction ls with
  | nil => exact ⟨[], [], [], rfl, by simp, .nil⟩
  | cons line ls ih =>
      obtain ⟨front, rest, ss, rfl, plain, sectioned⟩ := ih
      by_cases opens : Opens body line
      · obtain ⟨label, isHeader⟩ := opens
        exact ⟨[], _, _, rfl, by simp, .cons isHeader plain sectioned⟩
      · exact ⟨line :: front, rest, ss, rfl, List.forall_mem_cons.mpr ⟨opens, plain⟩, sectioned⟩

/-- Lines that begin with a header are sections. -/
theorem exists_of_opens_head (first : ∃ line ∈ ls.head?, Opens body line) :
    ∃ ss, InSections body ls ss := by
  obtain ⟨front, rest, ss, rfl, plain, sectioned⟩ := exists_after_plain body ls
  obtain ⟨line, head, opens⟩ := first
  cases front with
  | nil => exact ⟨ss, sectioned⟩
  | cons other front =>
      cases head
      exact absurd opens (plain line List.mem_cons_self)

/-- Lines are sections in one way only. -/
theorem unique {other : List Section} (sectioned : InSections body ls ss)
    (again : InSections body ls other) : other = ss := by
  induction sectioned generalizing other with
  | nil =>
      cases again
      rfl
  | @cons header label ls rest ss isHeader plain sectioned ih =>
      generalize eq : header :: (ls ++ rest) = all at again
      cases again with
      | nil => cases eq
      | @cons header' label' ls' rest' ss' isHeader' plain' sectioned' =>
          obtain ⟨rfl, tails⟩ := List.cons.inj eq
          -- Both ways take the lines up to the next header, so they leave the same lines.
          have taken := takeWhile_append_plain plain sectioned.opens_head
          rw [tails, takeWhile_append_plain plain' sectioned'.opens_head] at taken
          subst taken
          obtain rfl := List.append_cancel_left tails
          rw [ih sectioned', isHeader.label_unique isHeader']

/-- A section stands among the lines, in front of the next one. -/
theorem exists_append (sectioned : InSections body ls ss) {s : Section} (mem : s ∈ ss) :
    (∃ front back, ls = front ++ s.header :: (s.lines ++ back)) ∧
      IsHeader body s.header s.label ∧ ∀ line ∈ s.lines, ¬ Opens body line := by
  induction sectioned with
  | nil => cases mem
  | @cons header label ls rest ss isHeader plain sectioned ih =>
      rcases List.mem_cons.mp mem with rfl | later
      · exact ⟨⟨[], rest, rfl⟩, isHeader, plain⟩
      · obtain ⟨⟨front, back, rfl⟩, own⟩ := ih later
        exact ⟨⟨header :: (ls ++ front), back, by simp⟩, own⟩

/-- A header among the lines is the header of a section. -/
theorem exists_of_isHeader (sectioned : InSections body ls ss) {line label : List Char}
    (mem : line ∈ ls) (isHeader : IsHeader body line label) : ∃ s ∈ ss, s.label = label := by
  induction sectioned with
  | nil => cases mem
  | @cons header label' ls rest ss isHeader' plain sectioned ih =>
      rw [List.mem_cons, List.mem_append] at mem
      rcases mem with rfl | among | later
      · exact ⟨_, List.mem_cons_self, isHeader.label_unique isHeader'⟩
      · exact absurd ⟨label, isHeader⟩ (plain line among)
      · obtain ⟨s, memS, eq⟩ := ih later
        exact ⟨s, List.mem_cons_of_mem _ memS, eq⟩

/-- What the reader finds: the texts of the sections under their labels. -/
theorem sections_eq (sectioned : InSections body ls ss) :
    sections body ls = ss.map fun s => (String.ofList s.label, s.text) := by
  induction sectioned with
  | nil => rfl
  | cons isHeader plain sectioned ih =>
      rw [sections_cons_append isHeader plain sectioned.opens_head, ih]
      rfl

/-! ### The bodies -/

/-- Under a label stands the text of a section with it. -/
theorem exists_of_get? (sectioned : InSections body ls ss) {label text : String}
    (found : (Bodies.ofSections (sections body ls)).get? label = some text) :
    ∃ s ∈ ss, String.ofList s.label = label ∧ s.text = text := by
  rw [Bodies.get?_ofSections, sectioned.sections_eq, Option.map_eq_some_iff] at found
  obtain ⟨entry, entryFound, rfl⟩ := found
  have mem := List.mem_of_find?_eq_some entryFound
  rw [List.mem_reverse, List.mem_map] at mem
  obtain ⟨s, memS, rfl⟩ := mem
  have same := List.find?_some entryFound
  exact ⟨s, memS, (of_decide_eq_true same).symm, rfl⟩

/-- Under a label stands the text of the last section with it. -/
theorem get?_last (sectioned : InSections body ls ss) {front back : List Section} {s : Section}
    (eq : ss = front ++ s :: back) (last : ∀ t ∈ back, t.label ≠ s.label) :
    (Bodies.ofSections (sections body ls)).get? (String.ofList s.label) = some s.text := by
  have none : (back.map fun t => (String.ofList t.label, t.text)).reverse.find?
      (fun entry => String.ofList s.label = entry.1) = none := by
    rw [List.find?_eq_none]
    intro entry mem
    rw [List.mem_reverse, List.mem_map] at mem
    obtain ⟨t, memT, rfl⟩ := mem
    rw [decide_eq_true_eq, String.ofList_inj]
    exact Ne.symm (last t memT)
  rw [Bodies.get?_ofSections, sectioned.sections_eq, eq, List.map_append, List.map_cons,
    List.reverse_append, List.reverse_cons, List.append_assoc, List.find?_append, none]
  simp

/-- The labels of the bodies are those of the headers. -/
theorem contains_iff (sectioned : InSections body ls ss) (label : String) :
    (Bodies.ofSections (sections body ls)).contains label = true ↔
      ∃ line ∈ ls, IsHeader body line label.toList := by
  constructor
  · intro known
    obtain ⟨text, found⟩ := Option.isSome_iff_exists.mp known
    obtain ⟨s, mem, rfl, -⟩ := sectioned.exists_of_get? found
    obtain ⟨⟨front, back, rfl⟩, isHeader, -⟩ := sectioned.exists_append mem
    rw [String.toList_ofList]
    exact ⟨s.header, by simp, isHeader⟩
  · rintro ⟨line, mem, isHeader⟩
    obtain ⟨s, memS, same⟩ := sectioned.exists_of_isHeader mem isHeader
    rw [Bodies.contains, Bodies.get?_ofSections, sectioned.sections_eq, Option.isSome_map,
      List.find?_isSome]
    refine ⟨(String.ofList s.label, s.text), by simpa using ⟨s, memS, rfl, rfl⟩, ?_⟩
    rw [same, String.ofList_toList, decide_eq_true_eq]

/-- A section among the lines of a text can be attached to the body. -/
theorem attachable {body : String} (sectioned : InSections body.toList ls ss) {cs : List Char}
    {passed : List (List Char)} (eq : lines cs = passed ++ ls) {s : Section} (mem : s ∈ ss) :
    Attachable body (String.ofList s.label) s.text := by
  obtain ⟨⟨front, back, rfl⟩, isHeader, plain⟩ := sectioned.exists_append mem
  have headerMem : s.header ∈ lines cs := by simp [eq]
  have own : lines s.lines.flatten = s.lines := by
    have cut : lines cs = (passed ++ front ++ [s.header]) ++ (s.lines ++ back) := by simp [eq]
    exact (Text.lines_flatten_append (Text.lines_flatten_append cut).2).1
  obtain ⟨outside, ending, dropped, ends⟩ :=
    Text.dropLineEnd_eq_iff.mp (Eq.refl (Text.dropLineEnd s.lines.flatten))
  have kept : ∀ line ∈ lines (Text.dropLineEnd s.lines.flatten), ¬ Opens body.toList line := by
    rw [← none_opens_append_iff ends, ← dropped, own]
    exact plain
  constructor
  case label_ne_empty =>
    intro empty
    exact isHeader.ne_nil (String.ofList_eq_empty_iff.mp empty)
  case label_trimmed => rw [Text.trim, String.toList_ofList, isHeader.strip_label]
  case label_single =>
    rw [String.toList_ofList]
    exact isHeader.lineFeed_not_mem headerMem
  case label_admitted =>
    rw [String.toList_ofList]
    exact isHeader.admitted
  case text_ends =>
    rw [Section.text, String.toList_ofList]
    exact outside
  case text_plain =>
    rw [Section.text, String.toList_ofList]
    exact kept

end InSections

/-- Bodies are read from lines that follow the body of a message. The lines begin with a header, so
each of them is in a section, and they are sections in one way only. The labels of the bodies are
those of the headers, and under a label stands the text of the last section with it. What stands
there could be attached to the body again: the label is trimmed and on one line, and the text does
not end in a line end and has no header in it. -/
structure ReadFrom (bodies : Bodies) (body : String) (after : List (List Char))
    (ss : List Section) : Prop where
  begins : ∃ line ∈ after.head?, Opens body.toList line
  sectioned : InSections body.toList after ss
  unique : ∀ other, InSections body.toList after other → other = ss
  labels : ∀ label, bodies.contains label = true ↔
    ∃ line ∈ after, IsHeader body.toList line label.toList
  texts : ∀ front s back, ss = front ++ s :: back → (∀ t ∈ back, t.label ≠ s.label) →
    bodies.get? (String.ofList s.label) = some s.text
  attachable : ∀ label text, bodies.get? label = some text → Attachable body label text

theorem InSections.readFrom {body : String} {after : List (List Char)} {ss : List Section}
    (sectioned : InSections body.toList after ss)
    (begins : ∃ line ∈ after.head?, Opens body.toList line) {cs : List Char}
    {passed : List (List Char)} (eq : lines cs = passed ++ after) :
    ReadFrom (Bodies.ofSections (sections body.toList after)) body after ss where
  begins := begins
  sectioned := sectioned
  unique _ := sectioned.unique
  labels := sectioned.contains_iff
  texts _ _ _ := sectioned.get?_last
  attachable label text found := by
    obtain ⟨s, mem, rfl, rfl⟩ := sectioned.exists_of_get? found
    exact sectioned.attachable eq mem

/-- The bodies of content with attached texts are read from the lines after its first separator. -/
theorem bodies_of_sections {content : String}
    (attached : (Parsed.ofContent content).hasAttachments = true) :
    ∃ before separator after body ss,
      Divided (lines content.toList) before separator after ∧
      body.toList = Text.dropLineEnd before.flatten ∧
      ReadFrom (Parsed.ofContent content).bodies body after ss := by
  obtain ⟨before, separator, after, divided⟩ := Parsed.exists_divided attached
  obtain ⟨body, eq⟩ : ∃ body : String, body.toList = Text.dropLineEnd before.flatten :=
    ⟨String.ofList _, String.toList_ofList⟩
  have begins := divided.opens_head
  rw [← eq] at begins
  obtain ⟨ss, sectioned⟩ := InSections.exists_of_opens_head begins
  have passed : lines content.toList = (before ++ [separator]) ++ after := by
    rw [divided.lines_eq, List.append_assoc]
    rfl
  refine ⟨before, separator, after, body, ss, divided, eq, ?_⟩
  rw [divided.ofContent, ← eq]
  exact sectioned.readFrom begins passed

/-- A rule that separates nothing, a section without text, and a label that comes again. -/
def Sample.renewed : String :=
  "On [notes]\n----\n[b\r\n\n----\r\n-- notes --\nold\n-- b --\n" ++
    "-- Text Attachment 1 --\n\r\n--  notes --\nnew\n----\n\n"

/-- The bodies of content in which a label comes twice. -/
theorem bodies_of_sections_renewed :
    (Parsed.ofContent Sample.renewed).hasAttachments = true ∧
      ∃ before separator after body ss,
        Divided (lines Sample.renewed.toList) before separator after ∧
        body.toList = Text.dropLineEnd before.flatten ∧
        ReadFrom (Parsed.ofContent Sample.renewed).bodies body after ss := by
  have attached : (Parsed.ofContent Sample.renewed).hasAttachments = true := by decide +kernel
  exact ⟨attached, bodies_of_sections attached⟩

/-- The text that came first under that label is not kept. -/
example : (Parsed.ofContent Sample.renewed).bodies =
    [("Text Attachment 1", ""), ("notes", "new\n----")] := by
  decide +kernel

end Scrollback.Attachment
