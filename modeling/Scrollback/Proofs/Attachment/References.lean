import Scrollback.Proofs.Attachment.Sections

/-!
References in the body of a message.

A body is cut into silent text, in which no brackets stand around a label of the bodies, and
references between (`Segmented`). So references are complete in the text between them
(`wellSegmented_of_attached`). Yet a label that stands in brackets need not be a reference: brackets
close at the first closing bracket, and of the brackets that close at one place the widest around
a label are read (`Calls`). A text attached under such a label is out of reach although the body
names it (`reference_iff_called`).
-/

namespace Scrollback.Attachment

/-! ### Brackets -/

/-- A text is read up to its first closing bracket. -/
theorem toClosing?_eq_some_iff {cs label rest : List Char} :
    toClosing? cs = some (label, rest) ↔ ']' ∉ label ∧ cs = label ++ ']' :: rest := by
  constructor
  · intro found
    refine ⟨?_, eq_of_toClosing? found⟩
    unfold toClosing? at found
    split at found
    · cases found
    · cases found
      intro closing
      have differs := List.all_eq_true.mp List.all_takeWhile ']' closing
      simp at differs
  · rintro ⟨unclosed, rfl⟩
    have differ : ∀ c ∈ label, (c != ']') = true := by
      intro c mem
      exact bne_iff_ne.mpr fun same => unclosed (same ▸ mem)
    rw [toClosing?, List.dropWhile_append_of_pos differ, List.takeWhile_append_of_pos differ]
    simp

theorem toClosing?_eq_none_iff {cs : List Char} : toClosing? cs = none ↔ ']' ∉ cs := by
  rw [Option.eq_none_iff_forall_ne_some]
  constructor
  · intro never mem
    obtain ⟨label, rest, eq, unclosed⟩ := List.eq_append_cons_of_mem mem
    exact never (label, rest) (toClosing?_eq_some_iff.mpr ⟨unclosed, eq⟩)
  · rintro outside ⟨label, rest⟩ found
    obtain ⟨-, rfl⟩ := toClosing?_eq_some_iff.mp found
    simp at outside

/-- The first closing bracket stands at one place. -/
theorem eq_of_append_closing {label other rest after : List Char} (unclosed : ']' ∉ label)
    (otherUnclosed : ']' ∉ other) (eq : label ++ ']' :: rest = other ++ ']' :: after) :
    label = other ∧ rest = after := by
  have first : toClosing? (label ++ ']' :: rest) = some (label, rest) :=
    toClosing?_eq_some_iff.mpr ⟨unclosed, rfl⟩
  rw [eq, toClosing?_eq_some_iff.mpr ⟨otherUnclosed, rfl⟩] at first
  cases first
  exact ⟨rfl, rfl⟩

/-! ### Silent text -/

/-- A text is silent in front of another: no bracket in it opens around a label of the bodies. -/
def Silent (bodies : Bodies) (text rest : List Char) : Prop :=
  ∀ front inner label after, text = front ++ '[' :: inner → inner ++ rest = label ++ ']' :: after →
    ']' ∉ label → bodies.contains (String.ofList label) = false

section Silent

variable {bodies : Bodies} {text rest label : List Char}

theorem silent_nil (bodies : Bodies) (rest : List Char) : Silent bodies [] rest := by
  intro front inner label after eq
  simp at eq

/-- A character more is silent unless it is a bracket that opens around a label of the bodies. -/
theorem Silent.append_singleton {c : Char} (silent : Silent bodies text (c :: rest))
    (foreign : c = '[' → ∀ label after, rest = label ++ ']' :: after → ']' ∉ label →
      bodies.contains (String.ofList label) = false) :
    Silent bodies (text ++ [c]) rest := by
  intro front inner label after eq closed unclosed
  rcases List.eq_nil_or_concat inner with rfl | ⟨init, last, rfl⟩
  · obtain ⟨-, lasts⟩ := List.append_inj' eq rfl
    cases lasts
    exact foreign rfl label after closed unclosed
  · rw [List.concat_eq_append, ← List.cons_append, ← List.append_assoc] at eq
    obtain ⟨inits, lasts⟩ := List.append_inj' eq rfl
    cases lasts
    rw [List.concat_eq_append, List.append_assoc] at closed
    exact silent front init label after inits closed unclosed

/-- No label of the bodies stands in brackets in silent text, but for labels with a closing bracket
in them. -/
theorem Silent.not_infix (silent : Silent bodies text rest)
    (known : bodies.contains (String.ofList label) = true) (unclosed : ']' ∉ label) :
    ¬ '[' :: label ++ [']'] <:+: text := by
  rintro ⟨front, back, eq⟩
  have foreign := silent front (label ++ ']' :: back) label (back ++ rest) (by simp [← eq])
    (by simp) unclosed
  rw [known] at foreign
  cases foreign

end Silent

/-! ### The segments of a body -/

/-- Segments of a text: silent text, a reference to a label of the bodies, and so on. -/
inductive Segmented (bodies : Bodies) : List Char → List Segment → Prop where
  | text {cs : List Char} : Silent bodies cs [] → Segmented bodies cs (flush cs.reverse [])
  | reference {front label rest : List Char} {segments : List Segment} :
      Silent bodies front ('[' :: (label ++ ']' :: rest)) → ']' ∉ label →
      bodies.contains (String.ofList label) = true → Segmented bodies rest segments →
      Segmented bodies (front ++ '[' :: (label ++ ']' :: rest))
        (flush front.reverse (.reference (String.ofList label) :: segments))

/-- The reader cuts a body into segments. Pending text is silent. -/
theorem segmented_splitReferences {bodies : Bodies} {pending cs : List Char}
    (silent : Silent bodies pending.reverse cs) :
    Segmented bodies (pending.reverse ++ cs) (splitReferences bodies pending cs) := by
  fun_induction splitReferences bodies pending cs with
  | case1 pending =>
      have segmented := Segmented.text silent
      rwa [List.reverse_reverse, ← List.append_nil pending.reverse] at segmented
  | case2 pending cs label rest found ours ih =>
      obtain ⟨unclosed, rfl⟩ := toClosing?_eq_some_iff.mp found
      have segmented := Segmented.reference silent unclosed ours (ih (silent_nil bodies rest))
      rwa [List.reverse_reverse] at segmented
  | case3 pending cs label rest found foreign ih =>
      obtain ⟨unclosed, rfl⟩ := toClosing?_eq_some_iff.mp found
      rw [List.reverse_cons, ← List.append_cons] at ih
      apply ih
      apply silent.append_singleton
      -- Whatever label is said to stand in these brackets is the one that was looked up.
      intro _ label' rest' eq unclosed'
      obtain ⟨rfl, -⟩ := eq_of_append_closing unclosed unclosed' eq
      exact Bool.eq_false_iff.mpr foreign
  | case4 pending cs none ih =>
      rw [List.reverse_cons, ← List.append_cons] at ih
      apply ih
      apply silent.append_singleton
      rintro - label rest rfl
      have outside := toClosing?_eq_none_iff.mp none
      simp at outside
  | case5 pending c cs other ih =>
      rw [List.reverse_cons, ← List.append_cons] at ih
      exact ih (silent.append_singleton fun bracket => absurd bracket other)

theorem mem_flush_reverse {text : List Char} {segments : List Segment} {segment : Segment} :
    segment ∈ flush text.reverse segments ↔
      (text ≠ [] ∧ segment = .text (String.ofList text)) ∨ segment ∈ segments := by
  rw [flush, List.reverse_reverse]
  split
  · rename_i empty
    rw [List.isEmpty_iff, List.reverse_eq_nil_iff] at empty
    simp [empty]
  · rename_i nonempty
    rw [List.isEmpty_iff, List.reverse_eq_nil_iff] at nonempty
    rw [List.mem_cons, and_iff_right nonempty]

theorem infix_reference_cons {s t label : String} {segments : List Segment} :
    [.text s, .text t] <:+: .reference label :: segments ↔ [.text s, .text t] <:+: segments := by
  rw [List.infix_cons_iff, List.cons_prefix_cons, or_iff_right]
  rintro ⟨same, -⟩
  cases same

namespace Segmented

variable {bodies : Bodies} {cs : List Char} {segments : List Segment}

/-- A segment is a text, not empty and silent in front of what follows it, or a reference to a
label of the bodies. -/
theorem of_mem (segmented : Segmented bodies cs segments) {segment : Segment}
    (mem : segment ∈ segments) :
    (∃ text rest, segment = .text (String.ofList text) ∧ text ≠ [] ∧ Silent bodies text rest) ∨
      ∃ label, segment = .reference label ∧ bodies.contains label = true := by
  induction segmented with
  | text silent =>
      rw [mem_flush_reverse] at mem
      rcases mem with ⟨nonempty, rfl⟩ | never
      · exact .inl ⟨_, _, rfl, nonempty, silent⟩
      · cases never
  | reference silent unclosed ours segmented ih =>
      rw [mem_flush_reverse, List.mem_cons] at mem
      rcases mem with ⟨nonempty, rfl⟩ | rfl | later
      · exact .inl ⟨_, _, rfl, nonempty, silent⟩
      · exact .inr ⟨_, rfl, ours⟩
      · exact ih later

/-- A text segment is not empty, and it is silent in front of what follows it. -/
theorem silent_text (segmented : Segmented bodies cs segments) {text : String}
    (mem : .text text ∈ segments) : text ≠ "" ∧ ∃ rest, Silent bodies text.toList rest := by
  rcases segmented.of_mem mem with ⟨text, rest, same, nonempty, silent⟩ | ⟨label, same, -⟩
  · cases same
    rw [String.toList_ofList]
    exact ⟨fun empty => nonempty (String.ofList_eq_empty_iff.mp empty), rest, silent⟩
  · cases same

/-- Between two texts stands a reference. -/
theorem apart (segmented : Segmented bodies cs segments) (s t : String) :
    ¬ [.text s, .text t] <:+: segments := by
  induction segmented with
  | text silent =>
      unfold flush
      split
      · simp
      · intro both
        have short := both.length_le
        simp at short
  | reference silent unclosed ours segmented ih =>
      unfold flush
      split
      · rwa [infix_reference_cons]
      · rw [List.infix_cons_iff, infix_reference_cons, not_or]
        refine ⟨?_, ih⟩
        rw [List.cons_prefix_cons, List.cons_prefix_cons]
        rintro ⟨-, second, -⟩
        cases second

end Segmented

/-- What the segments of a body with bodies attached to it are: references are to labels of the
bodies, texts are not empty and stand apart, and no label of the bodies is left in brackets in a
text, but for labels with a closing bracket in them. -/
structure WellSegmented (bodies : Bodies) (segments : List Segment) : Prop where
  known : ∀ label, .reference label ∈ segments → bodies.contains label = true
  nonempty : ∀ text, .text text ∈ segments → text ≠ ""
  apart : ∀ s t, ¬ [.text s, .text t] <:+: segments
  complete : ∀ text label, .text text ∈ segments → bodies.contains label = true →
    ']' ∉ label.toList → ¬ '[' :: label.toList ++ [']'] <:+: text.toList

theorem Segmented.wellSegmented {bodies : Bodies} {cs : List Char} {segments : List Segment}
    (segmented : Segmented bodies cs segments) : WellSegmented bodies segments where
  known label mem := by
    rcases segmented.of_mem mem with ⟨_, _, same, -⟩ | ⟨_, same, known⟩
    · cases same
    · cases same
      exact known
  nonempty _ mem := (segmented.silent_text mem).1
  apart := segmented.apart
  complete text label mem known unclosed := by
    obtain ⟨-, rest, silent⟩ := segmented.silent_text mem
    have own : bodies.contains (String.ofList label.toList) = true := by
      rwa [String.ofList_toList]
    exact silent.not_infix own unclosed

/-- The segments of content with attached texts are those of its body. -/
theorem Parsed.segmented {content : String}
    (attached : (Parsed.ofContent content).hasAttachments = true) :
    Segmented (Parsed.ofContent content).bodies (Parsed.ofContent content).written.toList
      (Parsed.ofContent content).segments := by
  obtain ⟨before, separator, after, divided⟩ := Parsed.exists_divided attached
  rw [divided.toList_written, divided.ofContent]
  exact @segmented_splitReferences _ [] _ (silent_nil _ _)

/-- The segments of content with attached texts are its body, cut at every reference. -/
theorem wellSegmented_of_attached {content : String}
    (attached : (Parsed.ofContent content).hasAttachments = true) :
    WellSegmented (Parsed.ofContent content).bodies (Parsed.ofContent content).segments :=
  (Parsed.segmented attached).wellSegmented

/-- Stray brackets around references, before them and after them. -/
def Sample.bracketed : String :=
  "[see [[notes] of [items[0]] and [notes][Text Attachment 1]]\n----\n-- notes --\nold\n" ++
    "-- items[0] --\n0\n-- Text Attachment 1 --"

theorem wellSegmented_of_attached_bracketed :
    (Parsed.ofContent Sample.bracketed).hasAttachments = true ∧
      WellSegmented (Parsed.ofContent Sample.bracketed).bodies
        (Parsed.ofContent Sample.bracketed).segments := by
  have attached : (Parsed.ofContent Sample.bracketed).hasAttachments = true := by decide +kernel
  exact ⟨attached, wellSegmented_of_attached attached⟩

/-! ### Labels out of reach -/

/-- A text calls a label: it stands in brackets, has no closing bracket in it, and no wider brackets
that close at the same place stand around a label of the bodies. -/
def Calls (bodies : Bodies) (cs label : List Char) : Prop :=
  ']' ∉ label ∧ ∃ before after, cs = before ++ '[' :: (label ++ ']' :: after) ∧
    ∀ front inner, before = front ++ '[' :: inner → ']' ∉ inner →
      bodies.contains (String.ofList (inner ++ '[' :: label)) = false

section Calls

variable {bodies : Bodies} {front own rest label : List Char}

/-- Silent text calls no label of the bodies. -/
theorem Silent.not_calls (silent : Silent bodies front [])
    (known : bodies.contains (String.ofList label) = true) : ¬ Calls bodies front label := by
  rintro ⟨unclosed, before, after, eq, -⟩
  have foreign := silent before (label ++ ']' :: after) label after eq (List.append_nil _) unclosed
  rw [known] at foreign
  cases foreign

/-- What a text calls is called when text that ends in a closing bracket is put before it. -/
theorem Calls.append_closing (calls : Calls bodies rest label) (stretch : List Char) :
    Calls bodies (stretch ++ ']' :: rest) label := by
  obtain ⟨unclosed, before, after, rfl, wider⟩ := calls
  refine ⟨unclosed, stretch ++ ']' :: before, after, by simp, ?_⟩
  intro outer inner eq innerUnclosed
  rcases List.append_eq_append_iff.mp eq with ⟨more, -, tail⟩ | ⟨more, -, tail⟩
  · cases more with
    | nil => cases tail
    | cons c more =>
        obtain ⟨-, tail⟩ := List.cons.inj tail
        exact wider more inner tail innerUnclosed
  · cases more with
    | nil => cases tail
    | cons c more =>
        obtain ⟨-, rfl⟩ := List.cons.inj tail
        simp at innerUnclosed

/-- Of the brackets that close where a reference does, those of the reference are called. -/
theorem Silent.calls_own (silent : Silent bodies front ('[' :: (own ++ ']' :: rest)))
    (unclosed : ']' ∉ own) : Calls bodies (front ++ '[' :: (own ++ ']' :: rest)) own := by
  refine ⟨unclosed, front, rest, rfl, ?_⟩
  intro outer inner eq innerUnclosed
  apply silent outer inner (inner ++ '[' :: own) rest eq
  · simp
  · simp [innerUnclosed, unclosed]

/-- What is called in front of a reference, by it or after it, is the label of the reference or is
called after it. -/
theorem Silent.eq_or_calls (silent : Silent bodies front ('[' :: (own ++ ']' :: rest)))
    (unclosed : ']' ∉ own) (ours : bodies.contains (String.ofList own) = true)
    (known : bodies.contains (String.ofList label) = true)
    (calls : Calls bodies (front ++ '[' :: (own ++ ']' :: rest)) label) :
    label = own ∨ Calls bodies rest label := by
  obtain ⟨labelUnclosed, before, after, eq, wider⟩ := calls
  rcases List.append_eq_append_iff.mp eq with ⟨more, beforeEq, tail⟩ | ⟨more, frontEq, tail⟩
  · cases more with
    | nil =>
        obtain ⟨-, tail⟩ := List.cons.inj tail
        exact .inl (eq_of_append_closing unclosed labelUnclosed tail).1.symm
    | cons c more =>
        obtain ⟨rfl, closed⟩ := List.cons.inj tail
        change own ++ ']' :: rest = more ++ '[' :: (label ++ ']' :: after) at closed
        by_cases closing : ']' ∈ more
        · -- The brackets of the label open after those of the reference have closed.
          obtain ⟨first, later, rfl, firstUnclosed⟩ := List.eq_append_cons_of_mem closing
          rw [List.append_assoc, List.cons_append] at closed
          obtain ⟨rfl, restEq⟩ := eq_of_append_closing unclosed firstUnclosed closed
          refine .inr ⟨labelUnclosed, later, after, restEq, ?_⟩
          intro outer inner laterEq innerUnclosed
          refine wider (front ++ '[' :: (own ++ ']' :: outer)) inner ?_ innerUnclosed
          rw [beforeEq, laterEq]
          simp
        · -- They open inside of those of the reference, and close with them.
          have inside : ']' ∉ more ++ '[' :: label := by simp [closing, labelUnclosed]
          rw [← List.cons_append, ← List.append_assoc] at closed
          obtain ⟨rfl, -⟩ := eq_of_append_closing unclosed inside closed
          rw [wider front more beforeEq closing] at ours
          cases ours
  · cases more with
    | nil =>
        obtain ⟨-, tail⟩ := List.cons.inj tail
        exact .inl (eq_of_append_closing labelUnclosed unclosed tail).1
    | cons c more =>
        obtain ⟨rfl, closed⟩ := List.cons.inj tail
        rw [silent before more label after frontEq closed.symm labelUnclosed] at known
        cases known

/-- The references are to the labels that the body calls. -/
theorem Segmented.reference_mem_iff {cs : List Char} {segments : List Segment}
    (segmented : Segmented bodies cs segments)
    (known : bodies.contains (String.ofList label) = true) :
    .reference (String.ofList label) ∈ segments ↔ Calls bodies cs label := by
  induction segmented with
  | text silent => simp [mem_flush_reverse, silent.not_calls known]
  | @reference front own rest segments silent unclosed ours segmented ih =>
      rw [mem_flush_reverse, List.mem_cons]
      constructor
      · rintro (⟨-, text⟩ | here | later)
        · cases text
        · obtain rfl := String.ofList_inj.mp (Segment.reference.inj here)
          exact silent.calls_own unclosed
        · have called := (ih.mp later).append_closing (front ++ '[' :: own)
          rwa [List.append_assoc, List.cons_append] at called
      · intro calls
        rcases silent.eq_or_calls unclosed ours known calls with rfl | later
        · exact .inr (.inl rfl)
        · exact .inr (.inr (ih.mpr later))

end Calls

/-- A label in brackets is called when no label of the bodies ends in an opening bracket and it. -/
theorem calls_of_bracketed {bodies : Bodies} {cs : List Char} {label : String}
    (unclosed : ']' ∉ label.toList) (occurs : '[' :: label.toList ++ [']'] <:+: cs)
    (widest : ∀ outer : String, bodies.contains (outer ++ "[" ++ label) = false) :
    Calls bodies cs label.toList := by
  obtain ⟨before, after, rfl⟩ := occurs
  refine ⟨unclosed, before, after, by simp, ?_⟩
  intro _ inner _ _
  have joined : String.ofList (inner ++ '[' :: label.toList) = String.ofList inner ++ "[" ++ label := by
    rw [← String.toList_inj]
    simp
  rw [joined]
  exact widest _

section Content

variable {content label : String}

theorem Parsed.attached_of_contains
    (known : (Parsed.ofContent content).bodies.contains label = true) :
    (Parsed.ofContent content).hasAttachments = true := by
  rw [Parsed.hasAttachments]
  cases eq : (Parsed.ofContent content).bodies with
  | nil =>
      rw [eq] at known
      cases known
  | cons first rest => rfl

/-- The body admits the labels of the bodies. -/
theorem Parsed.admits_of_contains
    (known : (Parsed.ofContent content).bodies.contains label = true) :
    Admits (Parsed.ofContent content).written.toList label.toList := by
  obtain ⟨before, separator, after, divided⟩ :=
    Parsed.exists_divided (Parsed.attached_of_contains known)
  obtain ⟨ss, sectioned⟩ := InSections.exists_of_opens_head divided.opens_head
  rw [divided.ofContent, sectioned.contains_iff] at known
  obtain ⟨line, -, isHeader⟩ := known
  rw [divided.toList_written]
  exact isHeader.admitted

/-- A text that is attached under a label of its own, no numbered one, stands in brackets in the
body. It is reached by a reference exactly if the body calls the label, and so whenever the label
has no closing bracket in it and no label of the bodies ends in an opening bracket and it. -/
theorem reference_iff_called
    (known : (Parsed.ofContent content).bodies.contains label = true)
    (unnumbered : ¬ Numbered label.toList) :
    '[' :: label.toList ++ [']'] <:+: (Parsed.ofContent content).written.toList ∧
    (.reference label ∈ (Parsed.ofContent content).segments ↔
      Calls (Parsed.ofContent content).bodies (Parsed.ofContent content).written.toList
        label.toList) ∧
    (']' ∉ label.toList →
      (∀ outer, (Parsed.ofContent content).bodies.contains (outer ++ "[" ++ label) = false) →
      .reference label ∈ (Parsed.ofContent content).segments) := by
  have occurs := (Parsed.admits_of_contains known).resolve_left unnumbered
  have segmented := Parsed.segmented (Parsed.attached_of_contains known)
  have own : (Parsed.ofContent content).bodies.contains (String.ofList label.toList) = true := by
    rwa [String.ofList_toList]
  have called := segmented.reference_mem_iff own
  rw [String.ofList_toList] at called
  refine ⟨occurs, called, ?_⟩
  intro unclosed widest
  exact called.mpr (calls_of_bracketed unclosed occurs widest)

end Content

theorem reference_iff_called_bracketed :
    (Parsed.ofContent Sample.bracketed).bodies.contains "notes" = true ∧
    ¬ Numbered "notes".toList ∧
    '[' :: "notes".toList ++ [']'] <:+: (Parsed.ofContent Sample.bracketed).written.toList ∧
    (.reference "notes" ∈ (Parsed.ofContent Sample.bracketed).segments ↔
      Calls (Parsed.ofContent Sample.bracketed).bodies
        (Parsed.ofContent Sample.bracketed).written.toList "notes".toList) ∧
    (']' ∉ "notes".toList →
      (∀ outer, (Parsed.ofContent Sample.bracketed).bodies.contains (outer ++ "[" ++ "notes") =
        false) →
      .reference "notes" ∈ (Parsed.ofContent Sample.bracketed).segments) := by
  have known : (Parsed.ofContent Sample.bracketed).bodies.contains "notes" = true := by
    decide +kernel
  have unnumbered : ¬ Numbered "notes".toList := by
    rw [← isNumbered_iff]
    decide
  exact ⟨known, unnumbered, reference_iff_called known unnumbered⟩

/-- The body names a label in which another pair of brackets stands, and a text is attached under
it, but no reference leads there. -/
theorem nested_label_out_of_reach :
    (Parsed.ofContent "See [notes [draft]]\n----\n-- notes [draft] --\npasted").bodies =
      [("notes [draft]", "pasted")] ∧
    ¬ Numbered "notes [draft]".toList ∧
    .reference "notes [draft]" ∉
      (Parsed.ofContent "See [notes [draft]]\n----\n-- notes [draft] --\npasted").segments := by
  rw [← isNumbered_iff]
  decide +kernel

end Scrollback.Attachment
