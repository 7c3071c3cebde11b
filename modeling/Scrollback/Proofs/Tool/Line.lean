import Scrollback.Proofs.Text.LineEnds
import Scrollback.Proofs.Tool.Naming

/-!
Line ends in the summary of a call.

A summary is put together from texts that the call was given: arguments, headers of questions,
the text of its message and the name of its tool. They are trimmed and cut, but a line end
inside of them stays, so a summary is one line exactly if the parts shown in it are
(`one_line_iff_shown`).
-/

namespace Scrollback.Tool

open Text

/-! ### What a line shows -/

/-- The texts that the line of a family shows of a call, as they stand in it. The line of a shell
is one of them and nothing else. -/
def Call.shownOf (c : Call) : Family → List String
  | .todo => []
  | .shell => [c.shellLine]
  | .ask => (c.arguments.text? "title").toList ++ c.headers
  | .read | .write => c.fileTarget?.toList
  | .search => (c.pattern?.or c.path?).toList
  | .delegate =>
      ((c.arguments.firstText? ["description", "prompt", "recipient"]).map (ellipsize · 40)).toList
  | .model => (c.arguments.firstText? ["variant", "model"]).toList
  | .conversation =>
      ((c.arguments.firstText? ["conversationId", "conversation_id", "id"]).map (cut · 12)).toList ++
        ((c.arguments.text? "prompt").map (ellipsize · 50)).toList

/-- The texts that the line of a tool of no family shows. -/
def Call.shownPlain (c : Call) (name : String) (fallback : Option String) : List String :=
  match (c.arguments.text? "description").or (fallback.bind trimmed?) with
  | some text => [ellipsize text 80]
  | none => if c.verb? = none ∧ c.target? = none then [shownName name] else c.target?.toList

theorem Call.lineEnds_quoted (s : String) : lineEnds (quoted s) = lineEnds s := by
  have quote : lineEnds "\"" = [] := by decide
  rw [quoted, lineEnds_append, lineEnds_append, quote, List.append_nil, List.nil_append]

/-- A number is one line, and so is a count of tasks. -/
theorem Call.lineEnds_todoLine (c : Call) : lineEnds c.todoLine = [] := by
  have tasks : lineEnds " tasks" = [] := by decide
  rw [todoLine, lineEnds_append, tasks, List.append_nil, Nat.toString_eq_ofList_toDigits,
    lineEnds_ofList, List.filter_eq_nil_iff]
  intro digit mem lineEnd
  have isDigit := Nat.isDigit_of_mem_toDigits (by decide) (by decide) mem
  rw [isLineEnd, Bool.or_eq_true, beq_iff_eq, beq_iff_eq] at lineEnd
  rcases lineEnd with rfl | rfl <;> exact absurd isDigit (by decide)

theorem Call.lineEnds_askLine (c : Call) :
    lineEnds c.askLine = (c.shownOf .ask).flatMap lineEnds := by
  have asking : lineEnds "Asking: " = [] := by decide
  have opening : lineEnds " [" = [] := by decide
  have closing : lineEnds "]" = [] := by decide
  have question : IsLine "Question" := by decide
  rw [askLine, shownOf, List.flatMap_append, ← lineEnds_getD _ question]
  split
  · rename_i empty
    rw [List.isEmpty_iff.mp empty, lineEnds_append, asking, lineEnds_quoted, List.nil_append,
      List.flatMap_nil, List.append_nil]
  · simp only [lineEnds_append, asking, lineEnds_quoted, opening, closing, List.nil_append,
      List.append_nil]
    rw [lineEnds_intercalate (by decide)]

theorem Call.lineEnds_modelLine (c : Call) :
    lineEnds c.modelLine = (c.shownOf .model).flatMap lineEnds := by
  have arrow : lineEnds "→ " = [] := by decide
  have default : IsLine "default" := by decide
  rw [modelLine, lineEnds_append, arrow, List.nil_append, shownOf, lineEnds_getD _ default]

theorem Call.lineEnds_conversationLine (c : Call) :
    lineEnds c.conversationLine = (c.shownOf .conversation).flatMap lineEnds := by
  have arrow : lineEnds " → " = [] := by decide
  have conversation : IsLine "conversation" := by decide
  rw [conversationLine, shownOf, List.flatMap_append, ← lineEnds_getD _ conversation]
  cases prompt : c.arguments.text? "prompt" with
  | none => simp
  | some prompt => simp [lineEnds_append, arrow, lineEnds_quoted]

theorem Call.lineEnds_delegateLine (c : Call) :
    lineEnds c.delegateLine = (c.shownOf .delegate).flatMap lineEnds := by
  have agent : IsLine "agent" := by decide
  rw [delegateLine, shownOf, ← lineEnds_getD _ agent]
  cases c.arguments.firstText? ["description", "prompt", "recipient"] with
  | none => decide
  | some text => rfl

/-- The line of a family has the line ends of the texts it shows. -/
theorem Call.lineEnds_ofFamily (c : Call) (family : Family) :
    lineEnds (c.ofFamily family).text = (c.shownOf family).flatMap lineEnds := by
  cases family with
  | todo => exact c.lineEnds_todoLine
  | shell => simp [shownOf, ofFamily]
  | ask => exact c.lineEnds_askLine
  | read => exact lineEnds_getD _ (by decide)
  | write =>
      refine lineEnds_getD _ ?_
      split <;> decide
  | search => exact lineEnds_getD _ (by decide)
  | delegate => exact c.lineEnds_delegateLine
  | model => exact c.lineEnds_modelLine
  | conversation => exact c.lineEnds_conversationLine

/-- Verbs are one line. -/
theorem Call.lineEnds_verb {c : Call} {verb : String} (some : c.verb? = some verb) :
    lineEnds verb = [] := by
  have lines : ∀ entry ∈ verbs, lineEnds entry.2 = [] := by decide
  obtain ⟨entry, found, rfl⟩ := Option.map_eq_some_iff.mp some
  exact lines entry (List.mem_of_find?_eq_some found)

theorem Call.lineEnds_plainLine (c : Call) (name : String) (fallback : Option String) :
    lineEnds (c.plainLine name fallback) = (c.shownPlain name fallback).flatMap lineEnds := by
  unfold plainLine shownPlain
  cases (c.arguments.text? "description").or (fallback.bind trimmed?) with
  | some text => simp
  | none =>
      unfold actionLine
      cases verb : c.verb? with
      | none =>
          cases c.target? with
          | none => simp [shownName]
          | some target => simp
      | some verb' =>
          cases c.target? with
          | none => simp [lineEnds_verb verb]
          | some target =>
              have space : lineEnds " " = [] := by decide
              simp [lineEnds_append, lineEnds_verb verb, space]

/-! ### Where the line ends come from -/

section Given

variable (name : String) (arguments fallback : Option String)

/-- The texts that are given with a call: its text arguments and the text of its message, trimmed,
the headers of the questions asked, and the name of the tool. -/
inductive Given : String → Prop where
  | argument {key text : String} :
      (Arguments.ofText? arguments).text? key = some text → Given text
  | header {text : String} : text ∈ (callOf name arguments).headers → Given text
  | message {text : String} : fallback.bind trimmed? = some text → Given text
  | name : Given name

/-- The texts that the summary of a call shows. -/
def shown : List String :=
  match Family.of? name with
  | some family => (callOf name arguments).shownOf family
  | none => (callOf name arguments).shownPlain name fallback

/-- A text has line ends of a given text, in order, and no others. -/
def Taken (part : String) : Prop :=
  ∃ given, Given name arguments fallback given ∧ (lineEnds part).Sublist (lineEnds given)

variable {name arguments fallback}

theorem Given.taken {text : String} (given : Given name arguments fallback text) :
    Taken name arguments fallback text :=
  ⟨text, given, List.Sublist.refl _⟩

theorem Taken.trans {part text : String} (taken : Taken name arguments fallback text)
    (sublist : (lineEnds part).Sublist (lineEnds text)) : Taken name arguments fallback part := by
  obtain ⟨given, isGiven, sublist'⟩ := taken
  exact ⟨given, isGiven, sublist.trans sublist'⟩

theorem Given.firstText {keys : List String} {text : String}
    (first : (callOf name arguments).arguments.firstText? keys = some text) :
    Given name arguments fallback text := by
  obtain ⟨key, -, eq⟩ := List.exists_of_findSome?_eq_some first
  exact .argument eq

theorem taken_path {path : String} (some : (callOf name arguments).path? = some path) :
    Taken name arguments fallback path := by
  obtain ⟨whole, first, rfl⟩ := Option.map_eq_some_iff.mp some
  exact (Given.firstText first).taken.trans (lineEnds_shortenPath_sublist whole)

theorem taken_pattern {pattern : String} (some : (callOf name arguments).pattern? = some pattern) :
    Taken name arguments fallback pattern := by
  obtain ⟨whole, first, rfl⟩ := Option.map_eq_some_iff.mp some
  apply (Given.firstText first).taken.trans
  rw [Call.lineEnds_quoted]
  exact lineEnds_ellipsize_sublist whole 30

theorem taken_fileTarget {target : String}
    (some : (callOf name arguments).fileTarget? = some target) :
    Taken name arguments fallback target := by
  rw [Call.fileTarget?, Option.or_eq_some_iff, Option.or_eq_some_iff] at some
  rcases some with description | ⟨-, path | ⟨-, pattern⟩⟩
  · obtain ⟨whole, eq, rfl⟩ := Option.map_eq_some_iff.mp description
    exact (Given.argument eq).taken.trans (lineEnds_ellipsize_sublist whole 60)
  · exact taken_path path
  · exact taken_pattern pattern

/-- The base of a name is taken from the name: lowercase keeps line ends, and the base is what
the lowercase ends in. -/
theorem taken_base : Taken name arguments fallback (baseName name) := by
  refine ⟨name, .name, ?_⟩
  rw [← lineEnds_lowercase name, baseName, lineEnds_ofList, lineEnds]
  exact (baseChars_suffix _).sublist.filter isLineEnd

theorem taken_shellLine : Taken name arguments fallback (callOf name arguments).shellLine := by
  unfold Call.shellLine
  cases description : (callOf name arguments).arguments.text? "description" with
  | some text => exact (Given.argument description).taken
  | none =>
      cases command : (callOf name arguments).arguments.text? "command" with
      | some whole => exact (Given.argument command).taken.trans (lineEnds_ellipsize_sublist whole 50)
      | none => exact taken_base

/-- What the line of a family shows is taken from what the call was given. -/
theorem taken_of_mem_shownOf {family : Family} {part : String}
    (mem : part ∈ (callOf name arguments).shownOf family) :
    Taken name arguments fallback part := by
  cases family with
  | todo => cases mem
  | shell =>
      rw [List.mem_singleton.mp mem]
      exact taken_shellLine
  | ask =>
      rcases List.mem_append.mp mem with title | header
      · exact (Given.argument (Option.mem_toList.mp title)).taken
      · exact (Given.header header).taken
  | read => exact taken_fileTarget (Option.mem_toList.mp mem)
  | write => exact taken_fileTarget (Option.mem_toList.mp mem)
  | search =>
      rcases Option.or_eq_some_iff.mp (Option.mem_toList.mp mem) with pattern | ⟨-, path⟩
      · exact taken_pattern pattern
      · exact taken_path path
  | delegate =>
      obtain ⟨whole, first, rfl⟩ := Option.map_eq_some_iff.mp (Option.mem_toList.mp mem)
      exact (Given.firstText first).taken.trans (lineEnds_ellipsize_sublist whole 40)
  | model => exact (Given.firstText (Option.mem_toList.mp mem)).taken
  | conversation =>
      rcases List.mem_append.mp mem with id | prompt
      · obtain ⟨whole, first, rfl⟩ := Option.map_eq_some_iff.mp (Option.mem_toList.mp id)
        exact (Given.firstText first).taken.trans (lineEnds_cut_sublist whole 12)
      · obtain ⟨whole, eq, rfl⟩ := Option.map_eq_some_iff.mp (Option.mem_toList.mp prompt)
        exact (Given.argument eq).taken.trans (lineEnds_ellipsize_sublist whole 50)

theorem taken_shownName : Taken name arguments fallback (shownName name) := by
  unfold shownName
  split
  · exact Given.name.taken
  · have tool : lineEnds "tool" = [] := by decide
    refine Given.name.taken.trans ?_
    rw [tool]
    exact List.nil_sublist _

/-- What the line of a tool of no family shows is taken from what the call was given. -/
theorem taken_of_mem_shownPlain {part : String}
    (mem : part ∈ (callOf name arguments).shownPlain name fallback) :
    Taken name arguments fallback part := by
  unfold Call.shownPlain at mem
  split at mem
  · rename_i text some
    rw [List.mem_singleton.mp mem]
    have given : Given name arguments fallback text := by
      rcases Option.or_eq_some_iff.mp some with description | ⟨-, message⟩
      · exact .argument description
      · exact .message message
    exact given.taken.trans (lineEnds_ellipsize_sublist text 80)
  · split at mem
    · rw [List.mem_singleton.mp mem]
      exact taken_shownName
    · rcases Option.or_eq_some_iff.mp (Option.mem_toList.mp mem) with path | ⟨-, pattern⟩
      · exact taken_path path
      · exact taken_pattern pattern

theorem taken_of_mem_shown {part : String} (mem : part ∈ shown name arguments fallback) :
    Taken name arguments fallback part := by
  unfold shown at mem
  split at mem
  · exact taken_of_mem_shownOf mem
  · exact taken_of_mem_shownPlain mem

variable (name arguments fallback)

theorem lineEnds_summarize :
    lineEnds (summarize name arguments fallback).text =
      (shown name arguments fallback).flatMap lineEnds := by
  unfold shown
  cases of : Family.of? name with
  | some family =>
      rw [summarize_of_family arguments fallback of]
      exact Call.lineEnds_ofFamily _ family
  | none =>
      rw [summarize_of_none arguments fallback of]
      exact Call.lineEnds_plainLine _ name fallback

/-- The line ends of a summary are those of the texts shown in it, in order, so it is one line
exactly if each of them is. They are taken from the texts given with the call, so it is one line
whenever those are. -/
theorem one_line_iff_shown :
    lineEnds (summarize name arguments fallback).text =
      (shown name arguments fallback).flatMap lineEnds ∧
    (IsLine (summarize name arguments fallback).text ↔
      ∀ part ∈ shown name arguments fallback, IsLine part) ∧
    ((∀ text, Given name arguments fallback text → IsLine text) →
      IsLine (summarize name arguments fallback).text) := by
  have lineEnds_eq := lineEnds_summarize name arguments fallback
  have iff : IsLine (summarize name arguments fallback).text ↔
      ∀ part ∈ shown name arguments fallback, IsLine part := by
    rw [IsLine, lineEnds_eq, List.flatMap_eq_nil_iff]
    rfl
  refine ⟨lineEnds_eq, iff, ?_⟩
  intro lines
  refine iff.mpr ?_
  intro part mem
  obtain ⟨text, given, sublist⟩ := taken_of_mem_shown mem
  exact (lines text given).of_sublist sublist

end Given

namespace Sample

/-- The arguments of a question with one part. -/
def question : Option String :=
  some "\x7b\"title\":\"Deploy?\",\"questions\":[\x7b\"header\":\"When\"\x7d]\x7d"

theorem arguments_question :
    Arguments.ofText? question = ⟨.object [(some "title", .string (some "Deploy?")),
      (some "questions", .array [.object [(some "header", .string (some "When"))]])]⟩ :=
  rfl

/-- Of the text of the message, a line feed at its end is trimmed. -/
theorem isLine_of_given {text : String} (given : Given "ask" question (some " ok\n") text) :
    IsLine text := by
  cases given with
  | argument found =>
      rw [arguments_question] at found
      obtain ⟨value, member, isText⟩ := Option.bind_eq_some_iff.mp found
      obtain ⟨whole, value_eq, trimmed⟩ := Option.bind_eq_some_iff.mp isText
      obtain ⟨entry, last, rfl⟩ := Option.map_eq_some_iff.mp member
      have mem := List.mem_of_find?_eq_some last
      rw [List.mem_reverse, List.mem_cons, List.mem_singleton] at mem
      rcases mem with rfl | rfl
      · cases value_eq
        have eq : trimmed? "Deploy?" = some "Deploy?" := by decide
        cases eq.symm.trans trimmed
        decide
      · cases value_eq
  | header mem =>
      have headers : (callOf "ask" question).headers = ["When"] := by decide +kernel
      rw [headers, List.mem_singleton] at mem
      rw [mem]
      decide
  | message eq =>
      have trimmed : (some " ok\n").bind trimmed? = some "ok" := by decide
      cases trimmed.symm.trans eq
      decide
  | name => decide

end Sample

theorem one_line_iff_shown_sample :
    let summary := (summarize "ask" Sample.question (some " ok\n")).text
    let parts := shown "ask" Sample.question (some " ok\n")
    (∀ text, Given "ask" Sample.question (some " ok\n") text → IsLine text) ∧
      lineEnds summary = parts.flatMap lineEnds ∧
      (IsLine summary ↔ ∀ part ∈ parts, IsLine part) ∧ IsLine summary := by
  intro summary parts
  have lines : ∀ text, Given "ask" Sample.question (some " ok\n") text → IsLine text :=
    fun _ given => Sample.isLine_of_given given
  obtain ⟨lineEnds_eq, iff, line⟩ := one_line_iff_shown "ask" Sample.question (some " ok\n")
  exact ⟨lines, lineEnds_eq, iff, line lines⟩

/-- A command of two lines is summarised by two lines. -/
theorem two_lines_of_command :
    (summarize "bash" (some "\x7b\"command\":\"cd src\\nls\"\x7d") none).text = "cd src\nls" ∧
    ¬ IsLine (summarize "bash" (some "\x7b\"command\":\"cd src\\nls\"\x7d") none).text := by
  decide +kernel

end Scrollback.Tool
