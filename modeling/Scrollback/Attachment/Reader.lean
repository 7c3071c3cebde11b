import Scrollback.Attachment.Basic
import Scrollback.Text.Find
import Scrollback.Text.Lines

/-!
Reading the content of a message.

Attached texts follow the body of a message after a separator, a line of four
dashes. Each begins with a header line `-- L --` and runs to the next header. A
line is a header only when its label is numbered or the body refers to it, and a
line of dashes is the separator only when a header follows it; content without a
separator is text and nothing else.
-/

namespace Scrollback.Attachment

/-! ### Headers and separators -/

/-- The label of a line `-- L --`: what stands between the dashes, trimmed, when
it is not blank. -/
def label? (line : List Char) : Option (List Char) := do
  let opened ← Text.after? ['-', '-', ' '] (Text.dropLineEnd line)
  let inner ← Text.before? [' ', '-', '-'] opened
  let label := Text.strip inner
  if label.isEmpty then none else some label

/-- Whether a label is `Text Attachment` and a number. -/
def isNumbered (label : List Char) : Bool :=
  match Text.after? "Text Attachment ".toList label with
  | some number => !number.isEmpty && number.all Char.isDigit
  | none => false

/-- Whether a body refers to a label in square brackets. -/
def refersTo (body label : List Char) : Bool :=
  Text.occurs ('[' :: label ++ [']']) body

/-- The label of a line that is a header for a body: its label is numbered, or
the body refers to it. -/
def header? (body line : List Char) : Option (List Char) :=
  (label? line).filter fun label => isNumbered label || refersTo body label

/-- Whether a line is four dashes. -/
def isSeparator (line : List Char) : Bool :=
  Text.dropLineEnd line == ['-', '-', '-', '-']

/-- The text before the first separator, and the lines after it. The lines
already passed stand newest first. -/
def splitAtSeparator? (passed : List (List Char)) :
    List (List Char) → Option (List Char × List (List Char))
  | line :: next :: rest =>
      if isSeparator line && (header? passed.reverse.flatten next).isSome then
        some (passed.reverse.flatten, next :: rest)
      else splitAtSeparator? (line :: passed) (next :: rest)
  | _ => none

/-! ### Sections -/

/-- The labelled texts in the lines after the separator, in their order. A text
is the lines up to the next header, without the line ends at its end. -/
def sections (body : List Char) : List (List Char) → List (String × String)
  | [] => []
  | line :: rest =>
      match header? body line with
      | none => sections body rest
      | some label =>
          let text := (rest.takeWhile fun l => (header? body l).isNone).flatten
          (String.ofList label, String.ofList (Text.dropLineEnd text)) :: sections body rest

/-! ### References -/

/-- The text up to the first closing bracket, and the rest after it. -/
def toClosing? (cs : List Char) : Option (List Char × List Char) :=
  match cs.dropWhile (· != ']') with
  | [] => none
  | _ :: rest => some (cs.takeWhile (· != ']'), rest)

/-- A text is what stands up to its closing bracket, the bracket, and the rest. -/
theorem eq_of_toClosing? {cs label rest : List Char} (found : toClosing? cs = some (label, rest)) :
    cs = label ++ ']' :: rest := by
  unfold toClosing? at found
  split at found
  · cases found
  · rename_i c rest' eq
    cases found
    have closing := List.head?_dropWhile_not (· != ']') cs
    rw [eq] at closing
    have bracket : c = ']' := by simpa using closing
    subst bracket
    rw [← eq, List.takeWhile_append_dropWhile]

/-- Pending text, held newest first, as a segment in front of others. Empty text
is no segment. -/
def flush (pending : List Char) (segments : List Segment) : List Segment :=
  if pending.isEmpty then segments else .text (String.ofList pending.reverse) :: segments

/-- The segments of a body after pending text. Square brackets around a label of
the bodies are a reference; any other bracket is text. -/
def splitReferences (bodies : Bodies) (pending : List Char) : List Char → List Segment
  | [] => flush pending []
  | c :: cs =>
      if c = '[' then
        match _found : toClosing? cs with
        | some (label, rest) =>
            if bodies.contains (String.ofList label) then
              flush pending (.reference (String.ofList label) :: splitReferences bodies [] rest)
            else splitReferences bodies (c :: pending) cs
        | none => splitReferences bodies (c :: pending) cs
      else splitReferences bodies (c :: pending) cs
  termination_by cs => cs.length
  decreasing_by
    · have := congrArg List.length (eq_of_toClosing? _found)
      simp only [List.length_append, List.length_cons] at this ⊢
      omega
    all_goals simp

/-! ### Content -/

/-- The content of a message, read. -/
def Parsed.ofContent (content : String) : Parsed :=
  match splitAtSeparator? [] (Text.lines content.toList) with
  | none => .plain content
  | some (before, after) =>
      let body := Text.dropLineEnd before
      let bodies := Bodies.ofSections (sections body after)
      if bodies.isEmpty then .plain content else ⟨splitReferences bodies [] body, bodies⟩

end Scrollback.Attachment
