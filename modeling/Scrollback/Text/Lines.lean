import Scrollback.Text.Blank

/-!
Lines of a text.

A line keeps the line feed that ends it, so a text is the concatenation of its
lines (`flatten_lines`). The last line may lack its line feed; an empty text has
no lines.
-/

namespace Scrollback.Text

/-- A character in front of lines: it begins the first of them, and a line feed is a
line by itself. -/
def consLine (c : Char) (lines : List (List Char)) : List (List Char) :=
  if c = '\n' then [c] :: lines
  else match lines with
    | [] => [[c]]
    | line :: rest => (c :: line) :: rest

/-- The lines of a text, each with the line feed that ends it. -/
def lines (cs : List Char) : List (List Char) :=
  cs.foldr consLine []

/-- A carriage return or a line feed. -/
def isLineEnd (c : Char) : Bool :=
  c == '\n' || c == '\r'

/-- Drop the carriage returns and line feeds at the end. -/
def dropLineEnd (cs : List Char) : List Char :=
  dropEndWhile isLineEnd cs

/-- A character in front of lines is a character in front of their text. -/
theorem flatten_consLine (c : Char) (lines : List (List Char)) :
    (consLine c lines).flatten = c :: lines.flatten := by
  unfold consLine
  split
  · rfl
  · split <;> rfl

/-- A text is the concatenation of its lines. -/
theorem flatten_lines (cs : List Char) : (lines cs).flatten = cs := by
  induction cs with
  | nil => rfl
  | cons c cs ih =>
    rw [lines, List.foldr_cons, flatten_consLine]
    exact congrArg (c :: ·) ih

end Scrollback.Text
