import Scrollback.Json.Reader
import Scrollback.Text.Blank

/-!
Arguments of a tool call.

Arguments are JSON text. Text that is no JSON object names no argument at all, so
a malformed call still has a summary. A text argument counts only when something
is left of it after trimming.
-/

namespace Scrollback.Tool

/-- The arguments of a call. A value that is no object names none. -/
structure Arguments where
  value : Json

namespace Arguments

/-- The arguments that a text spells, if there is one. -/
def ofText? (text : Option String) : Arguments :=
  ⟨(text.bind Json.readPlain?).getD .null⟩

/-- A text argument, trimmed, when it is not blank. -/
def text? (a : Arguments) (name : String) : Option String := do
  Text.trimmed? (← (← a.value.member? name).text?)

/-- The first text argument among some names. -/
def firstText? (a : Arguments) (names : List String) : Option String :=
  names.findSome? a.text?

/-- The items of an array argument. -/
def items? (a : Arguments) (name : String) : Option (List Json) := do
  (← a.value.member? name).items?

/-- How many items the first array argument among some names has. -/
def count (a : Arguments) (names : List String) : Nat :=
  ((names.findSome? a.items?).map List.length).getD 0

end Arguments

end Scrollback.Tool
