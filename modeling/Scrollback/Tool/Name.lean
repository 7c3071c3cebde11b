import Scrollback.Text.Find
import Scrollback.Text.Lowercase

/-!
Names of tools.

Case does not count, and neither does the server a tool is reached through: of a
name `mcp__server__tool` only the part after the last double underscore says which
tool it is.
-/

namespace Scrollback.Tool

/-- What follows the last double underscore of a text that has one. -/
def afterDouble? : List Char → Option (List Char)
  | [] => none
  | c :: cs => (afterDouble? cs).or (Text.after? ['_', '_'] (c :: cs))

/-- The part of a lowercase name that says which tool it is. -/
def baseChars (lowered : List Char) : List Char :=
  match Text.after? ['m', 'c', 'p', '_', '_'] lowered with
  | some rest => (afterDouble? rest).getD rest
  | none => lowered

/-- The part of a name that says which tool it is, in lowercase. -/
def baseName (name : String) : String :=
  String.ofList (baseChars (Text.lowercase name).toList)

/-- The base of a name depends on its lowercase alone. -/
theorem baseName_congr {name name' : String} (same : Text.lowercase name = Text.lowercase name') :
    baseName name = baseName name' := by
  unfold baseName
  rw [same]

end Scrollback.Tool
