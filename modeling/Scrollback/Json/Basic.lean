import Scrollback.Json.Numeral

/-!
JSON values.

A value keeps what a later reading may still refuse: numbers as their literals,
and strings whose escapes spell no text. A value is *plain* up to a number of
levels (`isPlain`) when every string in it is a text, every number is in range,
and its containers nest no deeper.
-/

namespace Scrollback

/-- A JSON value. A string is `none` when its escapes spell no text. -/
inductive Json where
  | null
  | bool (value : Bool)
  | number (numeral : Json.Numeral)
  | string (text : Option String)
  | array (items : List Json)
  | object (members : List (Option String × Json))
  deriving Inhabited

namespace Json

/-- How deep the containers of a value may nest. -/
def maxLevels : Nat := 127

/-- Whether all strings are texts, all numbers are in range, and at most `levels`
containers nest. -/
def isPlain : Nat → Json → Bool
  | _, .null => true
  | _, .bool _ => true
  | _, .number numeral => numeral.inRange
  | _, .string text => text.isSome
  | 0, .array _ => false
  | 0, .object _ => false
  | levels + 1, .array items => items.all (isPlain levels)
  | levels + 1, .object members => members.all fun m => m.1.isSome && isPlain levels m.2

/-- The text of a string. -/
def text? : Json → Option String
  | .string text => text
  | _ => none

/-- The truth value of a boolean. -/
def bool? : Json → Option Bool
  | .bool value => some value
  | _ => none

/-- The number of a literal that denotes a 64-bit word. -/
def word? : Json → Option Nat
  | .number numeral => numeral.natural?.filter (· < wordCount)
  | _ => none

/-- The items of an array. -/
def items? : Json → Option (List Json)
  | .array items => some items
  | _ => none

/-- The member of an object with a given name, the last one if there are several. -/
def member? (name : String) : Json → Option Json
  | .object members => (members.reverse.find? fun m => m.1 == some name).map (·.2)
  | _ => none

end Json

end Scrollback
