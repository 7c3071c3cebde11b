import Scrollback.Json.Token

/-!
Reading a JSON text.

The reader takes one token at a time and holds the containers it is inside of, so
a text may nest to any depth. It accepts exactly one value: no empty text, no
trailing comma, nothing after the value.
-/

namespace Scrollback.Json

/-- A container that is still open. What it holds so far stands newest first. -/
inductive Frame where
  | array (done : List Json)
  /-- An object whose member `key` waits for its value. -/
  | object (done : List (Option String × Json)) (key : Option String)

/-- What the reader has read up to a token, innermost container first. -/
inductive Reader where
  /-- A value must follow, or the end of the array that has just been opened. -/
  | value (frames : List Frame) (opened : Bool)
  /-- A member must follow, or the end of the object that has just been opened. -/
  | key (done : List (Option String × Json)) (frames : List Frame) (opened : Bool)
  /-- The colon after a member's name must follow. -/
  | colon (done : List (Option String × Json)) (key : Option String) (frames : List Frame)
  /-- A value is complete. -/
  | whole (value : Json) (frames : List Frame)

namespace Reader

/-- The reader before the first token. -/
def start : Reader := .value [] false

/-- One token. -/
def step : Reader → Token → Option Reader
  | .value frames _, .scalar v => some (.whole v frames)
  | .value frames _, .mark .openArray => some (.value (.array [] :: frames) true)
  | .value frames _, .mark .openObject => some (.key [] frames true)
  | .value (.array done :: frames) true, .mark .closeArray =>
      some (.whole (.array done.reverse) frames)
  | .key done frames _, .scalar (.string name) => some (.colon done name frames)
  | .key done frames true, .mark .closeObject => some (.whole (.object done.reverse) frames)
  | .colon done name frames, .mark .colon => some (.value (.object done name :: frames) false)
  | .whole v (.array done :: frames), .mark .comma =>
      some (.value (.array (v :: done) :: frames) false)
  | .whole v (.array done :: frames), .mark .closeArray =>
      some (.whole (.array (v :: done).reverse) frames)
  | .whole v (.object done name :: frames), .mark .comma =>
      some (.key ((name, v) :: done) frames false)
  | .whole v (.object done name :: frames), .mark .closeObject =>
      some (.whole (.object ((name, v) :: done).reverse) frames)
  | _, _ => none

/-- The value at the end of the text. -/
def finish : Reader → Option Json
  | .whole v [] => some v
  | _ => none

end Reader

/-- The value a text spells. -/
def read? (s : String) : Option Json := do
  let last ← (← tokens? s.toList).foldlM Reader.step .start
  last.finish

/-- The plain value a text spells: nothing in it may be left unread. -/
def readPlain? (s : String) : Option Json :=
  (read? s).filter (·.isPlain maxLevels)

end Scrollback.Json
