import Scrollback.Json.Record

/-!
Events as they are delivered.

An event is signed by its author and carries tags. A tag is a row of strings: its
name, its value, and for a reference to another event a marker in fourth place.
-/

namespace Scrollback

/-- A row of strings whose first is the name and whose second is the value. -/
abbrev Tag := List String

/-- A delivered event. -/
structure Event where
  id : String
  author : String
  content : String
  /-- Seconds since 1970. -/
  stamp : Nat
  tags : List Tag
  deriving DecidableEq, Repr

namespace Tag

/-- The value of a tag, unless it is empty. -/
def value? (tag : Tag) : Option String :=
  tag[1]?.filter (!·.isEmpty)

end Tag

namespace Event

/-- The event a record describes. Content, time and tags may be absent. -/
def ofJson? (value : Json) : Option Event := do
  match ← value.fields? ["id", "pubkey", "content", "created_at", "tags"] with
  | [id, author, content, stamp, tags] =>
      return {
        id := ← Json.required Json.text? id
        author := ← Json.required Json.text? author
        content := ← Json.orElse "" Json.text? content
        stamp := ← Json.orElse 0 Json.word? stamp
        tags := ← Json.orElse [] (Json.list? (Json.list? Json.text?)) tags }
  | _ => none

end Event

end Scrollback
