import Scrollback.Json.Basic

/-!
Records: JSON values read by named fields.

A record is an object, or an array that lists the fields in their order. An
object may have further members, which are passed over unread; their names must
be texts, and no field may occur twice. An array may stop early but not run over.
-/

namespace Scrollback.Json

/-- The values of the named fields, in the order of the names. -/
def fields? (names : List String) : Json → Option (List (Option Json))
  | .array items =>
      if items.length ≤ names.length then
        some (items.map some ++ List.replicate (names.length - items.length) none)
      else none
  | .object members =>
      if members.all (·.1.isSome) then
        names.mapM fun name =>
          match members.filter fun m => m.1 == some name with
          | [] => some none
          | [m] => some (some m.2)
          | _ => none
      else none
  | _ => none

/-- A field that must be present. -/
def required {α : Type} (read : Json → Option α) (field : Option Json) : Option α :=
  field.bind read

/-- A field that has a value when it is absent. -/
def orElse {α : Type} (absent : α) (read : Json → Option α) : Option Json → Option α
  | none => some absent
  | some value => read value

/-- A value that may be null. -/
def nullable {α : Type} (read : Json → Option α) : Json → Option (Option α)
  | .null => some none
  | value => (read value).map some

/-- An array with every item read alike. -/
def list? {α : Type} (read : Json → Option α) (value : Json) : Option (List α) := do
  (← value.items?).mapM read

end Scrollback.Json
