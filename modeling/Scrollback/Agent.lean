import Scrollback.Json.Record

/-!
Agents that can be addressed.

Agents are listed in one order: managers first, then by name, then by key.
-/

namespace Scrollback

/-- An agent by its name and public key. -/
structure Agent where
  name : String
  key : String
  isManager : Bool
  deriving DecidableEq, Repr, Inhabited

namespace Agent

/-- Managers come first, then the smaller name, then the smaller key. -/
def order (a b : Agent) : Ordering :=
  (compare b.isManager a.isManager).then ((compare a.name b.name).then (compare a.key b.key))

/-- The agents in their order. -/
def sort (agents : List Agent) : List Agent :=
  agents.mergeSort fun a b => (order a b).isLE

/-- The agent a record describes. It is no manager unless the record says so. -/
def ofJson? (value : Json) : Option Agent := do
  match ← value.fields? ["name", "pubkey", "is_pm"] with
  | [name, key, isManager] =>
      return {
        name := ← Json.required Json.text? name
        key := ← Json.required Json.text? key
        isManager := ← Json.orElse false Json.bool? isManager }
  | _ => none

end Agent

end Scrollback
