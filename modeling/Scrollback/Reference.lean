/-!
References to other conversations, by their titles where they are known.
-/

namespace Scrollback

/-- A conversation that is referred to. -/
inductive Reference where
  | resolved (id title : String)
  | notFound (id : String)
  deriving DecidableEq, Repr

namespace Reference

/-- The conversation referred to. -/
def conversation : Reference → String
  | resolved id _ => id
  | notFound id => id

/-- What is shown for a reference. -/
def label : Reference → String
  | resolved _ title => title
  | notFound _ => "Conversation not found"

/-- Whether the title is known. -/
def isResolved : Reference → Bool
  | resolved _ _ => true
  | notFound _ => false

/-- References to conversations, given the titles that are known. -/
def resolve (titleOf : String → Option String) (ids : List String) : List Reference :=
  ids.map fun id =>
    match titleOf id with
    | some title => resolved id title
    | none => notFound id

/-- Resolving keeps the conversations and their order. -/
theorem map_conversation_resolve (titleOf : String → Option String) (ids : List String) :
    (resolve titleOf ids).map conversation = ids := by
  unfold resolve
  rw [List.map_map]
  refine (List.map_congr_left fun id _ => ?_).trans (List.map_id ids)
  rw [Function.comp_apply]
  split <;> rfl

end Reference

end Scrollback
