import Scrollback.Json.Record

/-!
Chunks of a reply that is being written.

A chunk belongs to an agent and a conversation and carries a piece of data whose
type says what it adds: text, reasoning, or the end of the reply.
-/

namespace Scrollback.Stream

/-- A chunk of an agent's reply in a conversation. -/
structure Chunk where
  agent : String
  conversation : String
  data : Json

namespace Chunk

/-- The type of the data. -/
def type? (c : Chunk) : Option String :=
  (c.data.member? "type").bind Json.text?

/-- The text of the first of two members of the data that is there. -/
def textOf? (c : Chunk) (name alternative : String) : Option String :=
  ((c.data.member? name).or (c.data.member? alternative)).bind Json.text?

/-- The text a chunk adds to the reply. -/
def textDelta? (c : Chunk) : Option String :=
  if c.type? = some "text-delta" then c.textOf? "text" "textDelta" else none

/-- The reasoning a chunk adds to the reply. -/
def reasoningDelta? (c : Chunk) : Option String :=
  if c.type? = some "reasoning-delta" then c.textOf? "delta" "text" else none

/-- Whether a chunk ends the reply. -/
def isFinish (c : Chunk) : Bool :=
  c.type? == some "finish"

/-- The chunk a record describes, where `levels` containers may nest. -/
def ofJson? (levels : Nat) (value : Json) : Option Chunk := do
  match ← value.fields? ["agent_pubkey", "conversation_id", "data"] with
  | [agent, conversation, data] =>
      return {
        agent := ← Json.required Json.text? agent
        conversation := ← Json.required Json.text? conversation
        data := ← data.filter (·.isPlain (levels - 1)) }
  | _ => none

end Chunk

end Scrollback.Stream
