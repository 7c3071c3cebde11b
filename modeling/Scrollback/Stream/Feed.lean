import Scrollback.Message
import Scrollback.Stream.Chunk
import Std.Data.HashMap

/-!
Replies that are being written, one for each conversation.

A chunk extends the reply of its conversation, or starts a new one when the reply
there belongs to another agent. A reply is dropped when it is cleared, or when a
message of its agent arrives in its conversation.
-/

namespace Scrollback.Stream

/-- A reply that is being written. -/
structure Buffer where
  agent : String
  conversation : String
  text : String := ""
  reasoning : String := ""
  isComplete : Bool := false
  deriving DecidableEq, Repr

namespace Buffer

/-- Whether there is anything to show: some text, some reasoning, or more to
come. -/
def isRenderable (b : Buffer) : Bool :=
  !b.text.isEmpty || !b.reasoning.isEmpty || !b.isComplete

/-- How many bytes of text and reasoning there are. -/
def length (b : Buffer) : Nat :=
  b.text.utf8ByteSize + b.reasoning.utf8ByteSize

/-- The reply with a chunk added to it. -/
def add (b : Buffer) (c : Chunk) : Buffer :=
  { b with
    text := b.text ++ c.textDelta?.getD ""
    reasoning := b.reasoning ++ c.reasoningDelta?.getD ""
    isComplete := b.isComplete || c.isFinish }

/-- The empty reply that a chunk belongs to. -/
def ofChunk (c : Chunk) : Buffer :=
  { agent := c.agent, conversation := c.conversation }

end Buffer

/-- The replies that are being written, by conversation. -/
structure Feed where
  buffers : Std.HashMap String Buffer := {}

namespace Feed

/-- The reply of a conversation. -/
def get? (f : Feed) (conversation : String) : Option Buffer :=
  f.buffers[conversation]?

/-- The reply a chunk is added to: the one of its conversation if it belongs to
the chunk's agent, else an empty one. -/
def target (f : Feed) (c : Chunk) : Buffer :=
  match f.get? c.conversation with
  | some b => if b.agent = c.agent then b else .ofChunk c
  | none => .ofChunk c

/-- Add a chunk to the reply of its conversation. -/
def apply (f : Feed) (c : Chunk) : Feed :=
  ⟨f.buffers.insert c.conversation ((f.target c).add c)⟩

/-- Drop the reply of a conversation. -/
def clear (f : Feed) (conversation : String) : Feed :=
  ⟨f.buffers.erase conversation⟩

/-- Whether a message takes the place of the reply in its conversation. -/
def isSuperseded (f : Feed) (m : Message) : Bool :=
  match f.get? m.thread with
  | some b => b.agent == m.author
  | none => false

/-- Drop the reply that a message takes the place of, if there is one, and say
whether there was. -/
def supersede (f : Feed) (m : Message) : Bool × Feed :=
  if f.isSuperseded m then (true, f.clear m.thread) else (false, f)

/-- After a chunk, its conversation has the extended reply; others keep theirs. -/
theorem get?_apply (f : Feed) (c : Chunk) (conversation : String) :
    (f.apply c).get? conversation =
      if c.conversation = conversation then some ((f.target c).add c)
      else f.get? conversation := by
  simp [apply, get?, Std.HashMap.getElem?_insert]

/-- A cleared conversation has no reply; others keep theirs. -/
theorem get?_clear (f : Feed) (cleared conversation : String) :
    (f.clear cleared).get? conversation =
      if cleared = conversation then none else f.get? conversation := by
  simp [clear, get?, Std.HashMap.getElem?_erase]

end Feed

end Scrollback.Stream
