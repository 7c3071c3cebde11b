import Scrollback.Message
import Scrollback.Stream.Feed

/-!
Rows of a transcript.

A transcript has a row for each shown message and a last one for the reply that is
being written. Rows of one author in succession form a group: a row continues the
group when the row before has the same author, and is continued when the row after
has.
-/

namespace Scrollback

/-- What identifies a row. -/
inductive RowKey where
  | message (id : String)
  | stream (conversation : String)
  deriving DecidableEq, Repr

/-- A row for a message, or for the reply that is being written. -/
inductive Row where
  | message (message : Message) (continues isContinued : Bool)
  | stream (buffer : Stream.Buffer) (continues : Bool)
  deriving DecidableEq, Repr

namespace Row

/-- Who wrote a row. -/
def author : Row → String
  | message m _ _ => m.author
  | stream b _ => b.agent

/-- What identifies a row. -/
def key : Row → RowKey
  | message m _ _ => .message m.id
  | stream b _ => .stream b.conversation

/-- Whether the row before has the same author. -/
def continues : Row → Bool
  | message _ continues _ => continues
  | stream _ continues => continues

/-- Whether the row after a message has the same author. -/
def isContinued? : Row → Option Bool
  | message _ _ isContinued => some isContinued
  | stream _ _ => none

/-- Whether a row is the reply that is being written. -/
def isStream : Row → Bool
  | message _ _ _ => false
  | stream _ _ => true

/-- Who writes next: the author of the first message, else the agent of the
reply. -/
def nextAuthor (buffer : Option Stream.Buffer) : List Message → Option String
  | [] => buffer.map (·.agent)
  | m :: _ => some m.author

/-- The rows after a row of `previous`. -/
def following (buffer : Option Stream.Buffer) (previous : Option String) :
    List Message → List Row
  | [] => buffer.toList.map fun b => stream b (previous == some b.agent)
  | m :: rest =>
      message m (previous == some m.author) (nextAuthor buffer rest == some m.author) ::
        following buffer (some m.author) rest

/-- The rows of the shown messages, given the message before them, and of the
reply that is being written. -/
def merge (shown : List Message) (preceding : Option Message) (buffer : Option Stream.Buffer) :
    List Row :=
  following buffer (preceding.map (·.author)) shown

/-- There is a row for each shown message, and one for the reply if there is one. -/
theorem length_merge (shown : List Message) (preceding : Option Message)
    (buffer : Option Stream.Buffer) :
    (merge shown preceding buffer).length = shown.length + buffer.toList.length := by
  unfold merge
  generalize preceding.map (·.author) = previous
  induction shown generalizing previous with
  | nil => simp [following]
  | cons m rest ih =>
    rw [following, List.length_cons, ih, List.length_cons]
    omega

end Row

end Scrollback
