import Scrollback.Event

/-!
Messages of a transcript.

A message is an event whose tags have been read: the thread it belongs to, the
message it answers, the people it addresses, the conversations it quotes, and the
tool call it records. The only event that is no message is one that names no
thread (`Event.toMessage`).
-/

namespace Scrollback

/-- A message of a transcript. -/
structure Message where
  id : String
  content : String
  author : String
  /-- The root event of the conversation. -/
  thread : String
  /-- Seconds since 1970. -/
  stamp : Nat
  /-- The message this one answers, if it does not answer the thread itself. -/
  replyTo : Option String
  isReasoning : Bool
  /-- Conversations and questions that the message refers to. -/
  quotes : List String
  /-- The people the message addresses. -/
  mentions : List String
  toolName : Option String
  /-- The arguments of the tool call, as JSON text. -/
  toolArguments : Option String
  deriving DecidableEq, Repr

namespace Message

/-- Whether the message records a tool call or hands work to another
conversation. -/
def isToolUse (m : Message) : Bool :=
  m.toolName.isSome || !m.quotes.isEmpty

/-- The message a record describes. The fields after the time may be absent. -/
def ofJson? (value : Json) : Option Message := do
  match ← value.fields? ["id", "content", "pubkey", "thread_id", "created_at", "reply_to",
      "is_reasoning", "q_tags", "p_tags", "tool_name", "tool_args"] with
  | [id, content, author, thread, stamp, replyTo, isReasoning, quotes, mentions, toolName,
      toolArguments] =>
      return {
        id := ← Json.required Json.text? id
        content := ← Json.required Json.text? content
        author := ← Json.required Json.text? author
        thread := ← Json.required Json.text? thread
        stamp := ← Json.required Json.word? stamp
        replyTo := ← Json.orElse none (Json.nullable Json.text?) replyTo
        isReasoning := ← Json.orElse false Json.bool? isReasoning
        quotes := ← Json.orElse [] (Json.list? Json.text?) quotes
        mentions := ← Json.orElse [] (Json.list? Json.text?) mentions
        toolName := ← Json.orElse none (Json.nullable Json.text?) toolName
        toolArguments := ← Json.orElse none (Json.nullable Json.text?) toolArguments }
  | _ => none

end Message

/-! ### Reading the tags of an event -/

/-- What the tags read so far say. -/
structure TagReading where
  thread : Option String := none
  replyTo : Option String := none
  isReasoning : Bool := false
  quotes : List String := []
  mentions : List String := []
  toolName : Option String := none
  toolArguments : Option String := none
  deriving DecidableEq, Repr

namespace TagReading

/-- A reference to another event. A marker says which one it is; without one, the
first reference is the thread and a later one the message answered. -/
def addReference (r : TagReading) (marker : Option String) (id : String) : TagReading :=
  match marker.getD "" with
  | "root" => { r with thread := some id }
  | "reply" => { r with replyTo := some id }
  | "" => if r.thread.isNone then { r with thread := some id } else { r with replyTo := some id }
  | _ => r

/-- One tag. Tags of other names say nothing. -/
def add (r : TagReading) (tag : Tag) : TagReading :=
  match tag.head?.getD "" with
  | "p" => { r with mentions := r.mentions ++ tag.value?.toList }
  | "q" => { r with quotes := r.quotes ++ tag.value?.toList }
  | "tool" => { r with toolName := tag.value? }
  | "tool-args" => { r with toolArguments := tag.value? }
  | "reasoning" => { r with isReasoning := true }
  | "e" =>
      match tag.value? with
      | some id => r.addReference tag[3]? id
      | none => r
  | _ => r

/-- What a list of tags says. -/
def ofTags (tags : List Tag) : TagReading :=
  tags.foldl add {}

end TagReading

/-- Why an event is no message. -/
inductive EventError where
  /-- The event names no thread. -/
  | noThread (id : String)
  deriving DecidableEq, Repr

/-- The wording of an error. -/
def EventError.message : EventError → String
  | .noThread id => "Invalid event: event " ++ id ++ " has no thread e-tag"

/-- The message an event stands for. -/
def Event.toMessage (e : Event) : Except EventError Message :=
  let reading := TagReading.ofTags e.tags
  match reading.thread with
  | none => .error (.noThread e.id)
  | some thread => .ok {
      id := e.id
      content := e.content
      author := e.author
      thread
      stamp := e.stamp
      replyTo := reading.replyTo
      isReasoning := reading.isReasoning
      quotes := reading.quotes
      mentions := reading.mentions
      toolName := reading.toolName
      toolArguments := reading.toolArguments }

end Scrollback
