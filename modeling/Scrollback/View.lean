import Scrollback.Attachment.Cache
import Scrollback.Scroll
import Scrollback.Tool.Summary
import Scrollback.Window

/-!
Views of a conversation.

A view renders one pass over the messages as they are now: the window follows
their number, each shown message becomes a row with its content, the reply that is
being written comes last, and the pass may ask to scroll to its last row. Contents
are read through a cache that views may share; what they read does not depend on
what the cache holds.
-/

namespace Scrollback

/-- What a row shows. -/
inductive Content where
  | tool (summary : Tool.Summary)
  | text (parsed : Attachment.Parsed)
  | stream (text reasoning : String) (isComplete : Bool)
  deriving DecidableEq, Repr

/-- A row, what it shows, and the conversations it refers to. -/
structure RenderedRow where
  row : Row
  content : Content
  references : List String
  deriving DecidableEq, Repr

/-- One pass: the rows, how many messages are hidden, and where to scroll. -/
structure Pass where
  rows : List RenderedRow
  hidden : Nat
  scroll : Option Scroll.Request
  deriving DecidableEq, Repr

/-- What a view of a conversation remembers between passes. -/
structure View where
  conversation : String
  window : Window
  follower : Scroll.Follower
  /-- The length of the reply that was shown last. -/
  streamLength : Nat := 0
  deriving DecidableEq, Repr

namespace RenderedRow

/-- A row with its content. Text is read through the cache, tool calls are
summarised. -/
def ofRow (cache : Attachment.Cache) : Row → RenderedRow × Attachment.Cache
  | .message m continues isContinued =>
      let references := if Tool.showsReferences m.toolName then m.quotes else []
      match m.toolName with
      | some name =>
          (⟨.message m continues isContinued,
            .tool (Tool.summarize name m.toolArguments (some m.content)), references⟩, cache)
      | none =>
          let (parsed, cache) := cache.read m.content
          (⟨.message m continues isContinued, .text parsed, references⟩, cache)
  | .stream b continues =>
      (⟨.stream b continues, .stream b.text b.reasoning b.isComplete, []⟩, cache)

/-- Rows with their contents, read in their order. -/
def ofRows (cache : Attachment.Cache) : List Row → List RenderedRow × Attachment.Cache
  | [] => ([], cache)
  | row :: rest =>
      let (first, cache) := ofRow cache row
      let (others, cache) := ofRows cache rest
      (first :: others, cache)

end RenderedRow

namespace View

/-- A view of a conversation that has not been rendered. -/
def ofSettings (conversation : String) (s : Settings) : View :=
  { conversation, window := .ofSettings s, follower := { throttle := s.throttle } }

/-- How many messages are hidden. -/
def hidden (v : View) : Nat :=
  v.window.hidden

/-- Show older messages by one step, and say whether any were hidden. -/
def loadOlder (v : View) : Bool × View :=
  let (loaded, window) := v.window.loadOlder
  (loaded, { v with window })

/-- The reply to show: one of this conversation that has something to show. -/
def accepted (v : View) (buffer : Option Stream.Buffer) : Option Stream.Buffer :=
  buffer.filter fun b => b.conversation == v.conversation && b.isRenderable

/-- Where to scroll after a pass whose last row is `bottom`. New messages count
before a growing reply, and a history that was empty before counts as new. -/
def follow (v : View) (bottom : Option RowKey) (change : WindowChange)
    (buffer : Option Stream.Buffer) (now : Nat) : Option Scroll.Request × View :=
  let length := (buffer.map Stream.Buffer.length).getD 0
  let streamGrew := v.streamLength < length
  let v := { v with streamLength := length }
  if !v.follower.hasAppeared then
    let (request, follower) := v.follower.appear bottom now
    (request, { v with follower })
  else
    match bottom, change with
    | none, _ => (none, v)
    | some bottom, .grew _ | some bottom, .opened =>
        let (request, follower) := v.follower.tailGrew bottom now
        (some request, { v with follower })
    | some bottom, _ =>
        if streamGrew then
          let (request, follower) := v.follower.streamGrew bottom now
          (request, { v with follower })
        else (none, v)

/-- One pass over the messages of a conversation and the reply that is being
written in it. -/
def render (v : View) (cache : Attachment.Cache) (messages : List Message)
    (buffer : Option Stream.Buffer) (now : Nat) : Pass × View × Attachment.Cache :=
  let (change, window) := v.window.sync messages.length
  let v := { v with window }
  let buffer := v.accepted buffer
  let rows := Row.merge (window.slice messages) (window.preceding? messages) buffer
  let (rendered, cache) := RenderedRow.ofRows cache rows
  let (scroll, v) := v.follow (rows.getLast?.map Row.key) change buffer now
  (⟨rendered, window.hidden, scroll⟩, v, cache)

end View

/-! ### Views that share a cache -/

/-- Several views and the cache they share. -/
structure Session where
  views : List View
  cache : Attachment.Cache

namespace Session

/-- A view of each of some conversations. -/
def ofSettings (conversations : List String) (s : Settings) (digest : String → String := id) :
    Session :=
  ⟨conversations.map (View.ofSettings · s), .ofCapacity s.cacheCapacity digest⟩

/-- One pass of one of the views. -/
def render? (s : Session) (index : Nat) (messages : List Message) (buffer : Option Stream.Buffer)
    (now : Nat) : Option (Pass × Session) := do
  let view ← s.views[index]?
  let (pass, view, cache) := view.render s.cache messages buffer now
  return (pass, ⟨s.views.set index view, cache⟩)

/-- Show older messages in one of the views, and say whether any were hidden. -/
def loadOlder? (s : Session) (index : Nat) : Option (Bool × Session) := do
  let view ← s.views[index]?
  let (loaded, view) := view.loadOlder
  return (loaded, { s with views := s.views.set index view })

end Session

end Scrollback
