import Scrollback.Agent.Match
import Scrollback.Clock
import Scrollback.CommandLine
import Scrollback.Text.Quoted
import Scrollback.View

/-!
The report of one pass over a file of events.

The events of one conversation are put in order, its reply is fed from a file of
chunks, the view is rendered once to size its window and once more after older
messages have been asked for, and the second pass is printed with what the cache
did and which agents a query finds. Files are given by a function from paths to
texts, and the local time by the clock as it stands when each row is printed, so
the report is a value.
-/

namespace Scrollback

namespace Message

/-- Older messages come first, then the smaller identity. -/
def order (a b : Message) : Ordering :=
  (compare a.stamp b.stamp).then (compare a.id b.id)

/-- The messages in their order. -/
def sort (messages : List Message) : List Message :=
  messages.mergeSort fun a b => (order a b).isLE

end Message

namespace Report

/-- The text of a file, if it can be read. -/
abbrev Files := String → Option String

/-- Why a report could not be made, or not to its end. -/
inductive Failure where
  | settings (error : SettingsError)
  | unreadable (path : String)
  | malformed (path : String)
  | noMessages (path : String)
  deriving DecidableEq, Repr

/-- The wording of a failure, without its cause. -/
def Failure.message : Failure → String
  | settings error => error.message
  | unreadable path => "reading " ++ path
  | malformed path => "decoding " ++ path
  | noMessages path => "no decodable messages in " ++ path

/-! ### Reading the files -/

/-- The records in a file that holds a JSON array of them. -/
def readList {α : Type} (files : Files) (path : String) (read : Json → Option α) :
    Except Failure (List α) :=
  match files path with
  | none => .error (.unreadable path)
  | some text =>
      match (Json.read? text).bind (Json.list? read) with
      | none => .error (.malformed path)
      | some records => .ok records

/-- The settings asked for, or the usual ones. -/
def readSettings (files : Files) (o : Options) : Except Failure Settings :=
  match o.settings with
  | none => .ok {}
  | some path => (Settings.load path (files path)).mapError .settings

/-- The messages among some events. -/
def messagesOf (events : List Event) : List Message :=
  events.filterMap fun e => e.toMessage.toOption

/-- The events that are no messages, each with the reason. -/
def skippedOf (events : List Event) : List EventError :=
  events.filterMap fun e =>
    match e.toMessage with
    | .error error => some error
    | .ok _ => none

/-- The conversation asked for, or the one of the first message. -/
def conversation (o : Options) (messages : List Message) : Except Failure String :=
  match o.conversation, messages with
  | some id, _ => .ok id
  | none, m :: _ => .ok m.thread
  | none, [] => .error (.noMessages o.events)

/-- The messages of a conversation and the message that started it, in order. -/
def thread (conversation : String) (messages : List Message) : List Message :=
  Message.sort (messages.filter fun m => m.thread == conversation || m.id == conversation)

/-- The replies that are being written: all chunks applied, and the replies dropped
that messages have taken the place of. -/
def feed (chunks : List Stream.Chunk) (messages : List Message) : Stream.Feed :=
  messages.foldl (fun f m => (f.supersede m).2) (chunks.foldl Stream.Feed.apply {})

/-- The replies fed from the file of chunks, if there is one. -/
def readFeed (files : Files) (o : Options) (messages : List Message) :
    Except Failure Stream.Feed :=
  match o.chunks with
  | none => .ok {}
  | some path =>
      (readList files path (Stream.Chunk.ofJson? (Json.maxLevels - 1))).map (feed · messages)

/-- One agent for each author, named by the beginning of its key. -/
def authors (messages : List Message) : List Agent :=
  let keys := (messages.map (·.author)).mergeSort fun a b => (compare a b).isLE
  keys.eraseReps.map fun key => ⟨Text.cut key 8, key, false⟩

/-- The agents a query is matched against. -/
def readAgents (files : Files) (o : Options) (messages : List Message) :
    Except Failure (List Agent) :=
  match o.agents with
  | none => .ok (authors messages)
  | some path => readList files path Agent.ofJson?

/-! ### The pass -/

/-- Ask for older messages a number of times, or until none are hidden, and count the
requests. -/
def loadOlder : Nat → View → Nat × View
  | 0, v => (0, v)
  | times + 1, v =>
      match v.loadOlder with
      | (true, v) =>
          let (requests, v) := loadOlder times v
          (requests + 1, v)
      | (false, v) => (1, v)

/-- The pass to print, the cache after it, and how often older messages were asked for
before it. -/
structure Rendered where
  pass : Pass
  cache : Attachment.Cache
  requests : Nat

/-- The second of two passes. The first sizes the window. -/
def rendered (settings : Settings) (conversation : String) (times : Nat)
    (messages : List Message) (buffer : Option Stream.Buffer) : Rendered :=
  let view := View.ofSettings conversation settings
  let (_, view, cache) := view.render (.ofCapacity settings.cacheCapacity) messages buffer 0
  let (requests, view) := loadOlder times view
  let (pass, _, cache) := view.render cache messages buffer 0
  ⟨pass, cache, requests⟩

/-! ### Printing -/

/-- What stands before a row: nothing in a group, else the local time of a message and
the beginning of its author's key. -/
def heading (clock : Clock) (row : Row) : String :=
  if row.continues then "  "
  else match row with
    | .message m _ _ => clock.hourMinute m.stamp ++ " " ++ Text.cut m.author 12 ++ ":"
    | .stream b _ => Text.cut b.agent 12 ++ ":"

/-- The lines of what a row shows. -/
def contentLines (heading : String) : Content → List String
  | .tool summary => [heading ++ " " ++ summary.icon.glyph ++ " " ++ summary.text]
  | .text parsed =>
      (heading ++ " " ++ parsed.written) ::
        parsed.bodies.map fun (label, body) =>
          "    attachment " ++ label ++ " (" ++ toString body.utf8ByteSize ++ " bytes)"
  | .stream text reasoning isComplete =>
      [heading ++ " <" ++ (if isComplete then "finishing" else "streaming") ++ "> " ++
        toString text.length ++ " chars text, " ++ toString reasoning.length ++
        " chars reasoning"]

/-- The lines of a row. -/
def rowLines (clock : Clock) (r : RenderedRow) : List String :=
  contentLines (heading clock r.row) r.content ++ r.references.map ("    -> " ++ ·)

/-- The lines of a pass and of what the cache did. Each row is printed at its own time. -/
def passLines (clock : Nat → Clock) (conversation : String) (pass : Pass)
    (cache : Attachment.Cache) : List String :=
  ["Conversation " ++ conversation, toString pass.hidden ++ " earlier messages hidden", ""] ++
    (pass.rows.zipIdx.flatMap fun (r, i) => rowLines (clock i) r) ++
    ["", "attachment cache: " ++ toString cache.size ++ " entries, " ++
      toString cache.stats.parses ++ " parses, " ++ toString cache.stats.hits ++ " hits"]

/-- The lines of what a query finds. -/
def queryLines (query : String) (agents : List Agent) : List String :=
  let agents := Agent.sort agents
  let found := match Agent.best? query agents with
    | some a => " selects " ++ a.name ++ " (" ++ a.key ++ ")"
    | none => " matches no agent"
  ["", "query " ++ Text.Quoted.encode query ++ found] ++
    (Agent.ranked query agents).mapIdx fun i a => "  " ++ toString (i + 1) ++ ". " ++ a.name

/-! ### The report -/

/-- The lines printed before a failure, if there is one. -/
structure Printed where
  lines : List String
  failure : Option Failure
  deriving DecidableEq, Repr

/-- The report on the messages of a file. The agents are read after the pass has
been printed. -/
def print (clock : Nat → Clock) (files : Files) (o : Options) (settings : Settings)
    (messages : List Message) : Printed :=
  match conversation o messages with
  | .error failure => ⟨[], some failure⟩
  | .ok conversation =>
      let messages := thread conversation messages
      match readFeed files o messages with
      | .error failure => ⟨[], some failure⟩
      | .ok feed =>
          let made := rendered settings conversation o.loadOlder messages
            (feed.get? conversation)
          let lines := passLines clock conversation made.pass made.cache
          match o.query with
          | none => ⟨lines, none⟩
          | some query =>
              match readAgents files o messages with
              | .error failure => ⟨lines, some failure⟩
              | .ok agents => ⟨lines ++ queryLines query agents, none⟩

/-- What a run does: its exit code, what it prints, why it fails, and the events it
skips. -/
structure Outcome where
  exitCode : Nat
  output : String
  failure : Option Failure := none
  skipped : List EventError := []
  deriving DecidableEq, Repr

/-- A run that fails before it prints anything. -/
def Outcome.failed (failure : Failure) : Outcome :=
  { exitCode := 1, output := "", failure := some failure }

/-- Every line with the line feed that ends it. -/
def text (lines : List String) : String :=
  String.join (lines.map (· ++ "\n"))

/-- The outcome of a run over the events of a file. -/
def ofEvents (clock : Nat → Clock) (files : Files) (o : Options) (settings : Settings)
    (events : List Event) : Outcome :=
  let printed := print clock files o settings (messagesOf events)
  { exitCode := if printed.failure.isSome then 1 else 0
    output := text printed.lines
    failure := printed.failure
    skipped := skippedOf events }

/-- A run with its options. -/
def runWith (clock : Nat → Clock) (files : Files) (o : Options) : Outcome :=
  match readSettings files o with
  | .error failure => .failed failure
  | .ok settings =>
      match readList files o.events Event.ofJson? with
      | .error failure => .failed failure
      | .ok events => ofEvents clock files o settings events

/-- A run with its arguments. -/
def run (clock : Nat → Clock) (files : Files) (arguments : List String) : Outcome :=
  match CommandLine.read arguments with
  | .help => { exitCode := 0, output := CommandLine.helpText }
  | .misuse => { exitCode := 2, output := "" }
  | .run options => runWith clock files options

end Report

end Scrollback
