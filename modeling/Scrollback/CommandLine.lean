import Scrollback.Word

/-!
The command line.

Arguments are read from left to right: options with their values, one path to the
events, and `--`, after which everything is a path. The first argument that asks
for help or cannot be read decides; that a path is missing is noticed at the end.
-/

namespace Scrollback

/-- What the command line asks for. -/
structure Options where
  /-- The file of events. -/
  events : String
  conversation : Option String := none
  /-- How often older messages are asked for. -/
  loadOlder : Nat := 0
  query : Option String := none
  /-- The file of agents. -/
  agents : Option String := none
  /-- The file of chunks. -/
  chunks : Option String := none
  /-- The file of settings. -/
  settings : Option String := none
  deriving DecidableEq, Repr

namespace CommandLine

/-- How the command line is understood. -/
inductive Request where
  | run (options : Options)
  | help
  | misuse
  deriving DecidableEq, Repr

/-- An option that takes a value. -/
inductive Flag where
  | conversation
  | loadOlder
  | query
  | agents
  | chunks
  | settings
  deriving DecidableEq, Repr

/-- The option of a long name. -/
def Flag.ofName? : String → Option Flag
  | "conversation" => some conversation
  | "load-older" => some loadOlder
  | "query" => some query
  | "agents" => some agents
  | "chunks" => some chunks
  | "config" => some settings
  | _ => none

/-- The options read so far. -/
structure Draft where
  events : Option String := none
  conversation : Option String := none
  loadOlder : Option Nat := none
  query : Option String := none
  agents : Option String := none
  chunks : Option String := none
  settings : Option String := none

/-- A path, which may not be empty. -/
def path? (s : String) : Option String :=
  if s.isEmpty then none else some s

/-- A 64-bit number in decimal digits, with or without a plus sign. -/
def number? (s : String) : Option Nat :=
  let digits := match s.toList with
    | '+' :: rest => rest
    | cs => cs
  if digits.isEmpty || !digits.all Char.isDigit then none
  else some (digits.foldl (fun n c => n * 10 + (c.toNat - 48)) 0) |>.filter (· < wordCount)

/-- A value for something that has none yet. -/
def fresh {α : Type} (old new : Option α) : Option (Option α) :=
  if old.isSome || new.isNone then none else some new

namespace Draft

/-- Give an option its value. No option may be given twice. -/
def set (d : Draft) (flag : Flag) (value : String) : Option Draft :=
  match flag with
  | .conversation => (fresh d.conversation (some value)).map ({ d with conversation := · })
  | .loadOlder => (fresh d.loadOlder (number? value)).map ({ d with loadOlder := · })
  | .query => (fresh d.query (some value)).map ({ d with query := · })
  | .agents => (fresh d.agents (path? value)).map ({ d with agents := · })
  | .chunks => (fresh d.chunks (path? value)).map ({ d with chunks := · })
  | .settings => (fresh d.settings (path? value)).map ({ d with settings := · })

/-- Give the path of the events. -/
def setEvents (d : Draft) (value : String) : Option Draft :=
  (fresh d.events (path? value)).map ({ d with events := · })

/-- The options at the end of the line. -/
def finish (d : Draft) : Request :=
  match d.events with
  | none => .misuse
  | some events => .run {
      events
      conversation := d.conversation
      loadOlder := d.loadOlder.getD 0
      query := d.query
      agents := d.agents
      chunks := d.chunks
      settings := d.settings }

end Draft

/-- What an argument is. -/
inductive Argument where
  /-- A path, or the value of the option before. -/
  | plain (text : String)
  /-- An option, with its value when it is written in the same argument. -/
  | option (flag : Flag) (value : Option String)
  | help
  /-- The end of the options. -/
  | separator
  | unknown
  deriving DecidableEq, Repr

/-- A long option without its dashes: a name, and a value after an equals sign. -/
def Argument.ofLong (cs : List Char) : Argument :=
  let name := String.ofList (cs.takeWhile (· != '='))
  let value := match cs.dropWhile (· != '=') with
    | [] => none
    | _ :: rest => some (String.ofList rest)
  if name = "help" then if value.isNone then .help else .unknown
  else match Flag.ofName? name with
    | some flag => .option flag value
    | none => .unknown

/-- A short option without its dash: a letter, and a value after it or after an
equals sign. -/
def Argument.ofShort : List Char → Argument
  | ['c'] => .option .settings none
  | 'c' :: '=' :: rest => .option .settings (some (String.ofList rest))
  | 'c' :: rest => .option .settings (some (String.ofList rest))
  | 'h' :: _ => .help
  | _ => .unknown

/-- What an argument is. A lone dash is plain. -/
def Argument.ofString (s : String) : Argument :=
  match s.toList with
  | ['-', '-'] => .separator
  | '-' :: '-' :: rest => .ofLong rest
  | '-' :: c :: rest => .ofShort (c :: rest)
  | _ => .plain s

/-- The arguments after the end of the options: all are paths. -/
def readPaths (d : Draft) : List String → Request
  | [] => d.finish
  | s :: rest =>
      match d.setEvents s with
      | some d => readPaths d rest
      | none => .misuse

/-- The arguments after a draft. `waiting` is an option that waits for its
value. -/
def readFrom (d : Draft) (waiting : Option Flag) : List String → Request
  | [] => if waiting.isSome then .misuse else d.finish
  | s :: rest =>
      match waiting, Argument.ofString s with
      | some flag, .plain value =>
          match d.set flag value with
          | some d => readFrom d none rest
          | none => .misuse
      | some _, _ => .misuse
      | none, .plain path =>
          match d.setEvents path with
          | some d => readFrom d none rest
          | none => .misuse
      | none, .option flag (some value) =>
          match d.set flag value with
          | some d => readFrom d none rest
          | none => .misuse
      | none, .option flag none => readFrom d (some flag) rest
      | none, .help => .help
      | none, .separator => readPaths d rest
      | none, .unknown => .misuse

/-- How a command line is understood. -/
def read (arguments : List String) : Request :=
  readFrom {} none arguments

/-- What is printed when help is asked for. -/
def helpText : String :=
  "Run one transcript render pass over a dump of raw events\n\n" ++
  "Usage: debug_transcript [OPTIONS] <EVENTS>\n\n" ++
  "Arguments:\n" ++
  "  <EVENTS>  JSON array of raw events\n\n" ++
  "Options:\n" ++
  "      --conversation <CONVERSATION>  " ++
    "Conversation (root event ID) to render; defaults to the first thread found\n" ++
  "      --load-older <LOAD_OLDER>      " ++
    "Number of \"load older\" steps to apply before rendering [default: 0]\n" ++
  "      --query <QUERY>                Type-ahead query to match against agents\n" ++
  "      --agents <AGENTS>              " ++
    "JSON array of agent candidates; defaults to one per distinct author\n" ++
  "      --chunks <CHUNKS>              JSON array of stream chunks to feed before rendering\n" ++
  "  -c, --config <CONFIG>              Path to JSON transcript config\n" ++
  "  -h, --help                         Print help\n"

end CommandLine

end Scrollback
