import Scrollback.Text.Shorten
import Scrollback.Tool.Arguments
import Scrollback.Tool.Family
import Scrollback.Tool.Icon

/-!
One-line summaries of tool calls.

The family of a tool decides the icon and which arguments its line is made of. A
tool of no family is summarised by its description, by the text of its message,
by a verb and a target, or by its name, whichever comes first.
-/

namespace Scrollback.Tool

/-- The icon and the line of a tool call. -/
structure Summary where
  icon : Icon
  text : String
  deriving DecidableEq, Repr

/-- A call of a tool, by the base of its name. -/
structure Call where
  base : String
  arguments : Arguments

namespace Call

/-- A text between double quotes. -/
def quoted (s : String) : String :=
  "\"" ++ s ++ "\""

/-- The pattern or query of a call, quoted. -/
def pattern? (c : Call) : Option String :=
  (c.arguments.firstText? ["pattern", "query"]).map fun p => quoted (Text.ellipsize p 30)

/-- The path a call works on, shortened. -/
def path? (c : Call) : Option String :=
  (c.arguments.firstText? ["file_path", "path", "filePath", "file", "target"]).map Text.shortenPath

/-- What a call does to a file: its description, else its path, else its pattern. -/
def fileTarget? (c : Call) : Option String :=
  ((c.arguments.text? "description").map (Text.ellipsize · 60)).or (c.path?.or c.pattern?)

/-! ### Lines of the families -/

/-- How many tasks a list has. -/
def todoLine (c : Call) : String :=
  toString (c.arguments.count ["todos", "items"]) ++ " tasks"

/-- What a command is for, else the command, else the tool. -/
def shellLine (c : Call) : String :=
  ((c.arguments.text? "description").or
    ((c.arguments.text? "command").map (Text.ellipsize · 50))).getD c.base

/-- The headers of the questions asked. -/
def headers (c : Call) : List String :=
  ((c.arguments.items? "questions").getD []).filterMap fun q => (q.member? "header").bind Json.text?

/-- The title of a question and the headers of its parts. -/
def askLine (c : Call) : String :=
  let title := quoted ((c.arguments.text? "title").getD "Question")
  if c.headers.isEmpty then "Asking: " ++ title
  else "Asking: " ++ title ++ " [" ++ ", ".intercalate c.headers ++ "]"

/-- The file that is read. -/
def readLine (c : Call) : String :=
  c.fileTarget?.getD "Reading"

/-- The file that is changed. -/
def writeLine (c : Call) : String :=
  c.fileTarget?.getD (if Text.occurs ['e', 'd', 'i', 't'] c.base.toList then "Editing" else "Writing")

/-- What is searched for, else where. -/
def searchLine (c : Call) : String :=
  (c.pattern?.or c.path?).getD "Searching"

/-- The task handed over, else to whom. -/
def delegateLine (c : Call) : String :=
  Text.ellipsize ((c.arguments.firstText? ["description", "prompt", "recipient"]).getD "agent") 40

/-- The model that is chosen. -/
def modelLine (c : Call) : String :=
  "→ " ++ (c.arguments.firstText? ["variant", "model"]).getD "default"

/-- The conversation that is opened, and what is asked of it. -/
def conversationLine (c : Call) : String :=
  let id := ((c.arguments.firstText? ["conversationId", "conversation_id", "id"]).map
    (Text.cut · 12)).getD "conversation"
  match c.arguments.text? "prompt" with
  | some prompt => id ++ " → " ++ quoted (Text.ellipsize prompt 50)
  | none => id

/-- The summary of a call of a family. -/
def ofFamily (c : Call) : Family → Summary
  | .todo => ⟨.checklist, c.todoLine⟩
  | .shell => ⟨.terminal, c.shellLine⟩
  | .ask => ⟨.question, c.askLine⟩
  | .read => ⟨.fileRead, c.readLine⟩
  | .write => ⟨.fileEdit, c.writeLine⟩
  | .search => ⟨.search, c.searchLine⟩
  | .delegate => ⟨.delegate, c.delegateLine⟩
  | .model => ⟨.model, c.modelLine⟩
  | .conversation => ⟨.conversation, c.conversationLine⟩

/-! ### Tools of no family -/

/-- The verbs for common base names. -/
def verbs : List (List String × String) :=
  [(["fetch", "web_fetch", "webfetch"], "Fetching"),
   (["ls", "list", "list_dir", "list_files"], "Listing"),
   (["rm", "delete", "delete_file"], "Deleting"),
   (["mv", "move", "rename"], "Moving"),
   (["download"], "Downloading"),
   (["upload", "upload_blob"], "Uploading"),
   (["run", "execute"], "Running")]

/-- The verb for what a tool does. -/
def verb? (c : Call) : Option String :=
  (verbs.find? (·.1.contains c.base)).map (·.2)

/-- The path of a call, else its pattern. -/
def target? (c : Call) : Option String :=
  c.path?.or c.pattern?

/-- The verb and the target of a call, else the name of the tool as it stands. -/
def actionLine (c : Call) (name : String) : String :=
  match c.verb?, c.target? with
  | some verb, some target => verb ++ " " ++ target
  | some verb, none => verb
  | none, some target => target
  | none, none => if (Text.trimmed? name).isSome then name else "tool"

/-- The line of a tool of no family: its description, else the text of its
message, else its action. -/
def plainLine (c : Call) (name : String) (fallback : Option String) : String :=
  match (c.arguments.text? "description").or (fallback.bind Text.trimmed?) with
  | some text => Text.ellipsize text 80
  | none => c.actionLine name

end Call

/-- The summary of a call: the tool's name, its arguments as JSON text, and the
text of the message that records it. -/
def summarize (name : String) (arguments fallback : Option String) : Summary :=
  let call : Call := ⟨baseName name, .ofText? arguments⟩
  match Family.ofBase? call.base with
  | some family => call.ofFamily family
  | none => ⟨.tool, call.plainLine name fallback⟩

end Scrollback.Tool
