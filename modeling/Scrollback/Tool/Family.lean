import Scrollback.Tool.Name

/-!
Families of tools.

A family is a pattern of base names: whole names, endings and beginnings. A name
may fit several patterns, so families are tried in a fixed order and the first
that fits is the family of the tool.
-/

namespace Scrollback.Tool

/-- The families, in the order in which they are tried. -/
inductive Family where
  | todo
  | shell
  | ask
  | read
  | write
  | search
  | delegate
  | model
  | conversation
  deriving DecidableEq, Repr

/-- Which base names belong to a family. -/
structure Pattern where
  names : List String := []
  endings : List String := []
  beginnings : List String := []

/-- Whether a base name is one of the names, or ends or begins as the pattern
says. -/
def Pattern.fits (p : Pattern) (base : String) : Bool :=
  p.names.contains base || p.endings.any (·.toList.isSuffixOf base.toList) ||
    p.beginnings.any (·.toList.isPrefixOf base.toList)

namespace Family

/-- All families, in the order in which they are tried. -/
def all : List Family :=
  [todo, shell, ask, read, write, search, delegate, model, conversation]

/-- The base names of a family. -/
def pattern : Family → Pattern
  | todo => { names := ["todo_write", "todowrite"], endings := ["_todo_write"] }
  | shell => { names := ["bash", "shell", "execute_bash"], endings := ["_shell"] }
  | ask => { names := ["ask", "askuserquestion", "ask_user_question"] }
  | read => { names := ["read", "read_file"], endings := ["_read"] }
  | write =>
      { names := ["write", "edit", "multiedit", "str_replace_editor", "write_file"]
        endings := ["_write", "_edit"] }
  | search =>
      { names := ["glob", "grep", "find", "search", "websearch"]
        endings := ["_glob", "_grep", "_search"] }
  | delegate => { names := ["task", "agent"], beginnings := ["delegate"] }
  | model => { names := ["change_model", "model_change"] }
  | conversation => { names := ["conversation_get", "get_conversation"] }

/-- The word for a family. -/
def label : Family → String
  | todo => "todo"
  | shell => "shell"
  | ask => "ask"
  | read => "read"
  | write => "write"
  | search => "search"
  | delegate => "delegate"
  | model => "model"
  | conversation => "conversation"

/-- The first of some families whose pattern fits a base name. -/
def firstOf (order : List Family) (base : String) : Option Family :=
  order.find? (·.pattern.fits base)

/-- The family of a base name. -/
def ofBase? (base : String) : Option Family :=
  firstOf all base

/-- The family of a tool's name. -/
def of? (name : String) : Option Family :=
  ofBase? (baseName name)

/-- Every family is in the list. -/
theorem mem_all (f : Family) : f ∈ all := by
  cases f <;> decide

end Family

/-! ### Cross-references -/

/-- The tools that keep records of their own: what their messages refer to is not
shown. -/
def recordKeepers : List String :=
  ["report_write", "report_read", "report_delete", "lesson_learn", "lesson_get"]

/-- Whether a message shows what it refers to, given the tool it calls, if any. -/
def showsReferences : Option String → Bool
  | none => true
  | some name => !recordKeepers.contains (baseName name)

end Scrollback.Tool
