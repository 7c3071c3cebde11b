/-!
Icons of tool calls: a name for each and the glyph that stands for it.
-/

namespace Scrollback.Tool

/-- The icon of a tool call. -/
inductive Icon where
  | checklist
  | terminal
  | question
  | fileRead
  | fileEdit
  | search
  | delegate
  | model
  | conversation
  | tool
  deriving DecidableEq, Repr

namespace Icon

/-- The word for an icon. -/
def label : Icon → String
  | checklist => "checklist"
  | terminal => "terminal"
  | question => "question"
  | fileRead => "file-read"
  | fileEdit => "file-edit"
  | search => "search"
  | delegate => "delegate"
  | model => "model"
  | conversation => "conversation"
  | tool => "tool"

/-- The symbol for an icon, one column wide. -/
def glyph : Icon → String
  | checklist => "☑"
  | terminal => "$"
  | question => "?"
  | fileRead => "◉"
  | fileEdit => "✎"
  | search => "◎"
  | delegate => "▶"
  | model => "◆"
  | conversation => "↗"
  | tool => "⚙"

end Icon

end Scrollback.Tool
