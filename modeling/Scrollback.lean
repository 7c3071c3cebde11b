import Scrollback.Agent
import Scrollback.Agent.Match
import Scrollback.Attachment.Basic
import Scrollback.Attachment.Cache
import Scrollback.Attachment.Reader
import Scrollback.Clock
import Scrollback.CommandLine
import Scrollback.Event
import Scrollback.Json.Basic
import Scrollback.Json.Numeral
import Scrollback.Json.Reader
import Scrollback.Json.Record
import Scrollback.Json.Token
import Scrollback.Main
import Scrollback.Message
import Scrollback.Proofs.Agent.Ranking
import Scrollback.Proofs.Agent.Tiers
import Scrollback.Proofs.Agent.Typing
import Scrollback.Proofs.Attachment.Accounts
import Scrollback.Proofs.Attachment.Cache
import Scrollback.Proofs.Attachment.Composition
import Scrollback.Proofs.Attachment.Distinct
import Scrollback.Proofs.Attachment.Eviction
import Scrollback.Proofs.Attachment.Header
import Scrollback.Proofs.Attachment.Reader
import Scrollback.Proofs.Attachment.References
import Scrollback.Proofs.Attachment.Sections
import Scrollback.Proofs.Attachment.Separation
import Scrollback.Proofs.Message.Tags
import Scrollback.Proofs.Report.Lines
import Scrollback.Proofs.Report.Order
import Scrollback.Proofs.Report.Paging
import Scrollback.Proofs.Row.Grouping
import Scrollback.Proofs.Scroll.Throttle
import Scrollback.Proofs.Sorting
import Scrollback.Proofs.Stream.Replay
import Scrollback.Proofs.Text.LineEnds
import Scrollback.Proofs.Text.Lowercase
import Scrollback.Proofs.Text.Search
import Scrollback.Proofs.Text.Visible
import Scrollback.Proofs.Tool.Line
import Scrollback.Proofs.Tool.Naming
import Scrollback.Proofs.Tool.Precedence
import Scrollback.Proofs.Tool.Visible
import Scrollback.Proofs.View.Arrivals
import Scrollback.Proofs.View.Following
import Scrollback.Proofs.View.LateEnd
import Scrollback.Proofs.View.Pagination
import Scrollback.Proofs.View.Pass
import Scrollback.Proofs.View.Presentation
import Scrollback.Proofs.View.Reading
import Scrollback.Proofs.View.Run
import Scrollback.Proofs.View.Sharing
import Scrollback.Proofs.Window.Batches
import Scrollback.Proofs.Window.Bounds
import Scrollback.Proofs.Window.Run
import Scrollback.Proofs.Window.Words
import Scrollback.Reference
import Scrollback.Report
import Scrollback.Row
import Scrollback.Scroll
import Scrollback.Settings
import Scrollback.Stream.Chunk
import Scrollback.Stream.Feed
import Scrollback.Text.Blank
import Scrollback.Text.Casing
import Scrollback.Text.Find
import Scrollback.Text.Lines
import Scrollback.Text.Lowercase
import Scrollback.Text.Lowercase.Table
import Scrollback.Text.Printable
import Scrollback.Text.Quoted
import Scrollback.Text.Shorten
import Scrollback.Text.Stretches
import Scrollback.Tool.Arguments
import Scrollback.Tool.Family
import Scrollback.Tool.Icon
import Scrollback.Tool.Name
import Scrollback.Tool.Summary
import Scrollback.View
import Scrollback.Window
import Scrollback.Word
import Scrollback.Workspace
