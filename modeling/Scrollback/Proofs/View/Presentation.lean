import Scrollback.Proofs.View.Run

/-!
What a pass shows.

However a view has been used, a pass shows the newest messages and no others: at
least the first size of the window, each message once and in order, with its own
content and references, and after them the reply that is being written, if it
belongs to the conversation and has something to show (`pass_shows_newest`). The one
assumption is that the digest of the cache tells the contents apart.
-/

namespace Scrollback

/-- A row shows a message: a tool call by its summary, any other by its content. -/
structure RenderedRow.Presents (r : RenderedRow) (m : Message) : Prop where
  row : r.row.IsMessage m
  tool : ∀ name, m.toolName = some name →
    r.content = .tool (Tool.summarize name m.toolArguments (some m.content))
  text : m.toolName = none → r.content = .text (Attachment.Parsed.ofContent m.content)
  references : r.references = if Tool.showsReferences m.toolName = true then m.quotes else []

/-- A row shows the reply that is being written. -/
structure RenderedRow.Streams (r : RenderedRow) (b : Stream.Buffer) : Prop where
  row : r.row.IsReply b
  content : r.content = .stream b.text b.reasoning b.isComplete
  references : r.references = []

/-- The rows after the messages: one for a reply of the conversation that has something
to show, and none otherwise. -/
inductive View.ShowsReply (conversation : String) (buffer : Option Stream.Buffer) :
    List RenderedRow → Prop where
  | shown {b : Stream.Buffer} {r : RenderedRow} : buffer = some b →
      b.conversation = conversation → b.isRenderable = true → r.Streams b →
      ShowsReply conversation buffer [r]
  | absent : (∀ b, buffer = some b → ¬ (b.conversation = conversation ∧ b.isRenderable = true)) →
      ShowsReply conversation buffer []

/-! ### Rows that are read afresh -/

theorem RenderedRow.presents_fresh {row : Row} {m : Message} (isMessage : row.IsMessage m) :
    (fresh row).Presents m := by
  obtain ⟨continues, isContinued, rfl⟩ := isMessage
  refine ⟨⟨continues, isContinued, rfl⟩, ?_, ?_, rfl⟩
  · intro name tool
    simp [fresh, Content.ofMessage, tool]
  · intro none
    simp [fresh, Content.ofMessage, none]

theorem RenderedRow.streams_fresh {row : Row} {b : Stream.Buffer} (isReply : row.IsReply b) :
    (fresh row).Streams b := by
  obtain ⟨continues, rfl⟩ := isReply
  exact ⟨⟨continues, rfl⟩, rfl, rfl⟩

/-- The rows of the history after its first messages show the rest of the messages and
then the reply. -/
theorem exists_map_fresh (buffer : Option Stream.Buffer) {messages : List Message} {hidden : Nat}
    (within : hidden ≤ messages.length) :
    ∃ shown reply,
      ((Row.merge messages none buffer).drop hidden).map RenderedRow.fresh = shown ++ reply ∧
      List.Forall₂ RenderedRow.Presents shown (messages.drop hidden) ∧
      List.Forall₂ RenderedRow.Streams reply buffer.toList := by
  rw [Row.drop_merge buffer within, Row.merge]
  obtain ⟨shown, reply, eq, messageRows, replyRows⟩ := Row.exists_following buffer
    ((if hidden = 0 then none else messages[hidden - 1]?).map (·.author)) (messages.drop hidden)
  refine ⟨shown.map .fresh, reply.map .fresh, ?_, ?_, ?_⟩
  · rw [eq, List.map_append]
  · rw [List.forall₂_map_left_iff]
    exact messageRows.imp fun _ _ isMessage => RenderedRow.presents_fresh isMessage
  · rw [List.forall₂_map_left_iff]
    exact replyRows.imp fun _ _ isReply => RenderedRow.streams_fresh isReply

/-- The reply that a view accepts is shown. -/
theorem View.showsReply_of_accepted {v : View} {buffer : Option Stream.Buffer}
    {reply : List RenderedRow}
    (rows : List.Forall₂ RenderedRow.Streams reply (v.accepted buffer).toList) :
    ShowsReply v.conversation buffer reply := by
  cases buffer with
  | none =>
      cases rows
      exact .absent fun b eq => nomatch eq
  | some b =>
      rw [View.accepted_some] at rows
      split at rows
      · rename_i shown
        obtain ⟨row, rest, streams, none, rfl⟩ := List.forall₂_cons_right_iff.mp rows
        cases none
        exact .shown rfl shown.1 shown.2 streams
      · rename_i hidden
        cases rows
        refine .absent ?_
        intro other eq
        cases eq
        exact hidden

/-! ### The newest messages -/

/-- A pass over some messages hides no more than there are and shows at least the first
size of the window; its rows are one for each message that is not hidden, in order, and
then the reply if there is one to show. -/
structure Pass.ShowsNewest (pass : Pass) (conversation : String) (s : Settings)
    (messages : List Message) (buffer : Option Stream.Buffer) : Prop where
  hidden_le : pass.hidden ≤ messages.length
  initialSize_le : min s.initialSize messages.length ≤ messages.length - pass.hidden
  rows : ∃ shown reply, pass.rows = shown ++ reply ∧
    List.Forall₂ RenderedRow.Presents shown (messages.drop pass.hidden) ∧
    View.ShowsReply conversation buffer reply

/-- A view in a sound state shows the newest messages. -/
theorem Viewing.Sound.showsNewest {contents : Set String} {conversation : String} {s : Settings}
    {u : Viewing} (sound : u.Sound contents conversation s) {messages : List Message}
    {buffer : Option Stream.Buffer} {now : Nat}
    (used : View.contentsOf [.render messages buffer now] ⊆ contents) :
    (u.pass messages buffer now).ShowsNewest conversation s messages buffer := by
  have bounded := sound.bounded.sync messages.length
  have total := Window.total_sync u.view.window messages.length
  have within : (u.pass messages buffer now).hidden ≤ messages.length := by
    conv_rhs => rw [← total]
    exact bounded.start_le_total
  refine ⟨within, ?_, ?_⟩
  · have shown := bounded.initialSize_le_shown
    rw [(Window.sizes_sync ..).initialSize_eq, sound.initialSize_eq, Window.shown, total] at shown
    exact shown
  · have rows := sound.rows_pass used
    obtain ⟨shown, reply, eq, messageRows, replyRows⟩ :=
      exists_map_fresh (u.view.accepted buffer) within
    have showsReply := View.showsReply_of_accepted replyRows
    rw [sound.conversation_eq] at showsReply
    exact ⟨shown, reply, rows.trans eq, messageRows, showsReply⟩

/-- Every pass of every run shows the newest messages, whatever the settings, the
messages and the replies, as long as the digest tells the contents apart. -/
theorem pass_shows_newest (conversation : String) (s : Settings) (capacity : Nat)
    (digest : String → String) (calls : List View.Call) (messages : List Message)
    (buffer : Option Stream.Buffer) (now : Nat)
    (apart : Set.InjOn digest (View.contentsOf (calls ++ [.render messages buffer now]))) :
    (((Viewing.start conversation s (.ofCapacity capacity digest)).run calls).pass
      messages buffer now).ShowsNewest conversation s messages buffer := by
  obtain ⟨sound, used⟩ := Viewing.sound_run apart conversation s capacity
  exact sound.showsNewest used

/-- A window of two messages that has been widened, emptied and filled again, seen
through a cache that others have read through. -/
theorem pass_shows_newest_sample :
    Set.InjOn Sample.digest (View.contentsOf
        (Sample.calls ++ [.render Sample.messages (some Sample.reply) 9])) ∧
      (((Viewing.start "conv" Sample.settings (.ofCapacity 2 Sample.digest)).run
        Sample.calls).pass Sample.messages (some Sample.reply) 9).ShowsNewest
          "conv" Sample.settings Sample.messages (some Sample.reply) :=
  ⟨Sample.injOn_digest, pass_shows_newest "conv" Sample.settings 2 Sample.digest Sample.calls
    Sample.messages (some Sample.reply) 9 Sample.injOn_digest⟩

end Scrollback
