import Scrollback.Proofs.View.Following
import Scrollback.Proofs.View.Presentation

/-!
Older messages on request.

Asking for older messages and rendering the same messages again puts rows in front of
those that were there and changes nothing else (`loadOlder_prepends`): the window is
wider by whole steps, the old rows keep their contents, references and grouping, and
the display stays where it is.
-/

namespace Scrollback

/-! ### Rows in front -/

/-- With fewer messages hidden the rows are the same but for those in front, which show
the messages that are no longer hidden. -/
theorem exists_older (buffer : Option Stream.Buffer) {messages : List Message}
    {first second : Nat} (le : second ≤ first) (within : first ≤ messages.length) :
    ∃ older,
      ((Row.merge messages none buffer).drop second).map RenderedRow.fresh =
        older ++ ((Row.merge messages none buffer).drop first).map RenderedRow.fresh ∧
      List.Forall₂ RenderedRow.Presents older ((messages.take first).drop second) := by
  obtain ⟨shown, reply, eq, messageRows, -⟩ :=
    exists_map_fresh buffer (Nat.le_trans le within)
  have length : first - second ≤ shown.length := by
    rw [messageRows.length_eq, List.length_drop]
    omega
  have drop : ((Row.merge messages none buffer).drop first).map RenderedRow.fresh =
      (shown ++ reply).drop (first - second) := by
    rw [← eq, ← List.map_drop, List.drop_drop, Nat.add_sub_cancel' le]
  refine ⟨shown.take (first - second), ?_, ?_⟩
  · rw [eq, drop, List.drop_append_of_le_length length, ← List.append_assoc,
      List.take_append_drop]
  · rw [List.drop_take]
    exact List.forall₂_take _ messageRows

/-! ### Nothing to follow -/

/-- Nothing is due when neither messages nor the reply have grown, unless the view has yet
to appear. -/
theorem Scroll.due_eq_none {lastAt : Option Nat} {bottom : Option RowKey}
    (appeared : lastAt = none → bottom = none) (throttle now : Nat) :
    due throttle lastAt false false now bottom = none := by
  cases bottom with
  | none => rfl
  | some target =>
      cases lastAt with
      | none => cases appeared rfl
      | some last => rfl

/-! ### Prepending -/

/-- A pass puts older messages in front of the rows of another and leaves everything else
as it is, the display included. -/
structure Pass.Prepends (second first : Pass) (s : Settings) (times : Nat)
    (messages : List Message) : Prop where
  scroll : second.scroll = none
  hidden : second.hidden = first.hidden - times * s.step
  rows : ∃ older, second.rows = older ++ first.rows ∧
    List.Forall₂ RenderedRow.Presents older ((messages.take first.hidden).drop second.hidden)

/-- A pass without rows had no messages, when the window shows at least one. -/
theorem Pass.ShowsNewest.eq_nil {pass : Pass} {conversation : String} {s : Settings}
    {messages : List Message} {buffer : Option Stream.Buffer}
    (newest : pass.ShowsNewest conversation s messages buffer) (positive : 0 < s.initialSize)
    (none : pass.rows = []) : messages = [] := by
  obtain ⟨shown, reply, eq, messageRows, -⟩ := newest.rows
  have noMessages : shown = [] := (List.append_eq_nil_iff.mp (eq.symm.trans none)).1
  have length := messageRows.length_eq
  rw [noMessages, List.length_nil, List.length_drop] at length
  have atLeast := newest.initialSize_le
  apply List.eq_nil_of_length_eq_zero
  omega

/-- A view after a pass and a number of requests for older messages. -/
def Viewing.paged (u : Viewing) (messages : List Message) (buffer : Option Stream.Buffer)
    (now times : Nat) : Viewing :=
  (u.step (.render messages buffer now)).run (List.replicate times .loadOlder)

section Prepends

variable {contents : Set String} {conversation : String} {s : Settings} {u : Viewing}

theorem Viewing.Coherent.paged (coherent : u.Coherent conversation s) (messages : List Message)
    (buffer : Option Stream.Buffer) (now times : Nat) :
    (u.paged messages buffer now times).Coherent conversation s :=
  (coherent.step (.render messages buffer now)).run (List.replicate times .loadOlder)

theorem Viewing.Sound.paged (sound : u.Sound contents conversation s) {messages : List Message}
    {buffer : Option Stream.Buffer} {now : Nat}
    (used : View.contentsOf [.render messages buffer now] ⊆ contents) (times : Nat) :
    (u.paged messages buffer now times).Sound contents conversation s := by
  refine (sound.step used).run ?_
  rintro content mem
  obtain ⟨call, callMem, read⟩ := List.mem_flatMap.mp mem
  rw [List.eq_of_mem_replicate callMem] at read
  cases read

/-- The window of the second pass is the one of the first, widened. -/
theorem Viewing.Coherent.hidden_paged (coherent : u.Coherent conversation s)
    (messages : List Message) (buffer : Option Stream.Buffer) (now later times : Nat) :
    ((u.paged messages buffer now times).pass messages buffer later).hidden =
      (u.pass messages buffer now).hidden - times * s.step := by
  have isOpen : (u.view.windowAt messages).isOpen = true := Window.isOpen_sync ..
  have total : (u.view.windowAt messages).total = messages.length := Window.total_sync ..
  have step : (u.view.windowAt messages).step = s.step :=
    (Window.sizes_sync ..).step_eq.trans coherent.step_eq
  have synced : ((u.view.windowAt messages).widen times).sync messages.length =
      (.unchanged, (u.view.windowAt messages).widen times) := by
    rw [← total]
    exact Window.sync_total (w := (u.view.windowAt messages).widen times) isOpen
  rw [Viewing.paged, Viewing.run_replicate_loadOlder, coherent.window_step]
  calc (((u.view.windowAt messages).widen times).sync messages.length).2.hidden
      = ((u.view.windowAt messages).widen times).hidden := by rw [synced]
    _ = (u.view.windowAt messages).hidden - times * s.step := by
        rw [← step]
        rfl

/-- The second pass asks for no scroll: nothing has grown since the first one, and if that
one had no row to go to, there is none now. -/
theorem Viewing.Coherent.scroll_paged (coherent : u.Coherent conversation s)
    {messages : List Message} {buffer : Option Stream.Buffer} {now later times : Nat}
    (rows : (u.pass messages buffer now).rows = [] →
      ((u.paged messages buffer now times).pass messages buffer later).rows = []) :
    ((u.paged messages buffer now times).pass messages buffer later).scroll = none := by
  have records : (u.paged messages buffer now times).records =
      ⟨messages, buffer, now, u.pass messages buffer now⟩ :: u.records := by
    rw [Viewing.paged, Viewing.run_replicate_loadOlder]
    rfl
  have sameCount : (View.lastCount (u.paged messages buffer now times).records <
      messages.length) = False := by
    rw [records]
    exact eq_false (Nat.lt_irrefl messages.length)
  have sameReply : (View.lastReplyLength conversation (u.paged messages buffer now times).records <
      View.replyLength conversation buffer) = False := by
    rw [records]
    exact eq_false (Nat.lt_irrefl (View.replyLength conversation buffer))
  rw [(coherent.paged messages buffer now times).scroll_eq_due]
  simp only [sameCount, sameReply, decide_false]
  apply Scroll.due_eq_none
  intro never
  rw [records, View.lastRequestAt_cons] at never
  have noRequest : (u.pass messages buffer now).scroll = none := by
    cases scroll : (u.pass messages buffer now).scroll with
    | none => rfl
    | some request => simp [scroll] at never
  have neverBefore : View.lastRequestAt u.records = none := by
    simpa [noRequest] using never
  have due := coherent.scroll_eq_due messages buffer now
  rw [noRequest, neverBefore] at due
  have noRow : (u.pass messages buffer now).rows.getLast? = none := by
    cases last : (u.pass messages buffer now).rows.getLast? with
    | none => rfl
    | some row =>
        rw [last] at due
        cases due
  rw [rows (List.getLast?_eq_none_iff.mp noRow)]
  rfl

theorem Viewing.Sound.prepends (sound : u.Sound contents conversation s)
    (positive : 0 < s.initialSize) {messages : List Message} {buffer : Option Stream.Buffer}
    {now : Nat} (used : View.contentsOf [.render messages buffer now] ⊆ contents)
    (later times : Nat) :
    ((u.paged messages buffer now times).pass messages buffer later).Prepends
      (u.pass messages buffer now) s times messages := by
  have newest := sound.showsNewest used
  have after := sound.paged used times
  have hidden := sound.hidden_paged messages buffer now later times
  have sameReply : (u.paged messages buffer now times).view.accepted buffer =
      u.view.accepted buffer := by
    unfold View.accepted
    rw [after.conversation_eq, sound.conversation_eq]
  have less : ((u.paged messages buffer now times).pass messages buffer later).hidden ≤
      (u.pass messages buffer now).hidden := hidden ▸ Nat.sub_le _ _
  have rows : ∃ older,
      ((u.paged messages buffer now times).pass messages buffer later).rows =
        older ++ (u.pass messages buffer now).rows ∧
      List.Forall₂ RenderedRow.Presents older
        ((messages.take (u.pass messages buffer now).hidden).drop
          ((u.paged messages buffer now times).pass messages buffer later).hidden) := by
    have usedLater : View.contentsOf [.render messages buffer later] ⊆ contents := used
    rw [after.rows_pass usedLater, sound.rows_pass used, sameReply]
    exact exists_older (u.view.accepted buffer) less newest.hidden_le
  refine ⟨sound.scroll_paged ?_, hidden, rows⟩
  -- A pass without rows was over an empty history, which has no older messages.
  intro none
  obtain ⟨older, eq, messageRows⟩ := rows
  rw [newest.eq_nil positive none, List.take_nil, List.drop_nil] at messageRows
  cases messageRows
  exact eq.trans none

end Prepends

/-- Rendering the same messages again after older ones were asked for, at any time and
from any state, puts the rows of as many older messages in front and changes nothing
else. -/
theorem loadOlder_prepends (conversation : String) (s : Settings) (valid : s.check = .ok ())
    (capacity : Nat) (digest : String → String) (calls : List View.Call)
    (messages : List Message) (buffer : Option Stream.Buffer) (now later times : Nat)
    (apart : Set.InjOn digest (View.contentsOf (calls ++ [.render messages buffer now]))) :
    let u := (Viewing.start conversation s (.ofCapacity capacity digest)).run calls
    ((u.paged messages buffer now times).pass messages buffer later).Prepends
      (u.pass messages buffer now) s times messages := by
  intro u
  obtain ⟨sound, used⟩ := Viewing.sound_run apart conversation s capacity
  have positive := ((Settings.check_eq_ok_iff s).mp valid).1
  exact sound.prepends positive used later times

/-- A window of two messages out of four that is widened by one. -/
theorem loadOlder_prepends_sample :
    Sample.settings.check = .ok () ∧
      Set.InjOn Sample.digest (View.contentsOf
        (Sample.calls ++ [.render Sample.messages (some Sample.reply) 9])) ∧
      let u := (Viewing.start "conv" Sample.settings (.ofCapacity 2 Sample.digest)).run Sample.calls
      ((u.paged Sample.messages (some Sample.reply) 9 1).pass Sample.messages
        (some Sample.reply) 3).Prepends (u.pass Sample.messages (some Sample.reply) 9)
          Sample.settings 1 Sample.messages := by
  have valid : Sample.settings.check = .ok () := by decide
  exact ⟨valid, Sample.injOn_digest, loadOlder_prepends "conv" Sample.settings valid 2 Sample.digest
    Sample.calls Sample.messages (some Sample.reply) 9 3 1 Sample.injOn_digest⟩

end Scrollback
