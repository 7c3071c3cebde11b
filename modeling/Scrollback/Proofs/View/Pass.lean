import Scrollback.Proofs.Attachment.Cache
import Scrollback.Proofs.Row.Grouping
import Scrollback.Proofs.Window.Bounds
import Scrollback.View

/-!
What one pass does.

A pass shows the last rows of the whole history (`View.rowsAt_eq_drop`), each as if its
content were read afresh (`RenderedRow.ofRows_faithful`), and whether it scrolls is
decided by when the last request was made, whether messages have come in, and whether
the reply has grown (`View.follow_eq`).
-/

namespace Scrollback

/-! ### Contents -/

/-- The content of a message that is read through the cache: of any but a tool call. -/
def Message.readContent? (m : Message) : Option String :=
  if m.toolName.isNone then some m.content else none

/-- What a message shows, read afresh. -/
def Content.ofMessage (m : Message) : Content :=
  match m.toolName with
  | some name => .tool (Tool.summarize name m.toolArguments (some m.content))
  | none => .text (Attachment.Parsed.ofContent m.content)

/-- The conversations that the row of a message refers to. -/
def Message.references (m : Message) : List String :=
  if Tool.showsReferences m.toolName then m.quotes else []

/-- The content that is read for a row. -/
def Row.readContent? : Row → Option String
  | .message m _ _ => m.readContent?
  | .stream _ _ => none

theorem Row.readContent?_mem_following {buffer : Option Stream.Buffer} {previous : Option String}
    {messages : List Message} {row : Row} (mem : row ∈ following buffer previous messages)
    {content : String} (read : row.readContent? = some content) :
    content ∈ messages.filterMap Message.readContent? := by
  induction messages generalizing previous with
  | nil =>
      obtain ⟨b, -, rfl⟩ := List.mem_map.mp mem
      cases read
  | cons m rest ih =>
      rcases List.mem_cons.mp mem with rfl | later
      · exact List.mem_filterMap.mpr ⟨m, List.mem_cons_self, read⟩
      · obtain ⟨other, otherMem, eq⟩ := List.mem_filterMap.mp (ih later)
        exact List.mem_filterMap.mpr ⟨other, List.mem_cons_of_mem m otherMem, eq⟩

namespace RenderedRow

/-- A row with its content, read afresh. -/
def fresh : Row → RenderedRow
  | .message m continues isContinued =>
      ⟨.message m continues isContinued, .ofMessage m, m.references⟩
  | .stream b continues =>
      ⟨.stream b continues, .stream b.text b.reasoning b.isComplete, []⟩

theorem row_ofRow (cache : Attachment.Cache) (row : Row) : (ofRow cache row).1.row = row := by
  cases row with
  | message m continues isContinued =>
      simp only [ofRow]
      split
      · rfl
      · rfl
  | stream b continues => rfl

/-- Whatever the cache holds, the rows of a pass are the rows it was made of. -/
theorem map_row_ofRows (cache : Attachment.Cache) (rows : List Row) :
    (ofRows cache rows).1.map RenderedRow.row = rows := by
  induction rows generalizing cache with
  | nil => rfl
  | cons row rest ih =>
      calc (ofRows cache (row :: rest)).1.map RenderedRow.row
          = (ofRow cache row).1.row :: (ofRows (ofRow cache row).2 rest).1.map RenderedRow.row := rfl
        _ = row :: rest := by rw [row_ofRow, ih]

section Faithful

variable {contents : Set String} {cache : Attachment.Cache}

/-- Through a faithful cache a row shows what it shows when read afresh, and the cache
stays faithful. -/
theorem ofRow_faithful (faithful : cache.Faithful contents)
    (apart : Set.InjOn cache.digest contents) {row : Row}
    (used : ∀ content, row.readContent? = some content → content ∈ contents) :
    (ofRow cache row).1 = fresh row ∧ (ofRow cache row).2.Faithful contents ∧
      (ofRow cache row).2.digest = cache.digest := by
  cases row with
  | stream b continues => exact ⟨rfl, faithful, rfl⟩
  | message m continues isContinued =>
      cases tool : m.toolName with
      | some name =>
          simp only [ofRow, fresh, Content.ofMessage, Message.references, tool]
          exact ⟨trivial, faithful, trivial⟩
      | none =>
          have mem : m.content ∈ contents := by
            apply used
            simp [Row.readContent?, Message.readContent?, tool]
          simp only [ofRow, fresh, Content.ofMessage, Message.references, tool]
          rw [faithful.fst_read apart mem]
          exact ⟨rfl, faithful.read mem, Attachment.Cache.digest_read cache m.content⟩

theorem ofRows_faithful (faithful : cache.Faithful contents)
    (apart : Set.InjOn cache.digest contents) {rows : List Row}
    (used : ∀ row ∈ rows, ∀ content, row.readContent? = some content → content ∈ contents) :
    (ofRows cache rows).1 = rows.map fresh ∧ (ofRows cache rows).2.Faithful contents ∧
      (ofRows cache rows).2.digest = cache.digest := by
  induction rows generalizing cache with
  | nil => exact ⟨rfl, faithful, rfl⟩
  | cons row rest ih =>
      obtain ⟨first, faithful', same⟩ :=
        ofRow_faithful faithful apart (used row List.mem_cons_self)
      obtain ⟨others, faithful'', same'⟩ :=
        ih faithful' (same ▸ apart) fun r mem => used r (List.mem_cons_of_mem row mem)
      refine ⟨?_, faithful'', same'.trans same⟩
      calc (ofRows cache (row :: rest)).1
          = (ofRow cache row).1 :: (ofRows (ofRow cache row).2 rest).1 := rfl
        _ = (row :: rest).map fresh := by rw [first, others, List.map_cons]

end Faithful

end RenderedRow

/-! ### The rows of a pass -/

namespace View

/-- A reply is accepted when it belongs to the conversation and has something to show. -/
theorem accepted_some (v : View) (b : Stream.Buffer) :
    v.accepted (some b) =
      if b.conversation = v.conversation ∧ b.isRenderable = true then some b else none := by
  simp [accepted, Option.filter]

/-- The window after it has followed the messages of a pass. -/
def windowAt (v : View) (messages : List Message) : Window :=
  (v.window.sync messages.length).2

/-- The rows of a pass, before their contents are read. -/
def rowsAt (v : View) (messages : List Message) (buffer : Option Stream.Buffer) : List Row :=
  Row.merge ((v.windowAt messages).slice messages) ((v.windowAt messages).preceding? messages)
    (v.accepted buffer)

/-- The rows of a pass are the last rows of the whole history: all but as many as
there are messages hidden. -/
theorem rowsAt_eq_drop {v : View} {messages : List Message} (buffer : Option Stream.Buffer)
    (bounded : v.window.Bounded) :
    v.rowsAt messages buffer =
      (Row.merge messages none (v.accepted buffer)).drop (v.windowAt messages).hidden := by
  have total : (v.windowAt messages).total = messages.length := Window.total_sync _ _
  have within : (v.windowAt messages).start ≤ messages.length :=
    total ▸ (bounded.sync messages.length).start_le_total
  have slice : (v.windowAt messages).slice messages =
      messages.drop (v.windowAt messages).start := by
    rw [Window.slice, total, List.take_length]
  rw [rowsAt, slice]
  exact (Row.drop_merge (v.accepted buffer) within).symm

theorem readContent?_mem_rowsAt {v : View} {messages : List Message}
    {buffer : Option Stream.Buffer} (bounded : v.window.Bounded) {row : Row}
    (mem : row ∈ v.rowsAt messages buffer) {content : String}
    (read : row.readContent? = some content) :
    content ∈ messages.filterMap Message.readContent? := by
  rw [rowsAt_eq_drop buffer bounded] at mem
  exact Row.readContent?_mem_following (List.mem_of_mem_drop mem) read

section Render

variable (v : View) (cache : Attachment.Cache) (messages : List Message)
  (buffer : Option Stream.Buffer) (now : Nat)

/-- The decision where to scroll that is part of a pass. -/
def followAt : Option Scroll.Request × View :=
  { v with window := v.windowAt messages }.follow
    ((v.rowsAt messages buffer).getLast?.map Row.key) (v.window.sync messages.length).1
    (v.accepted buffer) now

/-- A pass, the view after it, and the cache after it. -/
theorem render_eq :
    v.render cache messages buffer now =
      (⟨(RenderedRow.ofRows cache (v.rowsAt messages buffer)).1, (v.windowAt messages).hidden,
          (v.followAt messages buffer now).1⟩,
        (v.followAt messages buffer now).2,
        (RenderedRow.ofRows cache (v.rowsAt messages buffer)).2) :=
  rfl

/-- The last row of a pass does not depend on the cache. -/
theorem getLast?_render :
    (v.render cache messages buffer now).1.rows.getLast?.map (·.row.key) =
      (v.rowsAt messages buffer).getLast?.map Row.key := by
  have rows := RenderedRow.map_row_ofRows cache (v.rowsAt messages buffer)
  conv_rhs => rw [← rows]
  rw [List.getLast?_map, Option.map_map]
  rfl

end Render

end View

/-! ### Where a pass scrolls -/

namespace Scroll

/-- The request that is due after a pass: none without a last row; the first one once
the layout has settled; then one that is animated for new messages, and one that is not
for a growing reply when the throttle has passed since the last request. -/
def due (throttle : Nat) (lastAt : Option Nat) (moreMessages replyGrew : Bool) (now : Nat) :
    Option RowKey → Option Request
  | none => none
  | some target =>
      match lastAt with
      | none => some ⟨target, false, .afterLayout⟩
      | some last =>
          if moreMessages then some ⟨target, true, .immediate⟩
          else if replyGrew ∧ throttle ≤ now - last then some ⟨target, false, .immediate⟩
          else none

/-- The state after a pass that made a request, or none. -/
def Follower.after (f : Follower) (request : Option Request) (now : Nat) : Follower :=
  if request.isSome then { f with hasAppeared := true, lastAt := some now } else f

theorem Follower.throttle_after (f : Follower) (request : Option Request) (now : Nat) :
    (f.after request now).throttle = f.throttle := by
  unfold after
  split
  · rfl
  · rfl

theorem Follower.lastAt_after (f : Follower) (request : Option Request) (now : Nat) :
    (f.after request now).lastAt = if request.isSome then some now else f.lastAt := by
  unfold after
  split
  · rfl
  · rfl

theorem Follower.hasAppeared_after {f : Follower} (appeared : f.hasAppeared = f.lastAt.isSome)
    (request : Option Request) (now : Nat) :
    (f.after request now).hasAppeared = (f.after request now).lastAt.isSome := by
  unfold after
  split
  · rfl
  · exact appeared

/-- A growing reply is followed unless the throttle has not passed since the last
request. -/
theorem Follower.streamGrew_eq {f : Follower} (appeared : f.hasAppeared = true) {last : Nat}
    (lastAt : f.lastAt = some last) (target : RowKey) (now : Nat) :
    f.streamGrew target now =
      let request := due f.throttle f.lastAt false true now (some target)
      (request, f.after request now) := by
  by_cases recent : now - last < f.throttle
  · have early : ¬ f.throttle ≤ now - last := Nat.not_le.mpr recent
    simp [streamGrew, isThrottled, due, after, lastAt, recent, early]
  · have late : f.throttle ≤ now - last := Nat.le_of_not_lt recent
    simp [streamGrew, isThrottled, due, after, lastAt, recent, late, appeared]

end Scroll

namespace View

/-- A view that has appeared follows new messages before a growing reply, and nothing
else. -/
theorem follow_some {v : View} (appeared : v.follower.hasAppeared = true) (target : RowKey)
    (change : WindowChange) (buffer : Option Stream.Buffer) (now : Nat) :
    v.follow (some target) change buffer now =
      let length := (buffer.map Stream.Buffer.length).getD 0
      let (request, follower) :=
        if change.isGrowth then
          let (request, follower) := v.follower.tailGrew target now
          (some request, follower)
        else if v.streamLength < length then v.follower.streamGrew target now
        else (none, v.follower)
      (request, { v with streamLength := length, follower }) := by
  unfold follow
  by_cases grew : v.streamLength < (buffer.map Stream.Buffer.length).getD 0
  · cases change <;> simp [appeared, grew, WindowChange.isGrowth]
  · cases change <;> simp [appeared, grew, WindowChange.isGrowth]

/-- Following a pass makes one decision, and keeps its time if it is a request. The view
has appeared exactly when a request has been made. -/
theorem follow_eq {v : View} (appeared : v.follower.hasAppeared = v.follower.lastAt.isSome)
    (bottom : Option RowKey) (change : WindowChange) (buffer : Option Stream.Buffer) (now : Nat) :
    v.follow bottom change buffer now =
      let length := (buffer.map Stream.Buffer.length).getD 0
      let request := Scroll.due v.follower.throttle v.follower.lastAt change.isGrowth
        (v.streamLength < length) now bottom
      (request, { v with streamLength := length, follower := v.follower.after request now }) := by
  cases last : v.follower.lastAt with
  | none =>
      -- Nothing has been asked for yet, so the first row makes the view appear.
      rw [last] at appeared
      cases bottom with
      | none => simp [follow, appeared, Scroll.Follower.appear, Scroll.due, Scroll.Follower.after]
      | some target =>
          simp [follow, appeared, Scroll.Follower.appear, Scroll.due, Scroll.Follower.after]
  | some time =>
      rw [last] at appeared
      cases bottom with
      | none => simp [follow, appeared, Scroll.due, Scroll.Follower.after]
      | some target =>
          rw [follow_some appeared]
          cases growth : change.isGrowth with
          | true => simp [appeared, Scroll.Follower.tailGrew, Scroll.due, Scroll.Follower.after]
          | false =>
              by_cases grew : v.streamLength < (buffer.map Stream.Buffer.length).getD 0
              · simp [grew, Scroll.Follower.streamGrew_eq appeared last, last]
              · simp [grew, Scroll.due, Scroll.Follower.after]

end View

end Scrollback
