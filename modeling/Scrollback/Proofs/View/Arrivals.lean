import Scrollback.Proofs.View.LateEnd
import Scrollback.Proofs.View.Pagination

/-!
Text that comes in between two passes.

While a conversation is on display, chunks come in, replies are dropped and taken over by
other agents, and now and then a pass is made (`Display`). A pass can tell that text has come
in only by the length of the reply. So what has come in is followed when messages have come
in as well or the reply is longer than at the last pass, and not otherwise
(`arrival_followed_iff`). A reply that goes on is always longer. One that another agent has
begun in between may not be, and then nothing is followed (`takeover_not_followed`).
-/

namespace Scrollback

namespace Stream

/-! ### Replies that go on -/

/-- How many bytes of text and reasoning a chunk adds. -/
def Chunk.length (c : Chunk) : Nat :=
  (c.textDelta?.getD "").utf8ByteSize + (c.reasoningDelta?.getD "").utf8ByteSize

theorem Buffer.length_add (b : Buffer) (c : Chunk) : (b.add c).length = b.length + c.length := by
  simp only [Buffer.length, add, Chunk.length, String.utf8ByteSize_append]
  omega

/-- A reply that is not renderable is empty. -/
theorem Buffer.length_eq_zero {b : Buffer} (hidden : b.isRenderable = false) : b.length = 0 := by
  obtain ⟨⟨text, reasoning⟩, -⟩ :
      (b.text = "" ∧ b.reasoning = "") ∧ b.isComplete = true := by
    simpa [isRenderable] using hidden
  rw [Buffer.length, text, reasoning]
  rfl

/-- An operation leaves a reply to its agent: it neither drops it nor hands the conversation
to another agent. -/
def Operation.Continues (agent : String) : Operation → Prop
  | .chunk c => c.agent = agent
  | .clear _ => False
  | .supersede m => m.author ≠ agent

/-- Text or reasoning has come in for a conversation during some operations, and the reply
that it was added to goes on to their end. -/
def Arrived (conversation : String) (operations : List Operation) : Prop :=
  ∃ before c after, operations = before ++ .chunk c :: after ∧
    c.conversation = conversation ∧ 0 < c.length ∧
    ∀ operation ∈ naming conversation after, operation.Continues c.agent

theorem Operation.act_chunk (c : Chunk) (held : Option Buffer) :
    ∃ b : Buffer, (chunk c).act held = some (b.add c) ∧ b.agent = c.agent := by
  cases held with
  | none => exact ⟨.ofChunk c, act_chunk_none, rfl⟩
  | some b =>
      by_cases same : b.agent = c.agent
      · exact ⟨b, act_chunk_of_agent_eq same, same⟩
      · exact ⟨.ofChunk c, act_chunk_of_agent_ne same, rfl⟩

/-- A reply that goes on gets no shorter. -/
theorem Operation.replay_continued {b : Buffer} {operations : List Operation}
    (continues : ∀ operation ∈ operations, operation.Continues b.agent) :
    ∃ later, replay (some b) operations = some later ∧ later.agent = b.agent ∧
      b.length ≤ later.length := by
  induction operations generalizing b with
  | nil => exact ⟨b, rfl, rfl, Nat.le_refl _⟩
  | cons first rest ih =>
      obtain ⟨firstContinues, restContinue⟩ := List.forall_mem_cons.mp continues
      rw [replay_cons]
      cases first with
      | clear cleared => exact firstContinues.elim
      | supersede m =>
          rw [act_supersede_of_author_ne (Ne.symm firstContinues)]
          exact ih restContinue
      | chunk c =>
          obtain ⟨later, eq, agent, longer⟩ := ih (b := b.add c) restContinue
          rw [Buffer.length_add] at longer
          rw [act_chunk_of_agent_eq firstContinues.symm]
          exact ⟨later, eq, agent, Nat.le_trans (Nat.le_add_right _ _) longer⟩

/-- After text has come in for a conversation there is a reply with some text or reasoning.
It is longer than the reply that was there before, if there was none or it has gone on. -/
theorem Arrived.replay {conversation : String} {operations : List Operation}
    (arrived : Arrived conversation operations) (held : Option Buffer) :
    ∃ later, Operation.replay held (naming conversation operations) = some later ∧
      0 < later.length ∧
      ((∀ b, held = some b →
          ∀ operation ∈ naming conversation operations, operation.Continues b.agent) →
        (held.map Buffer.length).getD 0 < later.length) := by
  obtain ⟨before, c, after, rfl, inConversation, brings, continues⟩ := arrived
  have named : naming conversation (before ++ .chunk c :: after) =
      naming conversation before ++ .chunk c :: naming conversation after := by
    simp [naming, Operation.conversation, inConversation]
  rw [named, Operation.replay_append, Operation.replay_cons]
  obtain ⟨b, added, agent⟩ := Operation.act_chunk c
    (Operation.replay held (naming conversation before))
  have goesOn : ∀ operation ∈ naming conversation after, operation.Continues (b.add c).agent := by
    intro operation mem
    exact agent ▸ continues operation mem
  obtain ⟨later, eq, -, longer⟩ := Operation.replay_continued goesOn
  rw [Buffer.length_add] at longer
  rw [added]
  refine ⟨later, eq, by omega, ?_⟩
  intro heldGoesOn
  cases held with
  | none =>
      simp only [Option.map_none, Option.getD_none]
      omega
  | some first =>
      -- What the chunk was added to is the reply that was there before.
      have all := heldGoesOn first rfl
      have goesOnBefore : ∀ operation ∈ naming conversation before,
          operation.Continues first.agent := by
        intro operation mem
        exact all operation (List.mem_append_left _ mem)
      obtain ⟨middle, reached, sameAgent, longerBefore⟩ :=
        Operation.replay_continued goesOnBefore
      have writer : c.agent = first.agent :=
        all (.chunk c) (List.mem_append_right _ List.mem_cons_self)
      rw [reached, Operation.act_chunk_of_agent_eq (sameAgent.trans writer.symm)] at added
      have sameLength : (middle.add c).length = (b.add c).length := by rw [Option.some.inj added]
      rw [Buffer.length_add, Buffer.length_add] at sameLength
      simp only [Option.map_some, Option.getD_some]
      omega

/-- The reply of a conversation names it. -/
theorem Feed.conversation_of_get?_run {operations : List Operation} {conversation : String}
    {b : Buffer} (held : (run {} operations).get? conversation = some b) :
    b.conversation = conversation := by
  obtain ⟨-, after, -, -, -, reply⟩ := exists_get?_run operations conversation
  rw [held, Buffer.ofChunks?] at reply
  obtain ⟨last, -, eq⟩ := Option.map_eq_some_iff.mp reply.symm
  rw [← eq]
  rfl

end Stream

/-! ### What a pass shows of a reply -/

/-- A view shows all of a reply of its conversation. -/
theorem View.replyLength_some {conversation : String} {b : Stream.Buffer}
    (named : b.conversation = conversation) : replyLength conversation (some b) = b.length := by
  cases renderable : b.isRenderable with
  | true => simp [replyLength, named, renderable, Stream.Buffer.length]
  | false => simp [replyLength, renderable, Stream.Buffer.length_eq_zero renderable]

/-- The reply of the conversation is the last row, if it has some text or reasoning. -/
theorem View.getLast?_rowsAt {v : View} {b : Stream.Buffer} (same : b.conversation = v.conversation)
    (filled : 0 < b.length) (messages : List Message) :
    (v.rowsAt messages (some b)).getLast?.map Row.key = some (.stream v.conversation) := by
  have renderable : b.isRenderable = true := by
    by_contra hidden
    exact Nat.ne_of_gt filled (Stream.Buffer.length_eq_zero (Bool.not_eq_true _ ▸ hidden))
  have accepted : v.accepted (some b) = some b := by
    rw [accepted_some, if_pos ⟨same, renderable⟩]
  rw [rowsAt, accepted, Row.merge]
  obtain ⟨shown, reply, eq, -, replyRows⟩ := Row.exists_following (some b)
    (((v.windowAt messages).preceding? messages).map (·.author))
    ((v.windowAt messages).slice messages)
  obtain ⟨row, rest, ⟨continues, rfl⟩, none, rfl⟩ := List.forall₂_cons_right_iff.mp replyRows
  cases none
  rw [eq, List.getLast?_concat, Option.map_some, Row.key, same]

/-- A pass goes to its last row. -/
def Pass.GoesToLast (pass : Pass) : Prop :=
  ∃ request, pass.scroll = some request ∧
    pass.rows.getLast?.map (·.row.key) = some request.target

/-- Once a view has appeared and the throttle has passed, it goes to its last row for more
messages and for a longer reply, and for nothing else. -/
theorem Scroll.isSome_due_iff {throttle last now : Nat} (passed : throttle ≤ now - last)
    (moreMessages replyGrew : Bool) (target : RowKey) :
    (due throttle (some last) moreMessages replyGrew now (some target)).isSome ↔
      moreMessages = true ∨ replyGrew = true := by
  cases moreMessages with
  | true => simp [due]
  | false =>
      cases replyGrew with
      | true => simp [due, passed]
      | false => simp [due]

/-! ### A conversation on display -/

/-- A view of a conversation in use, and the feed of replies beside it. -/
structure Display where
  feed : Stream.Feed
  viewing : Viewing

namespace Display

/-- What happens while a conversation is on display. -/
inductive Event where
  | feed (operation : Stream.Operation)
  | view (call : View.Call)

namespace Event

/-- What an event does with the feed. -/
def operation? : Event → Option Stream.Operation
  | .feed operation => some operation
  | .view _ => none

/-- What an event does with the view. -/
def call? : Event → Option View.Call
  | .feed _ => none
  | .view call => some call

/-- Whether an event is a pass. -/
def isPass : Event → Bool
  | .view (.render _ _ _) => true
  | _ => false

end Event

/-- A conversation that has just been put on display. -/
def start (conversation : String) (s : Settings) (cache : Attachment.Cache) : Display :=
  { feed := {}, viewing := .start conversation s cache }

/-- The reply that the feed holds for the conversation. -/
def reply? (d : Display) : Option Stream.Buffer :=
  d.feed.get? d.viewing.view.conversation

/-- The pass that would be made now, given the reply of the feed. -/
def pass (d : Display) (messages : List Message) (now : Nat) : Pass :=
  d.viewing.pass messages d.reply? now

/-- One event. -/
def step (d : Display) : Event → Display
  | .feed operation => { d with feed := d.feed.step operation }
  | .view call => { d with viewing := d.viewing.step call }

/-- Events, one after the other. -/
def run (d : Display) (events : List Event) : Display :=
  events.foldl step d

theorem run_cons (d : Display) (first : Event) (rest : List Event) :
    d.run (first :: rest) = (d.step first).run rest :=
  rfl

theorem run_append (d : Display) (first second : List Event) :
    d.run (first ++ second) = (d.run first).run second :=
  List.foldl_append

/-- The feed is what the operations among the events make of it. -/
theorem feed_run (d : Display) (events : List Event) :
    (d.run events).feed = d.feed.run (events.filterMap Event.operation?) := by
  induction events generalizing d with
  | nil => rfl
  | cons event rest ih =>
      rw [run_cons, ih]
      cases event with
      | feed operation => rfl
      | view call => rfl

/-- The view is what the calls among the events make of it. -/
theorem viewing_run (d : Display) (events : List Event) :
    (d.run events).viewing = d.viewing.run (events.filterMap Event.call?) := by
  induction events generalizing d with
  | nil => rfl
  | cons event rest ih =>
      rw [run_cons, ih]
      cases event with
      | feed operation => rfl
      | view call => rfl

/-- Without a pass there is no new record. -/
theorem records_run {d : Display} {events : List Event}
    (noPass : ∀ event ∈ events, event.isPass = false) :
    (d.run events).viewing.records = d.viewing.records := by
  induction events generalizing d with
  | nil => rfl
  | cons event rest ih =>
      obtain ⟨first, others⟩ := List.forall_mem_cons.mp noPass
      rw [run_cons, ih others]
      cases event with
      | feed operation => rfl
      | view call =>
          cases call with
          | render messages buffer now => cases first
          | loadOlder => rfl
          | elsewhere access => rfl

section Run

variable {conversation : String} {s : Settings} {cache : Attachment.Cache} {events : List Event}

theorem coherent_run :
    ((start conversation s cache).run events).viewing.Coherent conversation s := by
  rw [viewing_run]
  exact Viewing.coherent_run conversation s cache (events.filterMap Event.call?)

/-- The reply on display is what the operations among the events have made of nothing. -/
theorem reply?_run :
    ((start conversation s cache).run events).reply? =
      (Stream.Feed.run {} (events.filterMap Event.operation?)).get? conversation := by
  rw [reply?, feed_run, coherent_run.conversation_eq]
  rfl

/-- The reply on display is one of the conversation. -/
theorem conversation_of_reply? {b : Stream.Buffer}
    (held : ((start conversation s cache).run events).reply? = some b) :
    b.conversation = conversation := by
  rw [reply?_run] at held
  exact Stream.Feed.conversation_of_get?_run held

/-- A reply with some text or reasoning is the last row of the next pass. -/
theorem getLast?_pass {b : Stream.Buffer}
    (held : ((start conversation s cache).run events).reply? = some b) (filled : 0 < b.length)
    (messages : List Message) (now : Nat) :
    (((start conversation s cache).run events).pass messages now).rows.getLast?.map
      (·.row.key) = some (.stream conversation) := by
  have view : ((start conversation s cache).run events).viewing.view.conversation = conversation :=
    coherent_run.conversation_eq
  have last := View.getLast?_rowsAt ((conversation_of_reply? held).trans view.symm) filled messages
  rw [view] at last
  rw [pass, held]
  exact (View.getLast?_render ..).trans last

end Run

section Between

variable {conversation : String} {s : Settings} {cache : Attachment.Cache}
  {earlier since : List Event} {seen : List Message} {shown : Option Stream.Buffer} {time : Nat}

/-- The reply on display is what the operations since a pass have made of the one before it. -/
theorem reply?_since :
    ((start conversation s cache).run
        (earlier ++ .view (.render seen shown time) :: since)).reply? =
      Stream.Operation.replay ((start conversation s cache).run earlier).reply?
        (Stream.naming conversation (since.filterMap Event.operation?)) := by
  rw [reply?_run, reply?_run, ← Stream.Feed.get?_run, ← Stream.Feed.run_append,
    List.filterMap_append]
  rfl

/-- The next pass scrolls by how many messages and how long a reply the last one was given. -/
theorem scroll_next (noPass : ∀ event ∈ since, event.isPass = false) (messages : List Message)
    (now : Nat) :
    let d := (start conversation s cache).run (earlier ++ .view (.render seen shown time) :: since)
    (d.pass messages now).scroll =
      Scroll.due s.throttle (View.lastRequestAt d.viewing.records)
        (seen.length < messages.length)
        (View.replyLength conversation shown < View.replyLength conversation d.reply?) now
        ((d.pass messages now).rows.getLast?.map (·.row.key)) := by
  intro d
  have coherent : d.viewing.Coherent conversation s := coherent_run
  have records : d.viewing.records =
      (((start conversation s cache).run earlier).step
        (.view (.render seen shown time))).viewing.records := by
    have run : d = (((start conversation s cache).run earlier).step
        (.view (.render seen shown time))).run since := run_append ..
    rw [run]
    exact records_run noPass
  have count : View.lastCount d.viewing.records = seen.length := by
    rw [records]
    rfl
  have length : View.lastReplyLength conversation d.viewing.records =
      View.replyLength conversation shown := by
    rw [records]
    rfl
  have due := coherent.scroll_eq_due messages d.reply? now
  rw [count, length] at due
  exact due

/-- Once the throttle has passed, the next pass goes to its last row exactly when there are
more messages or a longer reply, if the reply has some text or reasoning at all. -/
theorem goesToLast_iff (noPass : ∀ event ∈ since, event.isPass = false) {b : Stream.Buffer}
    (filled : 0 < b.length) {last now : Nat} (passed : s.throttle ≤ now - last)
    (messages : List Message) :
    let d := (start conversation s cache).run (earlier ++ .view (.render seen shown time) :: since)
    d.reply? = some b → View.lastRequestAt d.viewing.records = some last →
      ((d.pass messages now).GoesToLast ↔ seen.length < messages.length ∨
        View.replyLength conversation shown < View.replyLength conversation d.reply?) := by
  intro d held appeared
  have bottom : (d.pass messages now).rows.getLast?.map (·.row.key) =
      some (.stream conversation) := getLast?_pass held filled messages now
  have scroll : (d.pass messages now).scroll =
      Scroll.due s.throttle (some last) (seen.length < messages.length)
        (View.replyLength conversation shown < View.replyLength conversation d.reply?) now
        (some (.stream conversation)) := by
    rw [← appeared, ← bottom]
    exact scroll_next noPass messages now
  have due := Scroll.isSome_due_iff passed (seen.length < messages.length)
    (View.replyLength conversation shown < View.replyLength conversation d.reply?)
    (.stream conversation)
  rw [← scroll, decide_eq_true_iff, decide_eq_true_iff] at due
  rw [← due, Option.isSome_iff_exists]
  constructor
  · rintro ⟨request, made, -⟩
    exact ⟨request, made⟩
  · rintro ⟨request, made⟩
    exact ⟨request, made, bottom.trans (Scroll.target_due (scroll.symm.trans made))⟩

end Between

end Display

namespace Display.Sample

open Stream.Sample

/-- A chunk of another agent that adds a text. -/
def otherDelta (text : String) : Stream.Chunk :=
  { delta text with agent := "other" }

/-- A reply that the agent has begun. -/
def reply : Stream.Buffer :=
  { agent := "agent", conversation := "conv", text := "Let me see" }

/-- The agent begins the reply, a pass shows it, and a chunk comes in. -/
def grown (c : Stream.Chunk) : Display :=
  (start "conv" {} (.ofCapacity 2)).run
    ([.feed (.chunk (delta "Let me see"))] ++ .view (.render [] (some reply) 0) ::
      [.feed (.chunk c)])

/-- The pass is given the reply that the feed holds. -/
theorem reply?_begun :
    ((start "conv" {} (.ofCapacity 2)).run [.feed (.chunk (delta "Let me see"))]).reply? =
      some reply := by
  rw [reply?_run, Stream.Feed.get?_run, Stream.Feed.get?_empty]
  decide

/-- The pass is the first one, and makes a request. -/
theorem lastRequestAt_grown (c : Stream.Chunk) :
    View.lastRequestAt (grown c).viewing.records = some 0 :=
  rfl

theorem noPass_chunk (c : Stream.Chunk) :
    ∀ event ∈ [Event.feed (.chunk c)], event.isPass = false := by
  simp [Event.isPass]

end Display.Sample

/-- Text that has come in since the last pass, and is still part of the reply, is followed by
the next pass once the throttle has passed exactly when there are more messages or a longer
reply than at the last pass. The reply is longer whenever the one of the last pass has gone
on, or there was none. -/
theorem arrival_followed_iff (conversation : String) (s : Settings) (cache : Attachment.Cache)
    (earlier since : List Display.Event) (seen messages : List Message)
    (shown : Option Stream.Buffer) (time now last : Nat)
    (noPass : ∀ event ∈ since, event.isPass = false)
    (arrived : Stream.Arrived conversation (since.filterMap Display.Event.operation?))
    (appeared : View.lastRequestAt ((Display.start conversation s cache).run
      (earlier ++ .view (.render seen shown time) :: since)).viewing.records = some last)
    (passed : s.throttle ≤ now - last) :
    let before := (Display.start conversation s cache).run earlier
    let d := (Display.start conversation s cache).run
      (earlier ++ .view (.render seen shown time) :: since)
    ((d.pass messages now).GoesToLast ↔ seen.length < messages.length ∨
        View.replyLength conversation shown < View.replyLength conversation d.reply?) ∧
      ((∀ b, shown = some b → before.reply? = some b ∧
          ∀ operation ∈ Stream.naming conversation
            (since.filterMap Display.Event.operation?), operation.Continues b.agent) →
        (d.pass messages now).GoesToLast) := by
  intro before d
  obtain ⟨reply, made, filled, longer⟩ := arrived.replay before.reply?
  have held : d.reply? = some reply := Display.reply?_since.trans made
  have goes := Display.goesToLast_iff noPass filled passed messages held appeared
  refine ⟨goes, fun goesOn => goes.mpr (.inr ?_)⟩
  rw [held, View.replyLength_some (Display.conversation_of_reply? held)]
  cases shown with
  | none => exact filled
  | some b =>
      obtain ⟨heldBefore, continues⟩ := goesOn b rfl
      rw [View.replyLength_some (Display.conversation_of_reply? heldBefore)]
      rw [heldBefore] at longer
      apply longer
      intro first eq
      cases eq
      exact continues

open Display.Sample Stream.Sample in
/-- The agent goes on with the reply that was shown. -/
theorem arrival_followed_iff_sample :
    (∀ event ∈ [Display.Event.feed (.chunk (delta "."))], event.isPass = false) ∧
      Stream.Arrived "conv" [.chunk (delta ".")] ∧
      View.lastRequestAt (grown (delta ".")).viewing.records = some 0 ∧
      Settings.throttle {} ≤ 200000 - 0 ∧
      ((grown (delta ".")).pass [] 200000).GoesToLast := by
  have noPass := noPass_chunk (delta ".")
  have arrived : Stream.Arrived "conv" [.chunk (delta ".")] :=
    ⟨[], delta ".", [], rfl, rfl, by decide, by simp [Stream.naming]⟩
  have appeared := lastRequestAt_grown (delta ".")
  have passed : Settings.throttle {} ≤ 200000 - 0 := by decide
  refine ⟨noPass, arrived, appeared, passed, ?_⟩
  refine (arrival_followed_iff "conv" {} (.ofCapacity 2) [.feed (.chunk (delta "Let me see"))]
    [.feed (.chunk (delta "."))] [] [] (some reply) 0 200000 0 noPass arrived appeared passed).2 ?_
  intro b same
  cases same
  refine ⟨reply?_begun, ?_⟩
  intro operation mem
  have eq : operation = .chunk (delta ".") := by
    simpa [Display.Event.operation?] using (List.mem_filter.mp mem).1
  rw [eq]
  rfl

open Display.Sample Stream.Sample in
/-- Another agent has begun a reply that is shorter than the one it took the place of. What
it has written is part of the next pass, and the pass does not go to it. -/
theorem takeover_not_followed :
    Stream.Arrived "conv" [.chunk (otherDelta "Hi")] ∧
      ((Display.start "conv" {} (.ofCapacity 2)).run
        [.feed (.chunk (delta "Let me see"))]).reply? = some reply ∧
      View.lastRequestAt (grown (otherDelta "Hi")).viewing.records = some 0 ∧
      Settings.throttle {} ≤ 200000 - 0 ∧
      (grown (otherDelta "Hi")).reply? =
        some { agent := "other", conversation := "conv", text := "Hi" } ∧
      ((grown (otherDelta "Hi")).pass [] 200000).scroll = none := by
  have arrived : Stream.Arrived "conv" [.chunk (otherDelta "Hi")] :=
    ⟨[], otherDelta "Hi", [], rfl, rfl, by decide, by simp [Stream.naming]⟩
  have held : (grown (otherDelta "Hi")).reply? =
      some { agent := "other", conversation := "conv", text := "Hi" } := by
    rw [grown, Display.reply?_since, reply?_begun]
    decide
  have scroll : ((grown (otherDelta "Hi")).pass [] 200000).scroll =
      Scroll.due (Settings.throttle {}) (some 0) false
        (View.replyLength "conv" (some reply) <
          View.replyLength "conv" (grown (otherDelta "Hi")).reply?) 200000
        (((grown (otherDelta "Hi")).pass [] 200000).rows.getLast?.map (·.row.key)) :=
    Display.scroll_next (noPass_chunk (otherDelta "Hi")) [] 200000
  refine ⟨arrived, reply?_begun, lastRequestAt_grown _, by decide, held, ?_⟩
  rw [scroll, held]
  apply Scroll.due_eq_none
  intro never
  cases never

end Scrollback
