import Scrollback.Proofs.Stream.Replay
import Scrollback.Proofs.View.Pass

/-!
Replies that end late.

The end of a reply is told twice, by its last chunk and by the message that takes its
place, and either may come first. When the chunk comes late it leaves an empty complete
reply behind, which no view shows. It is forgotten as soon as anything else happens in the
conversation, with one exception: the agent's next reply is added to it, and counts as
complete from its first chunk on. So views show the same in both orders unless that next
reply is under way (`late_end_shown`); while it is, they do not (`late_end_completes_next`).
-/

namespace Scrollback

namespace Stream

/-! ### Chunks that end a reply -/

theorem Chunk.deltas_of_isFinish {c : Chunk} (ends : c.isFinish = true) :
    c.textDelta? = none ∧ c.reasoningDelta? = none := by
  have type : c.type? = some "finish" := by simpa [isFinish] using ends
  constructor
  · rw [textDelta?, type, if_neg (by decide)]
  · rw [reasoningDelta?, type, if_neg (by decide)]

theorem Buffer.add_of_isFinish {c : Chunk} (ends : c.isFinish = true) (b : Buffer) :
    b.add c = { b with isComplete := true } := by
  obtain ⟨text, reasoning⟩ := c.deltas_of_isFinish ends
  simp [add, text, reasoning, ends]

theorem Buffer.add_of_not_isFinish {c : Chunk} (continues : c.isFinish = false) (b : Buffer) :
    b.add c = { b with
      text := b.text ++ c.textDelta?.getD ""
      reasoning := b.reasoning ++ c.reasoningDelta?.getD "" } := by
  rw [add, continues, Bool.or_false]

/-! ### Early and late ends -/

/-- An agent's reply in a conversation comes to its end: the agent is writing it, and there
are a message that takes its place and a chunk that ends it. -/
structure Concludes (f : Feed) (agent conversation : String) (m : Message) (last : Chunk) :
    Prop where
  writing : ∃ b, f.get? conversation = some b ∧ b.agent = agent
  thread : m.thread = conversation
  author : m.author = agent
  conversation_eq : last.conversation = conversation
  agent_eq : last.agent = agent
  ends : last.isFinish = true

/-- An operation on a conversation leaves a reply of an agent open: it does not drop it,
end it or hand the conversation to another agent. -/
def Operation.LeavesOpen (agent : String) : Operation → Prop
  | .chunk c => c.agent = agent ∧ c.isFinish = false
  | .clear _ => False
  | .supersede m => m.author ≠ agent

/-- A reply that an agent begins among some operations is still being written after
them. -/
structure UnderWay (agent conversation : String) (operations : List Operation) : Prop where
  leavesOpen : ∀ operation ∈ naming conversation operations, operation.LeavesOpen agent
  begun : (naming conversation operations).any (·.chunk?.isSome) = true

/-- What a conversation holds when the end of an agent's reply came early, and when it came
late: nothing and an empty complete reply, until the next reply of the agent begins, and
then this reply, open and complete. -/
inductive Late (agent conversation : String) : Bool → Option Buffer → Option Buffer → Prop where
  | idle : Late agent conversation false none
      (some { agent, conversation, isComplete := true })
  | begun (text reasoning : String) : Late agent conversation true
      (some { agent, conversation, text, reasoning })
      (some { agent, conversation, text, reasoning, isComplete := true })

section Late

variable {agent conversation : String} {begun : Bool} {early late : Option Buffer}

theorem late_of_concludes {f : Feed} {m : Message} {last : Chunk}
    (concludes : Concludes f agent conversation m last) :
    Late agent conversation false ((f.run [.chunk last, .supersede m]).get? conversation)
      ((f.run [.supersede m, .chunk last]).get? conversation) := by
  obtain ⟨⟨b, held, writer⟩, thread, author, inConversation, sameAgent, ends⟩ := concludes
  have named : naming conversation [.chunk last, .supersede m] =
      [.chunk last, .supersede m] := by
    simp [naming, Operation.conversation, thread, inConversation]
  have named' : naming conversation [.supersede m, .chunk last] =
      [.supersede m, .chunk last] := by
    simp [naming, Operation.conversation, thread, inConversation]
  have continued : (Operation.chunk last).act (some b) = some { b with isComplete := true } := by
    rw [Operation.act_chunk_of_agent_eq (writer.trans sameAgent.symm),
      Buffer.add_of_isFinish ends]
  have leftOver : (Operation.chunk last).act none =
      some { agent, conversation, isComplete := true } := by
    rw [Operation.act_chunk_none, Buffer.add_of_isFinish ends]
    simp [Buffer.ofChunk, sameAgent, inConversation]
  have superseded (isComplete : Bool) :
      (Operation.supersede m).act (some { b with isComplete }) = none :=
    Operation.act_supersede_of_author_eq (writer.trans author.symm)
  rw [Feed.get?_run, Feed.get?_run, named, named', held]
  simp only [Operation.replay_cons, Operation.replay_nil]
  rw [continued, superseded true, superseded b.isComplete, leftOver]
  exact .idle

/-- As long as the reply is left open the two stay apart in the same way. -/
theorem Late.act (apart : Late agent conversation begun early late) {operation : Operation}
    (named : operation.conversation = conversation) (opens : operation.LeavesOpen agent) :
    Late agent conversation (begun || operation.chunk?.isSome) (operation.act early)
      (operation.act late) := by
  cases operation with
  | clear cleared => exact opens.elim
  | supersede m =>
      have other : agent ≠ m.author := Ne.symm opens
      rw [Operation.chunk?, Option.isSome_none, Bool.or_false]
      cases apart with
      | idle =>
          rw [Operation.act_supersede_none, Operation.act_supersede_of_author_ne other]
          exact .idle
      | begun text reasoning =>
          rw [Operation.act_supersede_of_author_ne other,
            Operation.act_supersede_of_author_ne other]
          exact .begun text reasoning
  | chunk c =>
      obtain ⟨rfl, continues⟩ := opens
      cases named
      rw [Operation.chunk?, Option.isSome_some, Bool.or_true]
      cases apart with
      | idle =>
          rw [Operation.act_chunk_none, Operation.act_chunk_of_agent_eq rfl,
            Buffer.add_of_not_isFinish continues, Buffer.add_of_not_isFinish continues]
          exact .begun _ _
      | begun text reasoning =>
          rw [Operation.act_chunk_of_agent_eq rfl, Operation.act_chunk_of_agent_eq rfl,
            Buffer.add_of_not_isFinish continues, Buffer.add_of_not_isFinish continues]
          exact .begun _ _

/-- Anything else that happens in the conversation makes them equal. -/
theorem Late.act_eq (apart : Late agent conversation begun early late) {operation : Operation}
    (named : operation.conversation = conversation) (settles : ¬ operation.LeavesOpen agent) :
    operation.act early = operation.act late := by
  cases operation with
  | clear cleared => rfl
  | supersede m =>
      have same : agent = m.author := (Classical.not_not.mp settles).symm
      cases apart with
      | idle => exact (Operation.act_supersede_of_author_eq same).symm
      | begun text reasoning =>
          rw [Operation.act_supersede_of_author_eq same, Operation.act_supersede_of_author_eq same]
  | chunk c =>
      cases named
      by_cases same : agent = c.agent
      · subst same
        have ends : c.isFinish = true := by simpa [Operation.LeavesOpen] using settles
        cases apart with
        | idle =>
            rw [Operation.act_chunk_none, Operation.act_chunk_of_agent_eq rfl,
              Buffer.add_of_isFinish ends, Buffer.add_of_isFinish ends]
            rfl
        | begun text reasoning =>
            rw [Operation.act_chunk_of_agent_eq rfl, Operation.act_chunk_of_agent_eq rfl,
              Buffer.add_of_isFinish ends, Buffer.add_of_isFinish ends]
      · cases apart with
        | idle => exact (Operation.act_chunk_of_agent_ne same).symm
        | begun text reasoning =>
            rw [Operation.act_chunk_of_agent_ne same, Operation.act_chunk_of_agent_ne same]

theorem Late.replay (apart : Late agent conversation begun early late)
    {operations : List Operation}
    (named : ∀ operation ∈ operations, operation.conversation = conversation)
    (opens : ∀ operation ∈ operations, operation.LeavesOpen agent) :
    Late agent conversation (begun || operations.any (·.chunk?.isSome))
      (Operation.replay early operations) (Operation.replay late operations) := by
  induction operations generalizing begun early late with
  | nil =>
      rw [List.any_nil, Bool.or_false]
      exact apart
  | cons first rest ih =>
      obtain ⟨firstNamed, restNamed⟩ := List.forall_mem_cons.mp named
      obtain ⟨firstOpens, restOpens⟩ := List.forall_mem_cons.mp opens
      have later := ih (apart.act firstNamed firstOpens) restNamed restOpens
      rw [List.any_cons, ← Bool.or_assoc]
      exact later

theorem Late.replay_eq (apart : Late agent conversation begun early late)
    {operations : List Operation}
    (named : ∀ operation ∈ operations, operation.conversation = conversation)
    (settles : ¬ ∀ operation ∈ operations, operation.LeavesOpen agent) :
    Operation.replay early operations = Operation.replay late operations := by
  induction operations generalizing begun early late with
  | nil => exact absurd (fun _ mem => nomatch mem) settles
  | cons first rest ih =>
      obtain ⟨firstNamed, restNamed⟩ := List.forall_mem_cons.mp named
      rw [Operation.replay_cons, Operation.replay_cons]
      by_cases opens : first.LeavesOpen agent
      · exact ih (apart.act firstNamed opens) restNamed fun restOpens =>
          settles (List.forall_mem_cons.mpr ⟨opens, restOpens⟩)
      · rw [apart.act_eq firstNamed opens]

/-- In either order of the two ends, what the conversation holds after some operations: the
same, or what a late end leaves until the next reply begins, or this reply, open and
complete. -/
theorem late_run {f : Feed} {m : Message} {last : Chunk}
    (concludes : Concludes f agent conversation m last) (operations : List Operation) :
    let early := (f.run ([.chunk last, .supersede m] ++ operations)).get? conversation
    let late := (f.run ([.supersede m, .chunk last] ++ operations)).get? conversation
    (¬ UnderWay agent conversation operations →
        early = late ∨ Late agent conversation false early late) ∧
      (UnderWay agent conversation operations → Late agent conversation true early late) := by
  intro early late
  have replayed (first : List Operation) :
      (f.run (first ++ operations)).get? conversation =
        Operation.replay ((f.run first).get? conversation) (naming conversation operations) := by
    rw [Feed.run_append, Feed.get?_run]
  have named : ∀ operation ∈ naming conversation operations,
      operation.conversation = conversation := by
    intro operation mem
    simpa using (List.mem_filter.mp mem).2
  have apart := late_of_concludes concludes
  by_cases opens : ∀ operation ∈ naming conversation operations, operation.LeavesOpen agent
  · have after := apart.replay named opens
    rw [← replayed, ← replayed, Bool.false_or] at after
    constructor
    · intro notUnderWay
      have notBegun : (naming conversation operations).any (·.chunk?.isSome) = false :=
        Bool.eq_false_iff.mpr fun begun => notUnderWay ⟨opens, begun⟩
      rw [notBegun] at after
      exact .inr after
    · intro underWay
      rw [underWay.begun] at after
      exact after
  · have same := apart.replay_eq named opens
    rw [← replayed, ← replayed] at same
    exact ⟨fun _ => .inl same, fun underWay => absurd underWay.leavesOpen opens⟩

end Late

end Stream

/-! ### What a view shows of a reply -/

/-- What a reply shows. -/
def Content.ofReply (b : Stream.Buffer) : Content :=
  .stream b.text b.reasoning b.isComplete

/-- What the row of the reply shows, if there is one. -/
def Pass.reply? (pass : Pass) : Option Content :=
  (pass.rows.find? (·.row.isStream)).map (·.content)

theorem RenderedRow.find?_ofRows_following (cache : Attachment.Cache)
    (buffer : Option Stream.Buffer) (previous : Option String) (messages : List Message) :
    ((ofRows cache (Row.following buffer previous messages)).1.find? (·.row.isStream)).map
      (·.content) = buffer.map Content.ofReply := by
  induction messages generalizing cache previous with
  | nil =>
      cases buffer with
      | none => rfl
      | some b => rfl
  | cons m rest ih =>
      rw [Row.following, ofRows, List.find?_cons_of_neg, ih]
      rw [row_ofRow]
      exact Bool.false_ne_true

/-- A pass shows the reply that its view accepts. -/
theorem View.reply?_render (v : View) (cache : Attachment.Cache) (messages : List Message)
    (buffer : Option Stream.Buffer) (now : Nat) :
    (v.render cache messages buffer now).1.reply? = (v.accepted buffer).map Content.ofReply := by
  rw [Pass.reply?, View.render_eq]
  exact RenderedRow.find?_ofRows_following cache (v.accepted buffer) _ _

section Late

variable {agent conversation : String} {early late : Option Stream.Buffer} {v : View}

/-- What a late end leaves before the next reply begins is not shown. -/
theorem Stream.Late.shown_idle (apart : Late agent conversation false early late) :
    (v.accepted early).map Content.ofReply = (v.accepted late).map Content.ofReply := by
  cases apart with
  | idle => simp [View.accepted, Buffer.isRenderable]

/-- The next reply is shown open or complete, and when complete only if it is not empty. -/
theorem Stream.Late.shown_begun (apart : Late agent conversation true early late)
    (same : v.conversation = conversation) :
    ∃ text reasoning,
      (v.accepted early).map Content.ofReply = some (.stream text reasoning false) ∧
      (v.accepted late).map Content.ofReply =
        if text = "" ∧ reasoning = "" then none else some (.stream text reasoning true) := by
  cases apart with
  | begun text reasoning =>
      refine ⟨text, reasoning, ?_, ?_⟩
      · simp [View.accepted_some, same, Buffer.isRenderable, Content.ofReply]
      · by_cases empty : text = "" ∧ reasoning = ""
        · simp [View.accepted_some, Buffer.isRenderable, empty]
        · have some : ¬ text = "" ∨ ¬ reasoning = "" := not_and_or.mp empty
          simp [View.accepted_some, same, Buffer.isRenderable, Content.ofReply, empty, some]

end Late

namespace Stream.Sample

/-- A chunk of the agent's reply, by the texts in its data. -/
def chunk (texts : List (String × String)) : Chunk where
  agent := "agent"
  conversation := "conv"
  data := .object (texts.map fun t => (some t.1, .string (some t.2)))

/-- A chunk that adds a text. -/
def delta (text : String) : Chunk :=
  chunk [("type", "text-delta"), ("text", text)]

/-- The chunk that ends the reply. -/
def finish : Chunk :=
  chunk [("type", "finish")]

/-- The message that takes the place of the reply. -/
def message : Message :=
  { id := "m1", content := "one", author := "agent", thread := "conv", stamp := 0
    replyTo := none, isReasoning := false, quotes := [], mentions := [], toolName := none
    toolArguments := none }

/-- The agent has written a reply. -/
def feed : Feed :=
  Feed.run {} [.chunk (delta "one")]

theorem concludes : Concludes feed "agent" "conv" message finish where
  writing := by
    refine ⟨{ agent := "agent", conversation := "conv", text := "one" }, ?_, rfl⟩
    rw [feed, Feed.get?_run, Feed.get?_empty]
    decide
  thread := rfl
  author := rfl
  conversation_eq := rfl
  agent_eq := rfl
  ends := by decide

/-- The agent has begun the next reply. -/
def next : List Operation :=
  [.chunk (delta "two")]

theorem underWay_next : UnderWay "agent" "conv" next where
  leavesOpen := by
    intro operation mem
    have eq : operation = .chunk (delta "two") := by
      simpa [naming, next, Operation.conversation, delta, chunk] using mem
    rw [eq]
    exact ⟨rfl, by decide⟩
  begun := by decide

end Stream.Sample

/-- Whichever of the two ends of a reply comes first, views of its conversation show the
same afterwards, whatever is done, unless the agent's next reply is under way. Then that
reply is shown open when the end came early, and complete, or not at all as long as it is
empty, when the end came late. -/
theorem late_end_shown {f : Stream.Feed} {agent conversation : String} {m : Message}
    {last : Stream.Chunk} (concludes : Stream.Concludes f agent conversation m last)
    (operations : List Stream.Operation) {v v' : View} (same : v.conversation = conversation)
    (same' : v'.conversation = conversation) (cache cache' : Attachment.Cache)
    (messages messages' : List Message) (now now' : Nat) :
    let early := (v.render cache messages
      ((f.run ([.chunk last, .supersede m] ++ operations)).get? conversation) now).1.reply?
    let late := (v'.render cache' messages'
      ((f.run ([.supersede m, .chunk last] ++ operations)).get? conversation) now').1.reply?
    (¬ Stream.UnderWay agent conversation operations → early = late) ∧
      (Stream.UnderWay agent conversation operations → ∃ text reasoning,
        early = some (.stream text reasoning false) ∧
        late = if text = "" ∧ reasoning = "" then none
          else some (.stream text reasoning true)) := by
  obtain ⟨settled, underWay⟩ := Stream.late_run concludes operations
  have accepts : v.accepted = v'.accepted := by
    funext buffer
    rw [View.accepted, View.accepted, same, same']
  simp only [View.reply?_render, accepts]
  constructor
  · intro notUnderWay
    rcases settled notUnderWay with equal | apart
    · rw [equal]
    · exact apart.shown_idle
  · intro isUnderWay
    exact (underWay isUnderWay).shown_begun same'

open Stream.Sample in
/-- The next reply of the agent has begun, and two views of the conversation show it. -/
theorem late_end_shown_sample :
    Stream.Concludes feed "agent" "conv" message finish ∧
      Stream.UnderWay "agent" "conv" next ∧
      ∃ text reasoning,
        ((View.ofSettings "conv" {}).render (.ofCapacity 2) [message]
          ((feed.run ([.chunk finish, .supersede message] ++ next)).get? "conv")
          0).1.reply? = some (.stream text reasoning false) ∧
        ((View.ofSettings "conv" {}).render (.ofCapacity 80) []
          ((feed.run ([.supersede message, .chunk finish] ++ next)).get? "conv")
          5).1.reply? = if text = "" ∧ reasoning = "" then none
            else some (.stream text reasoning true) :=
  ⟨concludes, underWay_next, (late_end_shown concludes next rfl rfl (.ofCapacity 2)
    (.ofCapacity 80) [message] [] 0 5).2 underWay_next⟩

open Stream.Sample in
/-- After a late end the agent's next reply is shown as complete when it has only begun. -/
theorem late_end_completes_next :
    Stream.Concludes feed "agent" "conv" message finish ∧
      ((View.ofSettings "conv" {}).render (.ofCapacity 2) [message]
        ((feed.run ([.chunk finish, .supersede message] ++ next)).get? "conv")
          0).1.reply? =
        some (.stream "two" "" false) ∧
      ((View.ofSettings "conv" {}).render (.ofCapacity 2) [message]
        ((feed.run ([.supersede message, .chunk finish] ++ next)).get? "conv")
          0).1.reply? =
        some (.stream "two" "" true) := by
  refine ⟨concludes, ?_, ?_⟩
  · rw [View.reply?_render, feed, ← Stream.Feed.run_append, Stream.Feed.get?_run,
      Stream.Feed.get?_empty]
    decide
  · rw [View.reply?_render, feed, ← Stream.Feed.run_append, Stream.Feed.get?_run,
      Stream.Feed.get?_empty]
    decide

end Scrollback
