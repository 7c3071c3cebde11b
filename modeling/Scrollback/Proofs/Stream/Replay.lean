import Mathlib.Data.List.DropRight
import Scrollback.Stream.Feed

/-!
What a feed holds.

Conversations do not meet in a feed: the reply of one is what the operations that name it
make of it, whatever else has been done (`Feed.get?_run`). That reply can be read off
these operations without replaying them. Nothing before the last drop counts, and of the
chunks after it only the last run of one agent does, one after the other
(`Feed.reply_run`).
-/

namespace Scrollback.Stream

/-- What is done with the replies that are being written. -/
inductive Operation where
  | chunk (c : Chunk)
  | clear (conversation : String)
  | supersede (m : Message)

namespace Operation

/-- The conversation that an operation names. -/
def conversation : Operation → String
  | .chunk c => c.conversation
  | .clear conversation => conversation
  | .supersede m => m.thread

/-- The chunk that an operation adds. -/
def chunk? : Operation → Option Chunk
  | .chunk c => some c
  | .clear _ => none
  | .supersede _ => none

/-- What an operation makes of the reply of the conversation that it names. -/
def act (operation : Operation) (held : Option Buffer) : Option Buffer :=
  match operation with
  | .chunk c => some (((held.filter (·.agent == c.agent)).getD (.ofChunk c)).add c)
  | .clear _ => none
  | .supersede m => held.filter (·.agent != m.author)

variable {b : Buffer} {c : Chunk} {m : Message}

theorem act_chunk_none : (chunk c).act none = some ((Buffer.ofChunk c).add c) :=
  rfl

theorem act_chunk_of_agent_eq (same : b.agent = c.agent) :
    (chunk c).act (some b) = some (b.add c) := by
  simp [act, Option.filter_some, same]

/-- A chunk of another agent begins a reply of its own. -/
theorem act_chunk_of_agent_ne (other : b.agent ≠ c.agent) :
    (chunk c).act (some b) = some ((Buffer.ofChunk c).add c) := by
  simp [act, Option.filter_some, other]

theorem act_supersede_none : (supersede m).act none = none :=
  rfl

theorem act_supersede_of_author_eq (same : b.agent = m.author) :
    (supersede m).act (some b) = none := by
  simp [act, Option.filter_some, same]

/-- A message of another agent leaves the reply as it is. -/
theorem act_supersede_of_author_ne (other : b.agent ≠ m.author) :
    (supersede m).act (some b) = some b := by
  simp [act, Option.filter_some, other]

/-- What operations make of the reply of the conversation that they name, one after the
other. -/
def replay (held : Option Buffer) (operations : List Operation) : Option Buffer :=
  operations.foldl (fun held operation => operation.act held) held

theorem replay_nil (held : Option Buffer) : replay held [] = held :=
  rfl

theorem replay_cons (held : Option Buffer) (first : Operation) (rest : List Operation) :
    replay held (first :: rest) = replay (first.act held) rest :=
  rfl

theorem replay_append (held : Option Buffer) (first second : List Operation) :
    replay held (first ++ second) = replay (replay held first) second :=
  List.foldl_append

end Operation

/-- The operations that name a conversation, in their order. -/
def naming (conversation : String) (operations : List Operation) : List Operation :=
  operations.filter (·.conversation == conversation)

/-- The chunks for a conversation among some operations, in their order. -/
def chunksFor (conversation : String) (operations : List Operation) : List Chunk :=
  (naming conversation operations).filterMap Operation.chunk?

theorem chunksFor_append (conversation : String) (first second : List Operation) :
    chunksFor conversation (first ++ second) =
      chunksFor conversation first ++ chunksFor conversation second := by
  unfold chunksFor naming
  rw [List.filter_append, List.filterMap_append]

theorem chunksFor_singleton (conversation : String) (operation : Operation) :
    chunksFor conversation [operation] =
      if operation.conversation = conversation then operation.chunk?.toList else [] := by
  unfold chunksFor naming
  by_cases named : operation.conversation = conversation
  · cases adds : operation.chunk? with
    | none => simp [named, adds]
    | some c => simp [named, adds]
  · simp [named]

/-! ### What chunks make up -/

namespace Buffer

/-- The reply that chunks of one agent make up, one after the other. -/
def ofRun (agent conversation : String) (run : List Chunk) : Buffer where
  agent := agent
  conversation := conversation
  text := String.join (run.filterMap Chunk.textDelta?)
  reasoning := String.join (run.filterMap Chunk.reasoningDelta?)
  isComplete := run.any Chunk.isFinish

/-- The reply that the chunks for a conversation make up: it belongs to the agent of the
last one and is made of the longest run of chunks of this agent at the end. -/
def ofChunks? (conversation : String) (chunks : List Chunk) : Option Buffer :=
  chunks.getLast?.map fun last =>
    ofRun last.agent conversation (chunks.rtakeWhile (·.agent == last.agent))

theorem join_filterMap_concat (delta : Chunk → Option String) (run : List Chunk) (c : Chunk) :
    String.join ((run ++ [c]).filterMap delta) =
      String.join (run.filterMap delta) ++ (delta c).getD "" := by
  rw [List.filterMap_append, String.join_append]
  cases added : delta c with
  | none => simp [added]
  | some text => simp [added]

theorem ofRun_concat (agent conversation : String) (run : List Chunk) (c : Chunk) :
    ofRun agent conversation (run ++ [c]) = (ofRun agent conversation run).add c := by
  simp only [ofRun, add, join_filterMap_concat, List.any_append, List.any_cons, List.any_nil,
    Bool.or_false]

theorem ofChunks?_concat (conversation : String) (chunks : List Chunk) (last : Chunk) :
    ofChunks? conversation (chunks ++ [last]) =
      some (ofRun last.agent conversation
        ((chunks ++ [last]).rtakeWhile (·.agent == last.agent))) := by
  rw [ofChunks?, List.getLast?_concat]
  rfl

/-- The run of an agent at the end of the chunks for a conversation makes up the reply there
if it is the agent's, and else an empty one. -/
theorem ofRun_rtakeWhile (c : Chunk) (chunks : List Chunk) :
    ofRun c.agent c.conversation (chunks.rtakeWhile (·.agent == c.agent)) =
      ((ofChunks? c.conversation chunks).filter (·.agent == c.agent)).getD (.ofChunk c) := by
  rcases List.eq_nil_or_concat' chunks with rfl | ⟨earlier, last, rfl⟩
  · rfl
  · rw [ofChunks?_concat, Option.filter_some]
    by_cases same : last.agent = c.agent
    · rw [same]
      simp [ofRun]
    · rw [List.rtakeWhile_concat_neg _ _ _ (by simpa using same)]
      simp [ofRun, ofChunk, same]

/-- A chunk for the conversation acts on the reply that the chunks before it make up. -/
theorem ofChunks?_concat_eq_act (chunks : List Chunk) (c : Chunk) :
    ofChunks? c.conversation (chunks ++ [c]) =
      (Operation.chunk c).act (ofChunks? c.conversation chunks) := by
  rw [ofChunks?_concat, List.rtakeWhile_concat_pos _ _ _ (by simp), ofRun_concat,
    ofRun_rtakeWhile]
  rfl

end Buffer

namespace Feed

/-- A feed after an operation. -/
def step (f : Feed) : Operation → Feed
  | .chunk c => f.apply c
  | .clear conversation => f.clear conversation
  | .supersede m => (f.supersede m).2

/-- A feed after some operations. -/
def run (f : Feed) (operations : List Operation) : Feed :=
  operations.foldl step f

theorem run_append (f : Feed) (first second : List Operation) :
    f.run (first ++ second) = (f.run first).run second :=
  List.foldl_append

/-! ### One conversation -/

theorem target_eq (f : Feed) (c : Chunk) :
    f.target c = ((f.get? c.conversation).filter (·.agent == c.agent)).getD (.ofChunk c) := by
  unfold target
  cases f.get? c.conversation with
  | none => rfl
  | some b =>
      rw [Option.filter_some]
      by_cases same : b.agent = c.agent
      · simp [same]
      · simp [same]

theorem isSuperseded_eq (f : Feed) (m : Message) :
    f.isSuperseded m = (f.get? m.thread).any (·.agent == m.author) := by
  unfold isSuperseded
  cases f.get? m.thread with
  | none => rfl
  | some b => rfl

theorem get?_supersede (f : Feed) (m : Message) (conversation : String) :
    (f.supersede m).2.get? conversation =
      if m.thread = conversation then (f.get? conversation).filter (·.agent != m.author)
      else f.get? conversation := by
  unfold supersede
  rw [isSuperseded_eq]
  by_cases named : m.thread = conversation
  · subst named
    cases held : f.get? m.thread with
    | none => simp [held]
    | some b =>
        rw [Option.filter_some]
        by_cases same : b.agent = m.author
        · simp [same, get?_clear]
        · simp [same, held]
  · rw [if_neg named]
    split
    · rw [get?_clear, if_neg named]
    · rfl

/-- An operation acts on the reply of the conversation that it names and on no other. -/
theorem get?_step (f : Feed) (operation : Operation) (conversation : String) :
    (f.step operation).get? conversation =
      if operation.conversation = conversation then operation.act (f.get? conversation)
      else f.get? conversation := by
  cases operation with
  | chunk c =>
      rw [step, get?_apply, target_eq]
      by_cases named : c.conversation = conversation
      · subst named
        rfl
      · exact (if_neg named).trans (if_neg named).symm
  | clear cleared => exact get?_clear f cleared conversation
  | supersede m => exact get?_supersede f m conversation

/-- The reply of a conversation is what the operations that name it make of it. -/
theorem get?_run (f : Feed) (operations : List Operation) (conversation : String) :
    (f.run operations).get? conversation =
      Operation.replay (f.get? conversation) (naming conversation operations) := by
  induction operations generalizing f with
  | nil => rfl
  | cons operation rest ih =>
      have later : (f.run (operation :: rest)).get? conversation =
          ((f.step operation).run rest).get? conversation := rfl
      rw [later, ih, get?_step, naming, naming]
      by_cases named : operation.conversation = conversation
      · rw [if_pos named, List.filter_cons_of_pos (by simpa using named), Operation.replay_cons]
      · rw [if_neg named, List.filter_cons_of_neg (by simpa using named)]

/-! ### Drops -/

/-- An operation drops the reply of a conversation: it clears it, or is a message of the
agent who is writing it. -/
inductive Drops (f : Feed) (conversation : String) : Operation → Prop where
  | clear : f.Drops conversation (.clear conversation)
  | supersede {m : Message} {b : Buffer} : m.thread = conversation →
      f.get? conversation = some b → b.agent = m.author → f.Drops conversation (.supersede m)

/-- None of some operations drops the reply of a conversation. -/
def Keeps (f : Feed) (conversation : String) : List Operation → Prop
  | [] => True
  | operation :: rest =>
      ¬ f.Drops conversation operation ∧ (f.step operation).Keeps conversation rest

/-- The last of some operations has dropped the reply of a conversation, or there are
none. -/
def Dropped (f : Feed) (conversation : String) (operations : List Operation) : Prop :=
  operations = [] ∨ ∃ earlier last, operations = earlier ++ [last] ∧
    (f.run earlier).Drops conversation last

/-- A message supersedes a reply exactly when it drops it. -/
theorem supersede_iff (f : Feed) (m : Message) :
    (f.supersede m).1 = true ↔ f.Drops m.thread (.supersede m) := by
  have answer : (f.supersede m).1 = f.isSuperseded m := by
    unfold supersede
    split
    · rename_i superseded
      exact superseded.symm
    · rename_i kept
      exact (Bool.not_eq_true _ ▸ kept).symm
  rw [answer, isSuperseded_eq, Option.any_eq_true]
  constructor
  · rintro ⟨b, held, same⟩
    exact .supersede rfl held (by simpa using same)
  · intro drops
    cases drops with
    | supersede _ held same => exact ⟨_, held, by simpa using same⟩

/-- What has been dropped is not there. -/
theorem Drops.get?_step {f : Feed} {conversation : String} {operation : Operation}
    (drops : f.Drops conversation operation) : (f.step operation).get? conversation = none := by
  rw [Feed.get?_step]
  cases drops with
  | clear => exact if_pos rfl
  | supersede named held same =>
      refine (if_pos named).trans ?_
      rw [held]
      exact Operation.act_supersede_of_author_eq same

/-- An operation that drops nothing and adds nothing leaves the reply as it is. -/
theorem get?_step_of_not_drops {f : Feed} {conversation : String} {operation : Operation}
    (keeps : ¬ f.Drops conversation operation) (adds : operation.chunk? = none) :
    (f.step operation).get? conversation = f.get? conversation := by
  rw [get?_step]
  split
  · rename_i named
    cases operation with
    | chunk c => cases adds
    | clear cleared =>
        cases named
        exact absurd .clear keeps
    | supersede m =>
        cases held : f.get? conversation with
        | none => rfl
        | some b =>
            have other : b.agent ≠ m.author := fun same => keeps (.supersede named held same)
            exact Operation.act_supersede_of_author_ne other
  · rfl

theorem keeps_append (f : Feed) (conversation : String) (first second : List Operation) :
    f.Keeps conversation (first ++ second) ↔
      f.Keeps conversation first ∧ (f.run first).Keeps conversation second := by
  induction first generalizing f with
  | nil => simp [Keeps, run]
  | cons operation rest ih =>
      simp only [List.cons_append, Keeps, ih, and_assoc]
      rfl

theorem get?_empty (conversation : String) : Feed.get? {} conversation = none := by
  simp [get?]

/-- As long as nothing drops it, the reply of a conversation is what the chunks for it make
up. -/
theorem get?_step_of_reply {f : Feed} {conversation : String} {last : Operation}
    {chunks : List Chunk} (keeps : ¬ f.Drops conversation last)
    (reply : f.get? conversation = Buffer.ofChunks? conversation chunks) :
    (f.step last).get? conversation =
      Buffer.ofChunks? conversation (chunks ++ chunksFor conversation [last]) := by
  rw [chunksFor_singleton]
  cases last with
  | chunk c =>
      rw [get?_step, reply]
      by_cases named : c.conversation = conversation
      · subst named
        have acts := Buffer.ofChunks?_concat_eq_act chunks c
        simpa [Operation.conversation, Operation.chunk?] using acts.symm
      · simp [Operation.conversation, named]
  | clear cleared =>
      rw [get?_step_of_not_drops keeps rfl, reply]
      simp [Operation.chunk?]
  | supersede m =>
      rw [get?_step_of_not_drops keeps rfl, reply]
      simp [Operation.chunk?]

/-- The reply of a conversation is what the chunks for it after its last drop make up. -/
theorem exists_get?_run (operations : List Operation) (conversation : String) :
    ∃ before after, operations = before ++ after ∧ Dropped {} conversation before ∧
      (run {} before).Keeps conversation after ∧
      (run {} operations).get? conversation =
        Buffer.ofChunks? conversation (chunksFor conversation after) := by
  induction operations using List.reverseRecOn with
  | nil => exact ⟨[], [], rfl, .inl rfl, trivial, get?_empty conversation⟩
  | append_singleton operations last ih =>
      obtain ⟨before, after, rfl, dropped, keeps, reply⟩ := ih
      have stepped : run {} (before ++ after ++ [last]) = (run {} (before ++ after)).step last :=
        run_append {} (before ++ after) [last]
      by_cases drops : (run {} (before ++ after)).Drops conversation last
      · -- The operations start anew after the last one.
        refine ⟨before ++ after ++ [last], [], (List.append_nil _).symm, ?_, trivial, ?_⟩
        · exact .inr ⟨before ++ after, last, rfl, drops⟩
        · rw [stepped]
          exact drops.get?_step
      · refine ⟨before, after ++ [last], List.append_assoc .., dropped, ?_, ?_⟩
        · rw [keeps_append, ← run_append]
          exact ⟨keeps, drops, trivial⟩
        · rw [stepped, chunksFor_append]
          exact get?_step_of_reply drops reply

theorem get?_run_naming (f : Feed) (operations : List Operation) (conversation : String) :
    (f.run (naming conversation operations)).get? conversation =
      (f.run operations).get? conversation := by
  have same : naming conversation (naming conversation operations) =
      naming conversation operations := by
    simp [naming]
  rw [get?_run, get?_run, same]

/-- However operations on several conversations are mixed, the reply of one conversation
depends on the operations that name it alone, and is made up by the chunks for it after the
last of them that dropped it. Dropping by a message is what superseding answers. -/
theorem reply_run (operations : List Operation) (conversation : String) :
    let f := run {} operations
    (run {} (naming conversation operations)).get? conversation = f.get? conversation ∧
      (∃ before after, operations = before ++ after ∧ Dropped {} conversation before ∧
        (run {} before).Keeps conversation after ∧
        f.get? conversation = Buffer.ofChunks? conversation (chunksFor conversation after)) ∧
      ∀ m : Message, (f.supersede m).1 = true ↔ f.Drops m.thread (.supersede m) := by
  intro f
  refine ⟨get?_run_naming {} operations conversation, exists_get?_run operations conversation, ?_⟩
  exact fun m => supersede_iff f m

end Feed

end Scrollback.Stream
