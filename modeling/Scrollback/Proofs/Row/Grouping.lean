import Mathlib.Data.List.Chain
import Mathlib.Data.List.Forall2
import Scrollback.Row

/-!
Rows and what they stand for.

The rows of a stretch of messages are one for each message, in order, and one for the
reply if there is one (`exists_following`). They do not depend on how much of the
history is shown: the rows of what is left after the first messages are the rows of
the whole history without its first rows, the grouping included (`drop_merge`). Of two rows
that follow one another both say whether they have one author, and a reply that goes away
takes with it only its own row and what the last message said of it (`merge_grouped`).
-/

namespace Scrollback.Row

/-- A row stands for a message. -/
def IsMessage (r : Row) (m : Message) : Prop :=
  ∃ continues isContinued, r = .message m continues isContinued

/-- A row stands for the reply that is being written. -/
def IsReply (r : Row) (b : Stream.Buffer) : Prop :=
  ∃ continues, r = .stream b continues

/-- The rows are one for each message and then one for the reply. -/
theorem exists_following (buffer : Option Stream.Buffer) (previous : Option String)
    (messages : List Message) :
    ∃ shown reply, following buffer previous messages = shown ++ reply ∧
      List.Forall₂ IsMessage shown messages ∧ List.Forall₂ IsReply reply buffer.toList := by
  induction messages generalizing previous with
  | nil =>
      refine ⟨[], following buffer previous [], rfl, .nil, ?_⟩
      cases buffer with
      | none => exact .nil
      | some b => exact .cons ⟨_, rfl⟩ .nil
  | cons m rest ih =>
      obtain ⟨shown, reply, eq, messageRows, replyRows⟩ := ih (some m.author)
      exact ⟨_ :: shown, reply, by rw [following, eq]; rfl, .cons ⟨_, _, rfl⟩ messageRows, replyRows⟩

/-- Who wrote what stands before the message at an index. -/
def authorBefore (previous : Option String) (messages : List Message) : Nat → Option String
  | 0 => previous
  | count + 1 => messages[count]?.map (·.author)

/-- Leaving out the first messages leaves out their rows and changes no other. -/
theorem drop_following (buffer : Option Stream.Buffer) (previous : Option String)
    {messages : List Message} {count : Nat} (within : count ≤ messages.length) :
    (following buffer previous messages).drop count =
      following buffer (authorBefore previous messages count) (messages.drop count) := by
  induction count generalizing previous messages with
  | zero => rfl
  | succ count ih =>
      cases messages with
      | nil => exact absurd within (Nat.not_succ_le_zero count)
      | cons m rest =>
          have step := ih (some m.author) (Nat.le_of_succ_le_succ within)
          rw [following, List.drop_succ_cons, step, List.drop_succ_cons]
          -- What stands before the rest is its own predecessor, or the message dropped first.
          cases count with
          | zero => rfl
          | succ count => rfl

/-- The rows of a stretch that begins inside a history are the last rows of the whole
history, when the message before the stretch is known. -/
theorem drop_merge (buffer : Option Stream.Buffer) {messages : List Message} {count : Nat}
    (within : count ≤ messages.length) :
    (merge messages none buffer).drop count =
      merge (messages.drop count) (if count = 0 then none else messages[count - 1]?) buffer := by
  unfold merge
  rw [drop_following buffer _ within]
  cases count with
  | zero => rfl
  | succ count => rfl

/-! ### Groups -/

/-- Two rows that follow one another: the first is continued exactly when the second
continues it, and that is when they have one author. -/
def Adjoins (r next : Row) : Prop :=
  r.isContinued? = some next.continues ∧ next.continues = decide (r.author = next.author)

/-- A row as it is when no row follows. -/
def ended : Row → Row
  | message m continues _ => message m continues false
  | stream b continues => stream b continues

section Groups

variable (buffer : Option Stream.Buffer) (previous : Option String) (messages : List Message)

/-- The first row continues the group of what was written before it. -/
theorem continues_head_following {r : Row}
    (first : (following buffer previous messages).head? = some r) :
    r.continues = (previous == some r.author) := by
  cases messages with
  | nil =>
      cases buffer with
      | none => cases first
      | some b =>
          cases first
          rfl
  | cons m rest =>
      cases first
      rfl

/-- The author of the first row is the one who writes next. -/
theorem author_head_following :
    (following buffer previous messages).head?.map author = nextAuthor buffer messages := by
  cases messages with
  | nil =>
      cases buffer with
      | none => rfl
      | some b => rfl
  | cons m rest => rfl

theorem isChain_following : (following buffer previous messages).IsChain Adjoins := by
  induction messages generalizing previous with
  | nil =>
      cases buffer with
      | none => exact .nil
      | some b => exact .singleton _
  | cons m rest ih =>
      rw [following]
      refine List.isChain_cons.mpr ⟨?_, ih (some m.author)⟩
      intro next first
      have continues := continues_head_following buffer (some m.author) rest first
      have author := author_head_following buffer (some m.author) rest
      rw [Option.mem_def.mp first, Option.map_some] at author
      constructor
      · rw [isContinued?, continues, ← author, BEq.comm]
      · rw [continues]
        rfl

/-- Without a reply nothing continues the last message. -/
theorem isContinued?_getLast_following {r : Row}
    (last : (following none previous messages).getLast? = some r) :
    r.isContinued? = some false := by
  induction messages generalizing previous with
  | nil => cases last
  | cons m rest ih =>
      cases rest with
      | nil =>
          cases last
          rfl
      | cons second rest =>
          obtain ⟨row, rows, shown⟩ : ∃ row rows,
              following none (some m.author) (second :: rest) = row :: rows := ⟨_, _, rfl⟩
          rw [following, shown, List.getLast?_cons_cons, ← shown] at last
          exact ih (some m.author) last

/-- A reply adds its own row, and that the last message is continued if they have one
author. -/
theorem following_without (b : Stream.Buffer) :
    ∃ rows continues, following (some b) previous messages = rows ++ [stream b continues] ∧
      rows.length = messages.length ∧
      following none previous messages = rows.modify (messages.length - 1) ended := by
  induction messages generalizing previous with
  | nil => exact ⟨[], previous == some b.agent, rfl, rfl, rfl⟩
  | cons m rest ih =>
      obtain ⟨rows, continues, withReply, length, without⟩ := ih (some m.author)
      refine ⟨message m (previous == some m.author)
        (nextAuthor (some b) rest == some m.author) :: rows, continues, ?_, ?_, ?_⟩
      · rw [following, withReply, List.cons_append]
      · rw [List.length_cons, length, List.length_cons]
      · rw [following, without]
        cases rest with
        | nil =>
            rw [List.eq_nil_of_length_eq_zero length]
            rfl
        | cons second rest => rfl

end Groups

/-- The rows of a history, with the reply that is being written in it, do not depend on how
much of it is shown. The first of them continues nothing. Neighbours agree on whether they
have one author, the reply being the neighbour of the last message. Without a reply nothing
continues the last message, and nothing else changes but that the row of the reply is
missing. -/
theorem merge_grouped (messages : List Message) (buffer : Option Stream.Buffer) :
    (∀ count, count ≤ messages.length →
        merge (messages.drop count) (if count = 0 then none else messages[count - 1]?) buffer =
          (merge messages none buffer).drop count) ∧
      (∀ r, (merge messages none buffer).head? = some r → r.continues = false) ∧
      (merge messages none buffer).IsChain Adjoins ∧
      (∀ r, (merge messages none none).getLast? = some r → r.isContinued? = some false) ∧
      ∀ b, ∃ rows continues, merge messages none (some b) = rows ++ [stream b continues] ∧
        rows.length = messages.length ∧
        merge messages none none = rows.modify (messages.length - 1) ended := by
  refine ⟨?_, ?_, ?_, ?_, ?_⟩
  · intro count within
    exact (drop_merge buffer within).symm
  · intro r first
    exact continues_head_following buffer none messages first
  · exact isChain_following buffer none messages
  · intro r last
    exact isContinued?_getLast_following none messages last
  · intro b
    exact following_without none messages b

/-- The last of three messages, shown alone: it continues the one that is hidden, and the
reply continues it. -/
theorem merge_grouped_sample :
    let message (id author : String) : Message :=
      { id, content := "", author, thread := "conv", stamp := 0, replyTo := none
        isReasoning := false, quotes := [], mentions := [], toolName := none
        toolArguments := none }
    let messages := [message "m0" "user", message "m1" "agent", message "m2" "agent"]
    let reply : Stream.Buffer := { agent := "agent", conversation := "conv" }
    2 ≤ messages.length ∧
      merge [message "m2" "agent"] (some (message "m1" "agent")) (some reply) =
        (merge messages none (some reply)).drop 2 ∧
      (merge messages none (some reply)).map continues = [false, false, true, true] := by
  intro message messages reply
  have within : 2 ≤ messages.length := by decide
  exact ⟨within, (merge_grouped messages (some reply)).1 2 within, by decide⟩

end Scrollback.Row
