import Mathlib.Data.List.Infix
import Mathlib.Data.List.Induction
import Scrollback.Message

/-!
What the tags of an event say.

Tags are read one after another, and what a reference without a marker means depends on the
references before it. Told of the whole list, the thread is the last reference that is marked
as the root, or without one the first that is not marked; the message answered is the last one
that is marked as such or that is not marked and comes later than a reference to the thread
(`TagReading.ofTags_eq`). An event is a message exactly when some tag may name its thread, and
then the message is what its tags say (`toMessage_reads`).
-/

namespace Scrollback

/-! ### References -/

/-- What the marker of a reference says about the event referred to. -/
inductive Marker where
  | root
  | reply
  | unmarked
  | other
  deriving DecidableEq, Repr

namespace Tag

/-- The marker stands in fourth place. It may be absent or empty. -/
def marker (tag : Tag) : Marker :=
  match tag[3]? with
  | none => .unmarked
  | some "" => .unmarked
  | some "root" => .root
  | some "reply" => .reply
  | some _ => .other

/-- The value of a tag that has this name, unless it is empty. -/
def valueOf? (name : String) (tag : Tag) : Option String :=
  if tag.head? = some name then tag.value? else none

/-- The event a tag refers to under a marker. -/
def reference? (marker : Marker) (tag : Tag) : Option String :=
  if tag.marker = marker then tag.valueOf? "e" else none

/-- Whether a tag names the thread, or may name it for want of a marker. -/
def mayOpen (tag : Tag) : Bool :=
  (tag.reference? .root).isSome || (tag.reference? .unmarked).isSome

/-- The message a tag says is answered, given whether an earlier tag may have named the
thread. -/
def answer? (opened : Bool) (tag : Tag) : Option String :=
  (tag.reference? .reply).or (if opened then tag.reference? .unmarked else none)

end Tag

/-- The items of a list, each with those before it. -/
def withEarlier {α : Type} (items : List α) : List (List α × α) :=
  items.inits.zip items

theorem withEarlier_concat {α : Type} (items : List α) (item : α) :
    withEarlier (items ++ [item]) = withEarlier items ++ [(items, item)] := by
  unfold withEarlier
  induction items with
  | nil => rfl
  | cons first rest ih =>
      rw [List.cons_append, List.inits_cons, List.inits_cons, List.zip_cons_cons,
        List.zip_cons_cons, List.zip_map_left, List.zip_map_left, ih, List.map_append]
      rfl

theorem filterMap_concat {α β : Type} (items : List α) (f : α → Option β) (item : α) :
    (items ++ [item]).filterMap f = items.filterMap f ++ (f item).toList := by
  rw [List.filterMap_append]
  cases eq : f item <;> simp [eq]

/-! ### What a list of tags says -/

namespace Event

variable (tags : List Tag)

/-- The values of the tags of one name, but for the empty ones. -/
def valuesOf (name : String) : List String :=
  tags.filterMap (Tag.valueOf? name)

/-- The events referred to under a marker. -/
def references (marker : Marker) : List String :=
  tags.filterMap (Tag.reference? marker)

/-- The messages that are answered: those marked as such, and those referred to without a
marker after a tag that may name the thread. -/
def answers : List String :=
  (withEarlier tags).filterMap fun t => t.2.answer? (t.1.any Tag.mayOpen)

/-- The last tag of a name. -/
def lastNamed? (name : String) : Option Tag :=
  (tags.filter fun tag => tag.head? = some name).getLast?

/-! What one more tag adds to each of these. -/

section Concat

variable {tags : List Tag} (tag : Tag)

theorem valuesOf_concat (name : String) :
    valuesOf (tags ++ [tag]) name = valuesOf tags name ++ (tag.valueOf? name).toList :=
  filterMap_concat tags (Tag.valueOf? name) tag

theorem getLast?_references_concat (marker : Marker) :
    (references (tags ++ [tag]) marker).getLast? =
      (tag.reference? marker).or (references tags marker).getLast? := by
  rw [references, filterMap_concat, List.getLast?_append]
  cases tag.reference? marker <;> rfl

theorem head?_references_concat (marker : Marker) :
    (references (tags ++ [tag]) marker).head? =
      (references tags marker).head?.or (tag.reference? marker) := by
  rw [references, filterMap_concat, List.head?_append, Option.head?_toList]
  rfl

theorem getLast?_answers_concat :
    (answers (tags ++ [tag])).getLast? =
      (tag.answer? (tags.any Tag.mayOpen)).or (answers tags).getLast? := by
  rw [answers, withEarlier_concat, filterMap_concat, List.getLast?_append]
  cases tag.answer? (tags.any Tag.mayOpen) <;> rfl

theorem lastNamed?_concat (name : String) :
    lastNamed? (tags ++ [tag]) name =
      if tag.head? = some name then some tag else lastNamed? tags name := by
  rw [lastNamed?, List.filter_append, List.getLast?_append]
  by_cases named : tag.head? = some name
  · simp [named]
  · simp [named, lastNamed?]

end Concat

end Event

namespace TagReading

theorem addReference_eq (r : TagReading) (tag : Tag) (id : String) :
    r.addReference tag[3]? id =
      match tag.marker with
      | .root => { r with thread := some id }
      | .reply => { r with replyTo := some id }
      | .unmarked =>
          { r with
            thread := r.thread.or (some id)
            replyTo := (if r.thread.isSome then some id else none).or r.replyTo }
      | .other => r := by
  unfold addReference Tag.marker
  cases tag[3]? with
  | none => cases r.thread <;> simp
  | some text =>
      simp only [Option.getD_some]
      split
      · rfl
      · rfl
      · cases r.thread <;> simp
      · split <;> simp_all

/-- What one more tag adds to each part of a reading. -/
theorem add_eq (r : TagReading) (tag : Tag) :
    r.add tag =
      { thread := ((tag.reference? .root).or r.thread).or (tag.reference? .unmarked)
        replyTo := (tag.answer? r.thread.isSome).or r.replyTo
        isReasoning := r.isReasoning || tag.head? = some "reasoning"
        quotes := r.quotes ++ (tag.valueOf? "q").toList
        mentions := r.mentions ++ (tag.valueOf? "p").toList
        toolName := if tag.head? = some "tool" then tag.value? else r.toolName
        toolArguments := if tag.head? = some "tool-args" then tag.value? else r.toolArguments } := by
  cases head : tag.head? with
  | none => simp [add, head, Tag.reference?, Tag.valueOf?, Tag.answer?]
  | some name =>
      unfold add
      simp only [head, Option.getD_some, Tag.answer?, Tag.reference?, Tag.valueOf?]
      split
      -- A reference is the one tag that adds more than its value.
      case h_6 =>
        cases value : tag.value? with
        | none => simp
        | some id =>
            simp only [addReference_eq]
            cases tag.marker <;> simp
      all_goals simp_all

theorem ofTags_concat (tags : List Tag) (tag : Tag) :
    ofTags (tags ++ [tag]) = (ofTags tags).add tag :=
  List.foldl_concat ..

/-- A thread has been named as soon as a tag may name it. -/
theorem isSome_thread_ofTags (tags : List Tag) :
    (ofTags tags).thread.isSome = tags.any Tag.mayOpen := by
  induction tags using List.reverseRecOn with
  | nil => rfl
  | append_singleton tags tag ih =>
      rw [ofTags_concat, add_eq, List.any_append, ← ih]
      simp only [Option.isSome_or, List.any_cons, List.any_nil, Bool.or_false, Tag.mayOpen]
      ac_rfl

theorem thread_ofTags_eq_none_iff {tags : List Tag} :
    (ofTags tags).thread = none ↔ ∀ tag ∈ tags, tag.mayOpen = false := by
  rw [← Option.not_isSome_iff_eq_none, isSome_thread_ofTags, Bool.not_eq_true, List.any_eq_false]
  simp only [Bool.not_eq_true]

/-- What a list of tags says, told of the whole list. -/
theorem ofTags_eq (tags : List Tag) :
    ofTags tags =
      { thread := (Event.references tags .root).getLast?.or (Event.references tags .unmarked).head?
        replyTo := (Event.answers tags).getLast?
        isReasoning := tags.any fun tag => tag.head? = some "reasoning"
        quotes := Event.valuesOf tags "q"
        mentions := Event.valuesOf tags "p"
        toolName := (Event.lastNamed? tags "tool").bind Tag.value?
        toolArguments := (Event.lastNamed? tags "tool-args").bind Tag.value? } := by
  induction tags using List.reverseRecOn with
  | nil => rfl
  | append_singleton tags tag ih =>
      rw [ofTags_concat, add_eq, isSome_thread_ofTags, ih]
      simp only [Event.getLast?_references_concat, Event.head?_references_concat,
        Event.getLast?_answers_concat, Event.valuesOf_concat, Event.lastNamed?_concat,
        List.any_append, List.any_cons, List.any_nil, Bool.or_false, Option.or_assoc]
      congr 1
      · split <;> rfl
      · split <;> rfl

end TagReading

/-! ### Messages of events -/

/-- A message is what the tags of an event say, and for the rest the event as it stands. -/
structure Message.Reads (m : Message) (e : Event) : Prop where
  id : m.id = e.id
  author : m.author = e.author
  content : m.content = e.content
  stamp : m.stamp = e.stamp
  thread : some m.thread =
    (Event.references e.tags .root).getLast?.or (Event.references e.tags .unmarked).head?
  replyTo : m.replyTo = (Event.answers e.tags).getLast?
  isReasoning : m.isReasoning = true ↔ ∃ tag ∈ e.tags, tag.head? = some "reasoning"
  quotes : m.quotes = Event.valuesOf e.tags "q"
  mentions : m.mentions = Event.valuesOf e.tags "p"
  toolName : m.toolName = (Event.lastNamed? e.tags "tool").bind Tag.value?
  toolArguments : m.toolArguments = (Event.lastNamed? e.tags "tool-args").bind Tag.value?

/-- An event is read as one message. -/
theorem Message.Reads.unique {m other : Message} {e : Event} (reads : m.Reads e)
    (reads' : other.Reads e) : m = other := by
  have thread : m.thread = other.thread :=
    Option.some.inj (reads.thread.trans reads'.thread.symm)
  have isReasoning : m.isReasoning = other.isReasoning :=
    Bool.eq_iff_iff.mpr (reads.isReasoning.trans reads'.isReasoning.symm)
  cases m
  cases other
  simp only [Message.mk.injEq]
  exact ⟨reads.id.trans reads'.id.symm, reads.content.trans reads'.content.symm,
    reads.author.trans reads'.author.symm, thread, reads.stamp.trans reads'.stamp.symm,
    reads.replyTo.trans reads'.replyTo.symm, isReasoning, reads.quotes.trans reads'.quotes.symm,
    reads.mentions.trans reads'.mentions.symm, reads.toolName.trans reads'.toolName.symm,
    reads.toolArguments.trans reads'.toolArguments.symm⟩

namespace Event

variable {e : Event}

theorem toMessage_of_none (none : (TagReading.ofTags e.tags).thread = none) :
    e.toMessage = .error (.noThread e.id) := by
  simp only [toMessage, none]

theorem exists_toMessage_of_some {thread : String}
    (named : (TagReading.ofTags e.tags).thread = some thread) :
    ∃ m, e.toMessage = .ok m ∧ m.Reads e := by
  have said := TagReading.ofTags_eq e.tags
  simp only [toMessage, named]
  refine ⟨_, rfl, ?_⟩
  constructor
  case thread => exact named.symm.trans (congrArg TagReading.thread said)
  case replyTo => exact congrArg TagReading.replyTo said
  case isReasoning =>
    simp only [congrArg TagReading.isReasoning said, List.any_eq_true, decide_eq_true_eq]
  case quotes => exact congrArg TagReading.quotes said
  case mentions => exact congrArg TagReading.mentions said
  case toolName => exact congrArg TagReading.toolName said
  case toolArguments => exact congrArg TagReading.toolArguments said
  all_goals rfl

theorem toMessage_eq_error_iff {err : EventError} :
    e.toMessage = .error err ↔
      err = .noThread e.id ∧ ∀ tag ∈ e.tags, tag.mayOpen = false := by
  rw [← TagReading.thread_ofTags_eq_none_iff]
  cases named : (TagReading.ofTags e.tags).thread with
  | none => rw [toMessage_of_none named, Except.error.injEq, and_iff_left rfl, eq_comm]
  | some thread =>
      obtain ⟨m, ok, -⟩ := exists_toMessage_of_some named
      rw [ok]
      exact iff_of_false nofun nofun

theorem toMessage_eq_ok_iff {m : Message} : e.toMessage = .ok m ↔ m.Reads e := by
  cases named : (TagReading.ofTags e.tags).thread with
  | none =>
      rw [toMessage_of_none named]
      refine iff_of_false nofun ?_
      intro reads
      have thread := congrArg TagReading.thread (TagReading.ofTags_eq e.tags)
      exact Option.some_ne_none _ (reads.thread.trans (thread.symm.trans named))
  | some thread =>
      obtain ⟨other, ok, otherReads⟩ := exists_toMessage_of_some named
      rw [ok, Except.ok.injEq]
      constructor
      · rintro rfl
        exact otherReads
      · exact otherReads.unique

end Event

/-- An event is no message exactly when none of its tags names the thread or may name it, and
the error names the event. Any other event is the message that its tags say it is. -/
theorem toMessage_reads (e : Event) :
    (∀ err, e.toMessage = .error err ↔
      err = .noThread e.id ∧ ∀ tag ∈ e.tags, tag.mayOpen = false) ∧
    (EventError.noThread e.id).message =
      "Invalid event: event " ++ e.id ++ " has no thread e-tag" ∧
    ∀ m, e.toMessage = .ok m ↔ m.Reads e := by
  refine ⟨?_, rfl, ?_⟩
  · intro err
    exact Event.toMessage_eq_error_iff
  · intro m
    exact Event.toMessage_eq_ok_iff

/-- The first reference without a marker may be the thread, the one after it is answered, and
the root that comes last is the thread after all. The last tag for the tool is empty. Without
the references the event is no message. -/
theorem toMessage_reads_sample :
    let e : Event := {
      id := "m1", author := "agent", content := "hello", stamp := 42
      tags := [["e", "a", "", "reply"], ["e", "", "", "root"], ["e", "b"], ["e", "c", "", "mention"],
        ["e", "d", "", ""], ["e", "r", "", "root"], ["tool", "fs_read"], ["tool"], ["q", "child"],
        ["p", ""], ["p", "human"], []] }
    let m : Message := {
      id := "m1", author := "agent", content := "hello", stamp := 42, thread := "r"
      replyTo := some "d", isReasoning := false, quotes := ["child"], mentions := ["human"]
      toolName := none, toolArguments := none }
    let bare : Event := { e with tags := [["p", "human"], ["e", "a", "", "reply"]] }
    e.toMessage = .ok m ∧ m.Reads e ∧ (∀ tag ∈ bare.tags, tag.mayOpen = false) ∧
      bare.toMessage = .error (.noThread "m1") := by
  intro e m bare
  have ok : e.toMessage = .ok m := by decide +kernel
  have none : ∀ tag ∈ bare.tags, tag.mayOpen = false := by decide +kernel
  exact ⟨ok, ((toMessage_reads e).2.2 m).mp ok, none,
    ((toMessage_reads bare).1 (.noThread "m1")).mpr ⟨rfl, none⟩⟩

end Scrollback
