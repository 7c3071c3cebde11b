import Scrollback.Proofs.View.Pass

/-!
A view in use.

A run is a list of calls on one view: passes over any messages with any reply at any
time, requests for older messages, and accesses of others to the cache that the view
was given. A `Viewing` is the view and the cache after some calls, with a record of
every pass that was made.

After any run the state of the view is what its records say (`Coherent.run`). The cache
stays faithful to the contents of the calls (`Sound.run`), so that every pass shows what
it would show if it read everything afresh (`Sound.rows_pass`).
-/

namespace Scrollback

namespace View

/-- What is done with a view, and by others with its cache. -/
inductive Call where
  | render (messages : List Message) (buffer : Option Stream.Buffer) (now : Nat)
  | loadOlder
  | elsewhere (access : Attachment.Cache.Access)

/-- The contents that a call may read through the cache. -/
def Call.contents : Call → List String
  | .render messages _ _ => messages.filterMap Message.readContent?
  | .loadOlder => []
  | .elsewhere (.read content) => [content]
  | .elsewhere .clear => []

/-- The contents that some calls may read through the cache. -/
def contentsOf (calls : List Call) : Set String :=
  {content | content ∈ calls.flatMap Call.contents}

theorem mem_contentsOf_singleton {call : Call} {content : String} :
    content ∈ contentsOf [call] ↔ content ∈ call.contents := by
  show content ∈ [call].flatMap Call.contents ↔ _
  rw [List.flatMap_singleton]

/-- Through a faithful cache the rows of a pass show what they show when read afresh, and
the cache stays faithful. -/
theorem ofRows_rowsAt {v : View} {cache : Attachment.Cache} {contents : Set String}
    {messages : List Message} {buffer : Option Stream.Buffer} {now : Nat}
    (bounded : v.window.Bounded) (faithful : cache.Faithful contents)
    (apart : Set.InjOn cache.digest contents)
    (used : contentsOf [.render messages buffer now] ⊆ contents) :
    let rendered := RenderedRow.ofRows cache (v.rowsAt messages buffer)
    rendered.1 = (v.rowsAt messages buffer).map RenderedRow.fresh ∧
      rendered.2.Faithful contents ∧ rendered.2.digest = cache.digest :=
  RenderedRow.ofRows_faithful faithful apart fun _ mem _ read =>
    used (mem_contentsOf_singleton.mpr (readContent?_mem_rowsAt bounded mem read))

/-- An access of others keeps a cache faithful. -/
theorem access_elsewhere {cache : Attachment.Cache} {contents : Set String}
    (faithful : cache.Faithful contents) {access : Attachment.Cache.Access}
    (used : contentsOf [.elsewhere access] ⊆ contents) :
    (cache.access access).Faithful contents ∧ (cache.access access).digest = cache.digest := by
  apply faithful.access
  intro content read
  apply used
  rw [mem_contentsOf_singleton]
  cases access with
  | read other =>
      cases read
      exact List.mem_cons_self
  | clear => cases read

theorem contentsOf_append (first second : List Call) :
    contentsOf (first ++ second) = contentsOf first ∪ contentsOf second := by
  ext content
  show content ∈ (first ++ second).flatMap Call.contents ↔ _
  rw [List.flatMap_append]
  exact List.mem_append

/-- A pass that was made: what it was given, and what it showed. -/
structure Record where
  messages : List Message
  buffer : Option Stream.Buffer
  now : Nat
  pass : Pass

/-! ### What the records say, the last one first -/

/-- When the last request to scroll was made. -/
def lastRequestAt (records : List Record) : Option Nat :=
  (records.find? (·.pass.scroll.isSome)).map (·.now)

/-- How many messages the last pass was given. -/
def lastCount (records : List Record) : Nat :=
  (records.head?.map (·.messages.length)).getD 0

/-- How many bytes of a reply a view of the conversation shows: none when the reply is
of another conversation or has nothing to show. -/
def replyLength (conversation : String) (buffer : Option Stream.Buffer) : Nat :=
  match buffer with
  | some b =>
      if b.conversation = conversation ∧ b.isRenderable = true then
        b.text.utf8ByteSize + b.reasoning.utf8ByteSize
      else 0
  | none => 0

/-- How many bytes of a reply the last pass showed. -/
def lastReplyLength (conversation : String) (records : List Record) : Nat :=
  (records.head?.map fun r => replyLength conversation r.buffer).getD 0

theorem lastRequestAt_cons (r : Record) (records : List Record) :
    lastRequestAt (r :: records) =
      if r.pass.scroll.isSome then some r.now else lastRequestAt records := by
  unfold lastRequestAt
  rw [List.find?_cons]
  cases r.pass.scroll.isSome with
  | true => rfl
  | false => rfl

theorem length_accepted (v : View) (buffer : Option Stream.Buffer) :
    ((v.accepted buffer).map Stream.Buffer.length).getD 0 = replyLength v.conversation buffer := by
  cases buffer with
  | none => rfl
  | some b =>
      rw [accepted_some, replyLength]
      split
      · rfl
      · rfl

end View

/-- A view, the cache it was given, and its passes so far, the last one first. -/
structure Viewing where
  view : View
  cache : Attachment.Cache
  records : List View.Record := []

namespace Viewing

/-- A view of a conversation before its first pass. -/
def start (conversation : String) (s : Settings) (cache : Attachment.Cache) : Viewing :=
  { view := .ofSettings conversation s, cache }

/-- The pass that a call to render would make now. -/
def pass (u : Viewing) (messages : List Message) (buffer : Option Stream.Buffer) (now : Nat) :
    Pass :=
  (u.view.render u.cache messages buffer now).1

/-- One call. -/
def step (u : Viewing) : View.Call → Viewing
  | .render messages buffer now =>
      let (pass, view, cache) := u.view.render u.cache messages buffer now
      ⟨view, cache, ⟨messages, buffer, now, pass⟩ :: u.records⟩
  | .loadOlder => { u with view := u.view.loadOlder.2 }
  | .elsewhere access => { u with cache := u.cache.access access }

/-- Calls, one after the other. -/
def run (u : Viewing) (calls : List View.Call) : Viewing :=
  calls.foldl step u

theorem run_append (u : Viewing) (first second : List View.Call) :
    u.run (first ++ second) = (u.run first).run second :=
  List.foldl_append

/-! ### The state of a view -/

/-- The state of a view is what its settings and its records say. -/
structure Coherent (conversation : String) (s : Settings) (u : Viewing) : Prop where
  conversation_eq : u.view.conversation = conversation
  throttle_eq : u.view.follower.throttle = s.throttle
  initialSize_eq : u.view.window.initialSize = s.initialSize
  step_eq : u.view.window.step = s.step
  bounded : u.view.window.Bounded
  isOpen_eq : u.view.window.isOpen = !u.records.isEmpty
  total_eq : u.view.window.total = View.lastCount u.records
  streamLength_eq : u.view.streamLength = View.lastReplyLength conversation u.records
  lastAt_eq : u.view.follower.lastAt = View.lastRequestAt u.records
  hasAppeared_eq : u.view.follower.hasAppeared = u.view.follower.lastAt.isSome

theorem coherent_start (conversation : String) (s : Settings) (cache : Attachment.Cache) :
    (start conversation s cache).Coherent conversation s where
  conversation_eq := rfl
  throttle_eq := rfl
  initialSize_eq := rfl
  step_eq := rfl
  bounded := Window.bounded_ofSettings s
  isOpen_eq := rfl
  total_eq := rfl
  streamLength_eq := rfl
  lastAt_eq := rfl
  hasAppeared_eq := rfl

namespace Coherent

variable {conversation : String} {s : Settings} {u : Viewing}

/-- The decision of the next pass, and the view after it. -/
theorem followAt_eq (coherent : u.Coherent conversation s) (messages : List Message)
    (buffer : Option Stream.Buffer) (now : Nat) :
    u.view.followAt messages buffer now =
      let request := Scroll.due s.throttle (View.lastRequestAt u.records)
        (u.view.window.sync messages.length).1.isGrowth
        (View.lastReplyLength conversation u.records < View.replyLength conversation buffer) now
        ((u.view.rowsAt messages buffer).getLast?.map Row.key)
      (request, { u.view with
        window := u.view.windowAt messages
        streamLength := View.replyLength conversation buffer
        follower := u.view.follower.after request now }) := by
  have follow := View.follow_eq (v := { u.view with window := u.view.windowAt messages })
    coherent.hasAppeared_eq ((u.view.rowsAt messages buffer).getLast?.map Row.key)
    (u.view.window.sync messages.length).1 (u.view.accepted buffer) now
  refine Eq.trans follow ?_
  simp only [View.length_accepted, coherent.conversation_eq, coherent.throttle_eq,
    coherent.lastAt_eq, coherent.streamLength_eq]

/-- After a pass the window has followed its messages. -/
theorem window_step (coherent : u.Coherent conversation s) (messages : List Message)
    (buffer : Option Stream.Buffer) (now : Nat) :
    (u.step (.render messages buffer now)).view.window = u.view.windowAt messages := by
  have follow := coherent.followAt_eq messages buffer now
  simp only [Viewing.step, View.render_eq, follow]

/-- A pass adds its record and brings the state up to it. -/
theorem render (coherent : u.Coherent conversation s) (messages : List Message)
    (buffer : Option Stream.Buffer) (now : Nat) :
    (u.step (.render messages buffer now)).Coherent conversation s := by
  have follow := coherent.followAt_eq messages buffer now
  simp only [Viewing.step, View.render_eq, follow]
  exact {
    conversation_eq := coherent.conversation_eq
    throttle_eq := (Scroll.Follower.throttle_after ..).trans coherent.throttle_eq
    initialSize_eq := (Window.sizes_sync ..).initialSize_eq.trans coherent.initialSize_eq
    step_eq := (Window.sizes_sync ..).step_eq.trans coherent.step_eq
    bounded := coherent.bounded.sync messages.length
    isOpen_eq := Window.isOpen_sync ..
    total_eq := Window.total_sync ..
    streamLength_eq := rfl
    lastAt_eq := by
      rw [Scroll.Follower.lastAt_after, coherent.lastAt_eq, View.lastRequestAt_cons]
    hasAppeared_eq := Scroll.Follower.hasAppeared_after coherent.hasAppeared_eq .. }

/-- Asking for older messages only widens the window. -/
theorem loadOlder (coherent : u.Coherent conversation s) :
    (u.step .loadOlder).Coherent conversation s := by
  have widened : u.view.window.loadOlder.2 = u.view.window.widen 1 := by
    have step := Window.loadOlder_widen u.view.window 0
    rwa [Window.widen_zero] at step
  have stepped : u.step .loadOlder =
      { u with view := { u.view with window := u.view.window.widen 1 } } := by
    rw [← widened]
    rfl
  have bounded := coherent.bounded.loadOlder
  rw [widened] at bounded
  rw [stepped]
  exact { coherent with bounded }

theorem step (coherent : u.Coherent conversation s) (call : View.Call) :
    (u.step call).Coherent conversation s := by
  cases call with
  | render messages buffer now => exact coherent.render messages buffer now
  | loadOlder => exact coherent.loadOlder
  | elsewhere access => exact { coherent with }

theorem run (coherent : u.Coherent conversation s) (calls : List View.Call) :
    (u.run calls).Coherent conversation s := by
  induction calls generalizing u with
  | nil => exact coherent
  | cons call rest ih => exact ih (coherent.step call)

end Coherent

/-- The state of a view after any calls. -/
theorem coherent_run (conversation : String) (s : Settings) (cache : Attachment.Cache)
    (calls : List View.Call) :
    ((start conversation s cache).run calls).Coherent conversation s :=
  (coherent_start conversation s cache).run calls

/-! ### The cache of a view -/

/-- Besides the state of the view, the cache is faithful to some contents and its digest
tells them apart. -/
structure Sound (contents : Set String) (conversation : String) (s : Settings) (u : Viewing) :
    Prop extends Coherent conversation s u where
  faithful : u.cache.Faithful contents
  apart : Set.InjOn u.cache.digest contents

theorem sound_start {contents : Set String} {digest : String → String}
    (apart : Set.InjOn digest contents) (conversation : String) (s : Settings) (capacity : Nat) :
    (start conversation s (.ofCapacity capacity digest)).Sound contents conversation s where
  toCoherent := coherent_start conversation s _
  faithful := Attachment.Cache.faithful_ofCapacity contents capacity digest
  apart := apart

namespace Sound

variable {contents : Set String} {conversation : String} {s : Settings} {u : Viewing}

/-- What is read for the rows of a pass. -/
theorem ofRows (sound : u.Sound contents conversation s) {messages : List Message}
    {buffer : Option Stream.Buffer} {now : Nat}
    (used : View.contentsOf [.render messages buffer now] ⊆ contents) :
    let rendered := RenderedRow.ofRows u.cache (u.view.rowsAt messages buffer)
    rendered.1 = (u.view.rowsAt messages buffer).map RenderedRow.fresh ∧
      rendered.2.Faithful contents ∧ rendered.2.digest = u.cache.digest :=
  View.ofRows_rowsAt sound.bounded sound.faithful sound.apart used

/-- The rows of a pass are the last rows of the whole history, read afresh. -/
theorem rows_pass (sound : u.Sound contents conversation s) {messages : List Message}
    {buffer : Option Stream.Buffer} {now : Nat}
    (used : View.contentsOf [.render messages buffer now] ⊆ contents) :
    (u.pass messages buffer now).rows =
      ((Row.merge messages none (u.view.accepted buffer)).drop
        (u.pass messages buffer now).hidden).map RenderedRow.fresh := by
  have rows : (u.pass messages buffer now).rows =
      (u.view.rowsAt messages buffer).map RenderedRow.fresh := (sound.ofRows used).1
  rw [rows, View.rowsAt_eq_drop buffer sound.bounded]
  rfl

theorem step (sound : u.Sound contents conversation s) {call : View.Call}
    (used : View.contentsOf [call] ⊆ contents) :
    (u.step call).Sound contents conversation s := by
  have kept : (u.step call).cache.Faithful contents ∧
      (u.step call).cache.digest = u.cache.digest := by
    cases call with
    | render messages buffer now => exact (sound.ofRows used).2
    | loadOlder => exact ⟨sound.faithful, rfl⟩
    | elsewhere access => exact View.access_elsewhere sound.faithful used
  exact ⟨sound.toCoherent.step call, kept.1, kept.2 ▸ sound.apart⟩

/-- Calls whose contents are among those of a cache keep it faithful to them. -/
theorem run (sound : u.Sound contents conversation s) {calls : List View.Call}
    (used : View.contentsOf calls ⊆ contents) : (u.run calls).Sound contents conversation s := by
  induction calls generalizing u with
  | nil => exact sound
  | cons call rest ih =>
      have union := View.contentsOf_append [call] rest
      obtain ⟨callUsed, restUsed⟩ := Set.union_subset_iff.mp (union ▸ used)
      exact ih (sound.step callUsed) restUsed

end Sound

/-- Asking for older messages any number of times only widens the window. -/
theorem run_replicate_loadOlder (u : Viewing) (times : Nat) :
    u.run (List.replicate times .loadOlder) =
      { u with view := { u.view with window := u.view.window.widen times } } := by
  induction times with
  | zero =>
      rw [Window.widen_zero]
      rfl
  | succ times ih =>
      rw [List.replicate_succ', run_append, ih, ← Window.loadOlder_widen]
      rfl

/-- After any calls the state is sound for the contents of these calls and of the next
pass. -/
theorem sound_run {digest : String → String} {calls : List View.Call} {messages : List Message}
    {buffer : Option Stream.Buffer} {now : Nat}
    (apart : Set.InjOn digest (View.contentsOf (calls ++ [.render messages buffer now])))
    (conversation : String) (s : Settings) (capacity : Nat) :
    ((start conversation s (.ofCapacity capacity digest)).run calls).Sound
        (View.contentsOf (calls ++ [.render messages buffer now])) conversation s ∧
      View.contentsOf [.render messages buffer now] ⊆
        View.contentsOf (calls ++ [.render messages buffer now]) := by
  have union := View.contentsOf_append calls [.render messages buffer now]
  exact ⟨(sound_start apart conversation s capacity).run (union ▸ Set.subset_union_left),
    union ▸ Set.subset_union_right⟩

end Viewing

/-! ### A short conversation -/

namespace Sample

/-- A message of the conversation, by its number, content and tool. -/
def message (id content : String) (toolName : Option String) : Message :=
  { id, content, author := "user", thread := "conv", stamp := 0, replyTo := none
    isReasoning := false, quotes := ["other"], mentions := [], toolName
    toolArguments := none }

/-- A greeting, a tool call, a message with an attached text, and the greeting again. -/
def messages : List Message :=
  [message "m0" "hello" none, message "m1" "done" (some "bash"),
    message "m2" "See [A]\n\n----\n-- A --\npasted" none, message "m3" "hello" none]

/-- A reply that has begun. -/
def reply : Stream.Buffer :=
  { agent := "agent", conversation := "conv", text := "Well" }

/-- A window of two messages that widens by one. -/
def settings : Settings :=
  { initialSize := 2, step := 1, maxShown := 3, cacheCapacity := 2 }

/-- The conversation is opened, paged, emptied and filled again, while others read
through the cache. -/
def calls : List View.Call :=
  [.render (messages.take 3) none 0, .loadOlder, .elsewhere (.read "hello"), .render [] none 4,
    .render messages (some reply) 2]

/-- The digests of the contents, in hexadecimal. -/
def digest (content : String) : String :=
  if content = "hello" then
    "2cf24dba5fb0a30e26e83b2ac5b9e29e1b161e5c1fa7425e73043362938b9824"
  else "34fbad5e87bdfda17c59b6715f263987f297812bbd265deab62a6f51922508f1"

/-- The digests tell the contents of the messages apart. -/
theorem injOn_of_contents {contents : Set String}
    (two : ∀ content ∈ contents, content = "hello" ∨ content = "See [A]\n\n----\n-- A --\npasted") :
    Set.InjOn digest contents := by
  intro a aMem b bMem same
  rcases two a aMem with rfl | rfl
  · rcases two b bMem with rfl | rfl
    · rfl
    · exact absurd same (by decide)
  · rcases two b bMem with rfl | rfl
    · exact absurd same (by decide)
    · rfl

theorem content_eq : ∀ content ∈ (calls ++ [View.Call.render messages (some reply) 9]).flatMap
    View.Call.contents, content = "hello" ∨ content = "See [A]\n\n----\n-- A --\npasted" := by
  decide

/-- The digests tell the contents apart. -/
theorem injOn_digest :
    Set.InjOn digest (View.contentsOf (calls ++ [.render messages (some reply) 9])) :=
  injOn_of_contents content_eq

end Sample

end Scrollback
