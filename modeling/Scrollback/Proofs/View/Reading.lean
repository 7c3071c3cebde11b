import Scrollback.Proofs.Attachment.Distinct
import Scrollback.Proofs.View.Sharing

/-!
What views read through the cache they share.

A pass reads the content of each of its messages that calls no tool, and nothing else, so a
cache that views share is what reading the rows of their passes makes of it
(`Session.cache_run`). While it has room for all their contents, each is parsed once however
often it is rendered and by whichever view, and in whatever order the rows come
(`contents_read_once`).
-/

namespace Scrollback

/-! ### Rows -/

theorem RenderedRow.snd_ofRow (cache : Attachment.Cache) (row : Row) :
    (ofRow cache row).2 = cache.readAll row.readContent?.toList := by
  cases row with
  | stream b continues => rfl
  | message m continues isContinued =>
      cases tool : m.toolName with
      | some name => simp [ofRow, Row.readContent?, Message.readContent?, tool]
      | none =>
          simp only [ofRow, Row.readContent?, Message.readContent?, tool]
          rfl

/-- Rows read their contents in their order. -/
theorem RenderedRow.snd_ofRows (cache : Attachment.Cache) (rows : List Row) :
    (ofRows cache rows).2 = cache.readAll (rows.filterMap Row.readContent?) := by
  induction rows generalizing cache with
  | nil => rfl
  | cons row rest ih =>
      calc (ofRows cache (row :: rest)).2
          = (ofRows (ofRow cache row).2 rest).2 := rfl
        _ = cache.readAll ((row :: rest).filterMap Row.readContent?) := by
            rw [ih, snd_ofRow, ← Attachment.Cache.readAll_append]
            cases read : row.readContent? <;> simp [read]

namespace Session

/-! ### Passes -/

/-- The rows of some passes, in the order in which they were rendered. -/
def rowsOf (passes : List (Nat × Pass)) : List Row :=
  passes.flatMap fun made => made.2.rows.map RenderedRow.row

/-- The contents of the rows of some passes: one for each row of a message that calls no tool. -/
def readsOf (passes : List (Nat × Pass)) : List String :=
  (rowsOf passes).filterMap Row.readContent?

theorem readsOf_append (first second : List (Nat × Pass)) :
    readsOf (first ++ second) = readsOf first ++ readsOf second := by
  rw [readsOf, rowsOf, List.flatMap_append, List.filterMap_append]
  rfl

/-- Whether a call is one on a view, and no access of others to the cache. -/
def Call.IsOwn (call : Call) : Prop :=
  ∀ access, call.action ≠ .elsewhere access

/-- A call on a view reads what is in the rows of the pass it makes, if it makes one. -/
theorem cache_step (s : Session) {call : Call} (own : call.IsOwn) :
    (s.step call).2.cache = s.cache.readAll (readsOf (s.step call).1) := by
  obtain ⟨index, action⟩ := call
  cases action with
  | render messages buffer now =>
      cases found : s.views[index]? with
      | none => simp [step, render?, found, readsOf, rowsOf]
      | some view =>
          have rows : rowsOf (s.step ⟨index, .render messages buffer now⟩).1 =
              view.rowsAt messages buffer := by
            simp [step, render?, found, rowsOf, View.render_eq, RenderedRow.map_row_ofRows]
          have cache : (s.step ⟨index, .render messages buffer now⟩).2.cache =
              (RenderedRow.ofRows s.cache (view.rowsAt messages buffer)).2 := by
            simp [step, render?, found, View.render_eq]
          rw [readsOf, rows, cache, RenderedRow.snd_ofRows]
  | loadOlder =>
      cases found : s.views[index]? with
      | none => simp [step, loadOlder?, found, readsOf, rowsOf]
      | some view => simp [step, loadOlder?, found, readsOf, rowsOf]
  | elsewhere access => exact absurd rfl (own access)

theorem cache_run (s : Session) {calls : List Call} (own : ∀ call ∈ calls, call.IsOwn) :
    (s.run calls).2.cache = s.cache.readAll (readsOf (s.run calls).1) := by
  induction calls generalizing s with
  | nil => rfl
  | cons call rest ih =>
      obtain ⟨first, others⟩ := List.forall_mem_cons.mp own
      calc (s.run (call :: rest)).2.cache
          = ((s.step call).2.run rest).2.cache := rfl
        _ = s.cache.readAll (readsOf ((s.step call).1 ++ ((s.step call).2.run rest).1)) := by
            rw [ih _ others, cache_step s first, ← Attachment.Cache.readAll_append,
              ← readsOf_append]

/-- Some passes read each of their contents once, through a cache that was fresh before them. -/
structure ReadOnce (fresh : Attachment.Cache) (passes : List (Nat × Pass))
    (cache : Attachment.Cache) : Prop where
  /-- The contents of the rows are what was read, in their order. -/
  reads : cache = fresh.readAll (readsOf passes)
  once : ∀ content ∈ readsOf passes, (fresh.missed (readsOf passes)).count content = 1
  parses : cache.stats.parses = (readsOf passes).dedup.length
  hits : cache.stats.hits = (readsOf passes).length - (readsOf passes).dedup.length
  evictions : cache.stats.evictions = 0
  /-- In any other order the rows make the same counts. -/
  order : ∀ rows : List Row, rows.Perm (rowsOf passes) →
    (RenderedRow.ofRows fresh rows).2.stats = cache.stats

/-- While there is room for all contents of some rows, reading them has the same effect on the
counts in any order. -/
theorem stats_ofRows_of_perm {capacity : Nat} {digest : String → String}
    {fresh : Attachment.Cache} (emptied : Attachment.Cache.Emptied capacity digest fresh)
    {rows order : List Row} (perm : order.Perm rows)
    (few : (rows.filterMap Row.readContent?).dedup.length ≤ fresh.capacity)
    (apart : Set.InjOn digest {content | content ∈ rows.filterMap Row.readContent?}) :
    (RenderedRow.ofRows fresh order).2.stats = (RenderedRow.ofRows fresh rows).2.stats := by
  have contents := perm.filterMap Row.readContent?
  have distinct := contents.dedup.length_eq
  have apart' : Set.InjOn digest {content | content ∈ order.filterMap Row.readContent?} :=
    apart.mono fun content mem => contents.mem_iff.mp mem
  rw [RenderedRow.snd_ofRows, RenderedRow.snd_ofRows, emptied.stats_readAll apart few,
    emptied.stats_readAll apart' (distinct ▸ few), contents.length_eq, distinct]

/-- A fresh cache through which the contents of some passes were read has read each of them
once, if it has room for all. -/
theorem readOnce_of_reads {capacity : Nat} {digest : String → String} {cache : Attachment.Cache}
    {passes : List (Nat × Pass)}
    (reads : cache = (Attachment.Cache.ofCapacity capacity digest).readAll (readsOf passes))
    (few : (readsOf passes).dedup.length ≤ max capacity 2)
    (apart : Set.InjOn digest {content | content ∈ readsOf passes}) :
    ReadOnce (.ofCapacity capacity digest) passes cache := by
  have emptied : Attachment.Cache.Emptied capacity digest (.ofCapacity capacity digest) := .made
  have stats := emptied.stats_readAll apart few
  rw [← reads] at stats
  obtain ⟨nodup, mem_iff⟩ := emptied.missed_once apart few
  constructor
  case reads => exact reads
  case once =>
    intro content mem
    exact List.count_eq_one_of_mem nodup ((mem_iff content).mpr mem)
  case parses =>
    rw [stats]
    exact Nat.zero_add _
  case hits =>
    rw [stats]
    exact Nat.zero_add _
  case evictions =>
    rw [stats]
    rfl
  case order =>
    intro order perm
    rw [stats_ofRows_of_perm emptied perm few apart, RenderedRow.snd_ofRows, reads]
    rfl

end Session

/-- Any views, in whatever state, that share a fresh cache with room for all contents of their
passes parse each content once. Every other row of a message that calls no tool is a hit,
nothing is evicted, and the order in which the rows are rendered makes no difference to what is
counted. The digest has to tell the contents apart. -/
theorem contents_read_once (views : List View) (capacity : Nat) (digest : String → String)
    (calls : List Session.Call) (own : ∀ call ∈ calls, call.IsOwn) :
    let fresh := Attachment.Cache.ofCapacity capacity digest
    let made := Session.run ⟨views, fresh⟩ calls
    (Session.readsOf made.1).dedup.length ≤ max capacity 2 →
      Set.InjOn digest {content | content ∈ Session.readsOf made.1} →
        Session.ReadOnce fresh made.1 made.2.cache := by
  intro fresh made few apart
  exact Session.readOnce_of_reads (Session.cache_run ⟨views, fresh⟩ own) few apart

namespace Sample

/-- A view of each of two conversations, before their first passes. -/
def views : List View :=
  openings.map fun (conversation, s) => View.ofSettings conversation s

/-- Two conversations are rendered in turn over growing messages, one of them paged. -/
def ownCalls : List Session.Call :=
  [⟨0, .render (messages.take 3) none 0⟩, ⟨1, .render messages (some reply) 1⟩, ⟨0, .loadOlder⟩,
    ⟨0, .render messages none 2⟩]

theorem readsOf_own :
    Session.readsOf (Session.run ⟨views, .ofCapacity 1 digest⟩ ownCalls).1 =
      ["See [A]\n\n----\n-- A --\npasted", "hello", "See [A]\n\n----\n-- A --\npasted", "hello",
        "See [A]\n\n----\n-- A --\npasted", "hello"] := by
  decide +kernel

end Sample

/-- The rows of the messages that call no tool show two contents in turn, and the cache has room
for two. -/
theorem contents_read_once_sample :
    let fresh := Attachment.Cache.ofCapacity 1 Sample.digest
    let made := Session.run ⟨Sample.views, fresh⟩ Sample.ownCalls
    (∀ call ∈ Sample.ownCalls, call.IsOwn) ∧
      (Session.readsOf made.1).dedup.length ≤ max 1 2 ∧
      Set.InjOn Sample.digest {content | content ∈ Session.readsOf made.1} ∧
      Session.ReadOnce fresh made.1 made.2.cache := by
  dsimp only
  have own : ∀ call ∈ Sample.ownCalls, call.IsOwn := by
    simp [Sample.ownCalls, Session.Call.IsOwn]
  have once := contents_read_once Sample.views 1 Sample.digest Sample.ownCalls own
  dsimp only at once
  have few : (Session.readsOf (Session.run ⟨Sample.views, .ofCapacity 1 Sample.digest⟩
      Sample.ownCalls).1).dedup.length ≤ max 1 2 := by
    rw [Sample.readsOf_own]
    decide +kernel
  have apart : Set.InjOn Sample.digest {content | content ∈ Session.readsOf (Session.run
      ⟨Sample.views, .ofCapacity 1 Sample.digest⟩ Sample.ownCalls).1} := by
    rw [Sample.readsOf_own]
    exact Sample.injOn_of_contents (by simp)
  exact ⟨own, few, apart, once few apart⟩

end Scrollback
