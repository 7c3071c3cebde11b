import Scrollback.Proofs.Sorting

/-!
Reports on events in any order.

A report puts the messages of its conversation in order before anything else is done with
them. So it makes no difference how a file lists its events, as long as each has an identity
of its own and the conversation is asked for by name: by the same clock the same lines are
printed, and the same events are skipped (`run_of_perm`).
-/

namespace Scrollback

/-- A message has the identity of its event. -/
theorem Event.id_of_toMessage {e : Event} {m : Message} (read : e.toMessage = .ok m) :
    m.id = e.id := by
  simp only [toMessage] at read
  split at read
  · cases read
  · cases read
    rfl

namespace Report

/-! ### Events in another order -/

theorem messagesOf_perm {first second : List Event} (perm : first.Perm second) :
    (messagesOf first).Perm (messagesOf second) :=
  perm.filterMap _

theorem skippedOf_perm {first second : List Event} (perm : first.Perm second) :
    (skippedOf first).Perm (skippedOf second) :=
  perm.filterMap _

/-- The identities of the messages are those of their events, in the same order. -/
theorem sublist_id_messagesOf (events : List Event) :
    ((messagesOf events).map Message.id).Sublist (events.map Event.id) := by
  induction events with
  | nil => exact .slnil
  | cons e rest ih =>
      rw [messagesOf, List.filterMap_cons, List.map_cons]
      cases read : e.toMessage with
      | error error => exact ih.cons _
      | ok m =>
          have same : m.id = e.id := Event.id_of_toMessage read
          simp only [Except.toOption, List.map_cons, same]
          exact ih.cons_cons _

/-- Messages with identities of their own make one thread, however they are listed. -/
theorem thread_eq_of_perm (conversation : String) {first second : List Message}
    (perm : first.Perm second) (distinct : (first.map Message.id).Nodup) :
    thread conversation first = thread conversation second := by
  apply Message.sort_eq_of_perm (perm.filter _)
  exact distinct.sublist (List.filter_sublist.map Message.id)

/-! ### The other files -/

theorem readList_congr {α : Type} {files' files : Files} {path : String}
    (same : files' path = files path) (read : Json → Option α) :
    readList files' path read = readList files path read := by
  rw [readList, readList, same]

/-- Files and options that may differ from others in the events, and in nothing else. -/
structure SameBesideEvents (files' files : Files) (o' o : Options) : Prop where
  options : o' = { o with events := o'.events }
  files : ∀ path, some path ∈ [o.settings, o.chunks, o.agents] → files' path = files path

namespace SameBesideEvents

variable {files' files : Files} {o' o : Options}

theorem readList_eq {α : Type} (same : SameBesideEvents files' files o' o) {path : String}
    (named : some path ∈ [o.settings, o.chunks, o.agents]) (read : Json → Option α) :
    readList files' path read = readList files path read :=
  readList_congr (same.files path named) read

theorem readSettings_eq (same : SameBesideEvents files' files o' o) :
    readSettings files' o' = readSettings files o := by
  rw [same.options]
  unfold readSettings
  cases settings : o.settings with
  | none => rfl
  | some path =>
      have text : files' path = files path := same.files path (by simp [settings])
      simp only [text]

theorem readFeed_eq (same : SameBesideEvents files' files o' o) (messages : List Message) :
    readFeed files' o' messages = readFeed files o messages := by
  rw [same.options]
  unfold readFeed
  cases chunks : o.chunks with
  | none => rfl
  | some path =>
      have named : some path ∈ [o.settings, o.chunks, o.agents] := by simp [chunks]
      have list := same.readList_eq named (Stream.Chunk.ofJson? (Json.maxLevels - 1))
      simp only [list]

theorem readAgents_eq (same : SameBesideEvents files' files o' o) (messages : List Message) :
    readAgents files' o' messages = readAgents files o messages := by
  rw [same.options]
  unfold readAgents
  cases agents : o.agents with
  | none => rfl
  | some path => exact same.readList_eq (by simp [agents]) Agent.ofJson?

/-- What is printed about a conversation that is asked for by name depends on the order of
its messages alone. -/
theorem print_eq (same : SameBesideEvents files' files o' o) (clock : Nat → Clock)
    {conversation : String} (asked : o.conversation = some conversation) (s : Settings)
    {second first : List Message} (perm : second.Perm first)
    (distinct : (second.map Message.id).Nodup) :
    print clock files' o' s second = print clock files o s first := by
  have asked' : o'.conversation = some conversation := by rw [same.options, asked]
  have query : o'.query = o.query := by rw [same.options]
  have loadOlder : o'.loadOlder = o.loadOlder := by rw [same.options]
  have thread := thread_eq_of_perm conversation perm distinct
  simp only [print, Report.conversation, asked', asked, thread, same.readFeed_eq,
    same.readAgents_eq, query, loadOlder]

end SameBesideEvents

/-! ### Runs -/

/-- A run that has its settings and its events. -/
theorem run_eq_ofEvents (clock : Nat → Clock) {files : Files} {arguments : List String}
    {o : Options} {s : Settings} {events : List Event}
    (read : CommandLine.read arguments = .run o) (settings : readSettings files o = .ok s)
    (listed : readList files o.events Event.ofJson? = .ok events) :
    run clock files arguments = ofEvents clock files o s events := by
  simp only [run, read, runWith, settings, listed]

/-- A run that does not get its settings. -/
theorem run_eq_failed (clock : Nat → Clock) {files : Files} {arguments : List String}
    {o : Options} {failure : Failure} (read : CommandLine.read arguments = .run o)
    (settings : readSettings files o = .error failure) :
    run clock files arguments = .failed failure := by
  simp only [run, read, runWith, settings]

/-- Two runs that are asked for one conversation by name, over events with identities of
their own that two files list in any order: they print the same by the same clock, end the
same way and skip the same events. -/
theorem run_of_perm (clock : Nat → Clock) {files' files : Files}
    {arguments' arguments : List String} {o' o : Options} {conversation : String}
    {events' events : List Event}
    (read' : CommandLine.read arguments' = .run o') (read : CommandLine.read arguments = .run o)
    (same : SameBesideEvents files' files o' o) (asked : o.conversation = some conversation)
    (listed' : readList files' o'.events Event.ofJson? = .ok events')
    (listed : readList files o.events Event.ofJson? = .ok events)
    (perm : events'.Perm events) (distinct : (events.map Event.id).Nodup) :
    (run clock files' arguments').output = (run clock files arguments).output ∧
      (run clock files' arguments').exitCode = (run clock files arguments).exitCode ∧
      (run clock files' arguments').failure = (run clock files arguments).failure ∧
      (run clock files' arguments').skipped.Perm (run clock files arguments).skipped := by
  cases settings : readSettings files o with
  | error failure =>
      have settings' := same.readSettings_eq.trans settings
      rw [run_eq_failed clock read' settings', run_eq_failed clock read settings]
      exact ⟨rfl, rfl, rfl, .refl _⟩
  | ok s =>
      have settings' := same.readSettings_eq.trans settings
      have distinct' : ((messagesOf events').map Message.id).Nodup :=
        ((perm.map Event.id).nodup_iff.mpr distinct).sublist (sublist_id_messagesOf events')
      have printed := same.print_eq clock asked s (messagesOf_perm perm) distinct'
      rw [run_eq_ofEvents clock read' settings' listed',
        run_eq_ofEvents clock read settings listed, ofEvents, ofEvents, printed]
      exact ⟨rfl, rfl, rfl, skippedOf_perm perm⟩

/-! ### A directory with one list of events and its reverse -/

namespace Sample

/-- A clock an hour ahead of UTC, a minute later at each row. -/
def clock : Nat → Clock := fun row =>
  .inZone (fun _ => 3600) (60 * row)

/-- The records of two messages of one time, beyond the calendar, and of an event that is no
message. -/
def records : List String :=
  ["\x7b\"id\":\"m1\",\"pubkey\":\"agent\",\"content\":\"Hi\"," ++
      "\"created_at\":9000000000000,\"tags\":[[\"e\",\"conv\"]]\x7d",
    "\x7b\"id\":\"m0\",\"pubkey\":\"user\",\"created_at\":9000000000000," ++
      "\"tags\":[[\"e\",\"conv\",\"\",\"root\"],[\"tool\",\"ls\"]]\x7d",
    "\x7b\"id\":\"stray\",\"pubkey\":\"user\"\x7d"]

def events : List Event :=
  [⟨"m1", "agent", "Hi", 9000000000000, [["e", "conv"]]⟩,
    ⟨"m0", "user", "", 9000000000000, [["e", "conv", "", "root"], ["tool", "ls"]]⟩,
    ⟨"stray", "user", "", 0, []⟩]

def files : Files := fun path =>
  [("events", "[" ++ ",".intercalate records ++ "]"),
    ("reversed", "[" ++ ",".intercalate records.reverse ++ "]")].lookup path

theorem readList_events : readList files "events" Event.ofJson? = .ok events := by
  decide +kernel

def options (path : String) : Options :=
  { events := path, conversation := some "conv", query := some "us" }

def arguments (path : String) : List String :=
  [path, "--conversation", "conv", "--query=us"]

end Sample

theorem run_of_perm_sample :
    CommandLine.read (Sample.arguments "reversed") = .run (Sample.options "reversed") ∧
      CommandLine.read (Sample.arguments "events") = .run (Sample.options "events") ∧
      SameBesideEvents Sample.files Sample.files (Sample.options "reversed")
        (Sample.options "events") ∧
      (Sample.options "events").conversation = some "conv" ∧
      readList Sample.files "reversed" Event.ofJson? = .ok Sample.events.reverse ∧
      readList Sample.files "events" Event.ofJson? = .ok Sample.events ∧
      Sample.events.reverse.Perm Sample.events ∧
      (Sample.events.map Event.id).Nodup ∧
      let second := run Sample.clock Sample.files (Sample.arguments "reversed")
      let first := run Sample.clock Sample.files (Sample.arguments "events")
      second.output = first.output ∧ second.exitCode = first.exitCode ∧
        second.failure = first.failure ∧ second.skipped.Perm first.skipped := by
  have read' : CommandLine.read (Sample.arguments "reversed") =
    .run (Sample.options "reversed") := by decide
  have read : CommandLine.read (Sample.arguments "events") = .run (Sample.options "events") := by
    decide
  have same : SameBesideEvents Sample.files Sample.files (Sample.options "reversed")
    (Sample.options "events") := ⟨rfl, fun _ _ => rfl⟩
  have listed' : readList Sample.files "reversed" Event.ofJson? = .ok Sample.events.reverse := by
    decide +kernel
  have perm : Sample.events.reverse.Perm Sample.events := List.reverse_perm _
  have distinct : (Sample.events.map Event.id).Nodup := by decide
  exact ⟨read', read, same, rfl, listed', Sample.readList_events, perm, distinct,
    run_of_perm Sample.clock read' read same rfl listed' Sample.readList_events perm distinct⟩

end Report

end Scrollback
