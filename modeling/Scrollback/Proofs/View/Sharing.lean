import Scrollback.Proofs.View.Run

/-!
Views that share a cache.

Any number of views may read through one cache, in any order. What one view makes the
cache remember or forget never shows in another: the passes of a view are those that it
makes alone, on its own calls and with a cache of its own (`passes_shared`).
-/

namespace Scrollback

namespace View

/-! ### A view without a cache -/

/-- What a call makes of a view. The cache has no part in it. -/
def act (v : View) : Call → View
  | .render messages buffer now => (v.followAt messages buffer now).2
  | .loadOlder => v.loadOlder.2
  | .elsewhere _ => v

/-- A pass when everything is read afresh. -/
def freshPass (v : View) (messages : List Message) (buffer : Option Stream.Buffer) (now : Nat) :
    Pass :=
  ⟨(v.rowsAt messages buffer).map .fresh, (v.windowAt messages).hidden,
    (v.followAt messages buffer now).1⟩

/-- The pass that a call makes when everything is read afresh, if it makes one. -/
def freshPass? (v : View) : Call → Option Pass
  | .render messages buffer now => some (v.freshPass messages buffer now)
  | .loadOlder => none
  | .elsewhere _ => none

/-- The passes that some calls make when everything is read afresh. -/
def freshPasses (v : View) : List Call → List Pass
  | [] => []
  | call :: rest => (v.freshPass? call).toList ++ (v.act call).freshPasses rest

theorem window_follow (v : View) (bottom : Option RowKey) (change : WindowChange)
    (buffer : Option Stream.Buffer) (now : Nat) :
    (v.follow bottom change buffer now).2.window = v.window := by
  unfold follow
  dsimp only
  split
  · rfl
  · split
    · rfl
    · rfl
    · rfl
    · split
      · rfl
      · rfl

theorem bounded_act {v : View} (bounded : v.window.Bounded) (call : Call) :
    (v.act call).window.Bounded := by
  cases call with
  | render messages buffer now =>
      have window : (v.followAt messages buffer now).2.window = v.windowAt messages :=
        window_follow _ _ _ _ _
      rw [act, window]
      exact bounded.sync messages.length
  | loadOlder => exact bounded.loadOlder
  | elsewhere access => exact bounded

/-- Through a faithful cache a pass is what it is when everything is read afresh, and the
cache stays faithful. -/
theorem render_faithful {v : View} {cache : Attachment.Cache} {contents : Set String}
    {messages : List Message} {buffer : Option Stream.Buffer} {now : Nat}
    (bounded : v.window.Bounded) (faithful : cache.Faithful contents)
    (apart : Set.InjOn cache.digest contents)
    (used : contentsOf [.render messages buffer now] ⊆ contents) :
    ∃ after : Attachment.Cache, after.Faithful contents ∧ after.digest = cache.digest ∧
      v.render cache messages buffer now =
        (v.freshPass messages buffer now, v.act (.render messages buffer now), after) := by
  obtain ⟨rows, kept, same⟩ := ofRows_rowsAt bounded faithful apart used
  refine ⟨_, kept, same, ?_⟩
  rw [render_eq, rows]
  rfl

end View

namespace Viewing

/-- The passes that were made, in their order. -/
def passes (u : Viewing) : List Pass :=
  u.records.reverse.map (·.pass)

variable {contents : Set String} {conversation : String} {s : Settings} {u : Viewing}

theorem view_step (u : Viewing) (call : View.Call) : (u.step call).view = u.view.act call := by
  cases call with
  | render messages buffer now => rfl
  | loadOlder => rfl
  | elsewhere access => rfl

theorem passes_step_render (u : Viewing) (messages : List Message)
    (buffer : Option Stream.Buffer) (now : Nat) :
    (u.step (.render messages buffer now)).passes =
      u.passes ++ [(u.view.render u.cache messages buffer now).1] := by
  simp [passes, Viewing.step]

/-- A view in a sound state makes the passes that it makes without a cache. -/
theorem Sound.passes_step (sound : u.Sound contents conversation s) {call : View.Call}
    (used : View.contentsOf [call] ⊆ contents) :
    (u.step call).passes = u.passes ++ (u.view.freshPass? call).toList := by
  cases call with
  | render messages buffer now =>
      obtain ⟨after, -, -, rendered⟩ :=
        View.render_faithful sound.bounded sound.faithful sound.apart used
      rw [passes_step_render, rendered]
      rfl
  | loadOlder => exact (List.append_nil _).symm
  | elsewhere access => exact (List.append_nil _).symm

theorem Sound.passes_run (sound : u.Sound contents conversation s) {calls : List View.Call}
    (used : View.contentsOf calls ⊆ contents) :
    (u.run calls).passes = u.passes ++ u.view.freshPasses calls := by
  induction calls generalizing u with
  | nil => exact (List.append_nil _).symm
  | cons call rest ih =>
      have union := View.contentsOf_append [call] rest
      obtain ⟨callUsed, restUsed⟩ := Set.union_subset_iff.mp (union ▸ used)
      have later := ih (sound.step callUsed) restUsed
      rw [sound.passes_step callUsed, view_step, List.append_assoc] at later
      exact later

end Viewing

namespace Session

/-- A call on one of the views, or an access of others to the cache. -/
structure Call where
  index : Nat
  action : View.Call

/-- The calls on the view at an index. -/
def own (index : Nat) (calls : List Call) : List View.Call :=
  (calls.filter (·.index == index)).map (·.action)

/-- The contents that some calls may read through the cache. -/
def contentsOf (calls : List Call) : Set String :=
  View.contentsOf (calls.map (·.action))

/-- New views of some conversations, each with its settings, and the cache they share. -/
def start (openings : List (String × Settings)) (cache : Attachment.Cache) : Session :=
  ⟨openings.map fun opening => .ofSettings opening.1 opening.2, cache⟩

/-- The pass that a call makes, if it makes one, with the index of its view, and what comes
after it. A call on a view that is not there does nothing. -/
def step (s : Session) (call : Call) : List (Nat × Pass) × Session :=
  match call.action with
  | .render messages buffer now =>
      match s.render? call.index messages buffer now with
      | some (pass, s) => ([(call.index, pass)], s)
      | none => ([], s)
  | .loadOlder =>
      match s.loadOlder? call.index with
      | some (_, s) => ([], s)
      | none => ([], s)
  | .elsewhere access => ([], { s with cache := s.cache.access access })

/-- The passes that some calls make, and what comes after them. -/
def run (s : Session) : List Call → List (Nat × Pass) × Session
  | [] => ([], s)
  | call :: rest =>
      let (made, s) := s.step call
      let (later, s) := s.run rest
      (made ++ later, s)

/-- The passes of the view at an index. -/
def passesOf (index : Nat) (passes : List (Nat × Pass)) : List Pass :=
  (passes.filter (·.1 == index)).map (·.2)

theorem passesOf_append (index : Nat) (first second : List (Nat × Pass)) :
    passesOf index (first ++ second) = passesOf index first ++ passesOf index second := by
  rw [passesOf, List.filter_append, List.map_append]
  rfl

/-! ### One call -/

/-- The windows of the views are bounded, and the cache is faithful to some contents and
tells them apart. -/
structure Sound (contents : Set String) (s : Session) : Prop where
  bounded : ∀ view ∈ s.views, view.window.Bounded
  faithful : s.cache.Faithful contents
  apart : Set.InjOn s.cache.digest contents

variable {contents : Set String} {s : Session}

/-- What a call can do: it acts on its view, if that is there, and makes the pass that the
view makes without a cache. The cache stays faithful. -/
theorem Sound.exists_step (sound : s.Sound contents) {call : Call}
    (used : View.contentsOf [call.action] ⊆ contents) :
    ∃ cache : Attachment.Cache, cache.Faithful contents ∧ cache.digest = s.cache.digest ∧
      s.step call = match s.views[call.index]? with
        | none => ([], ⟨s.views, cache⟩)
        | some view => (((view.freshPass? call.action).map (call.index, ·)).toList,
            ⟨s.views.set call.index (view.act call.action), cache⟩) := by
  obtain ⟨index, action⟩ := call
  cases action with
  | render messages buffer now =>
      cases found : s.views[index]? with
      | none =>
          refine ⟨s.cache, sound.faithful, rfl, ?_⟩
          simp [step, render?, found]
      | some view =>
          obtain ⟨after, kept, same, rendered⟩ := View.render_faithful
            (sound.bounded view (List.mem_of_getElem? found)) sound.faithful sound.apart used
          refine ⟨after, kept, same, ?_⟩
          simp [step, render?, found, rendered, View.freshPass?]
  | loadOlder =>
      refine ⟨s.cache, sound.faithful, rfl, ?_⟩
      cases found : s.views[index]? with
      | none => simp [step, loadOlder?, found]
      | some view => simp [step, loadOlder?, found, View.act, View.freshPass?]
  | elsewhere access =>
      obtain ⟨kept, same⟩ := View.access_elsewhere sound.faithful used
      refine ⟨s.cache.access access, kept, same, ?_⟩
      cases found : s.views[index]? with
      | none => rfl
      | some view =>
          obtain ⟨within, rfl⟩ := List.getElem?_eq_some_iff.mp found
          simp [step, View.act, View.freshPass?]

theorem Sound.step (sound : s.Sound contents) {call : Call}
    (used : View.contentsOf [call.action] ⊆ contents) : (s.step call).2.Sound contents := by
  obtain ⟨cache, kept, same, stepped⟩ := sound.exists_step used
  rw [stepped]
  cases found : s.views[call.index]? with
  | none => exact ⟨sound.bounded, kept, same ▸ sound.apart⟩
  | some view =>
      refine ⟨?_, kept, same ▸ sound.apart⟩
      intro other mem
      rcases List.mem_or_eq_of_mem_set mem with old | rfl
      · exact sound.bounded other old
      · exact View.bounded_act (sound.bounded view (List.mem_of_getElem? found)) call.action

/-- A call on one view leaves the others as they are. -/
theorem Sound.getElem?_step (sound : s.Sound contents) {call : Call}
    (used : View.contentsOf [call.action] ⊆ contents) {index : Nat} {view : View}
    (there : s.views[index]? = some view) :
    (s.step call).2.views[index]? =
      some (if call.index = index then view.act call.action else view) := by
  obtain ⟨cache, -, -, stepped⟩ := sound.exists_step used
  rw [stepped]
  by_cases named : call.index = index
  · subst named
    obtain ⟨within, -⟩ := List.getElem?_eq_some_iff.mp there
    simp only [there, if_true]
    exact List.getElem?_set_self within
  · cases found : s.views[call.index]? with
    | none => simp [there, named]
    | some other => simp [there, named]

theorem Sound.passesOf_step (sound : s.Sound contents) {call : Call}
    (used : View.contentsOf [call.action] ⊆ contents) {index : Nat} {view : View}
    (there : s.views[index]? = some view) :
    passesOf index (s.step call).1 =
      if call.index = index then (view.freshPass? call.action).toList else [] := by
  obtain ⟨cache, -, -, stepped⟩ := sound.exists_step used
  rw [stepped]
  by_cases named : call.index = index
  · subst named
    simp only [there]
    cases view.freshPass? call.action with
    | none => rfl
    | some pass => simp [passesOf]
  · cases found : s.views[call.index]? with
    | none => simp [passesOf, named]
    | some other =>
        cases made : other.freshPass? call.action with
        | none => simp [passesOf, named, made]
        | some pass => simp [passesOf, named, made]

/-! ### Any number of calls -/

theorem own_cons (index : Nat) (call : Call) (rest : List Call) :
    own index (call :: rest) =
      if call.index = index then call.action :: own index rest else own index rest := by
  by_cases named : call.index = index
  · simp [own, named]
  · simp [own, named]

theorem contentsOf_own_subset (index : Nat) (calls : List Call) :
    View.contentsOf (own index calls) ⊆ contentsOf calls := by
  rintro content mem
  obtain ⟨action, actionMem, read⟩ := List.mem_flatMap.mp mem
  obtain ⟨call, callMem, rfl⟩ := List.mem_map.mp actionMem
  exact List.mem_flatMap.mpr
    ⟨call.action, List.mem_map_of_mem (List.mem_filter.mp callMem).1, read⟩

/-- The passes of a view among others are those that it makes without a cache. -/
theorem Sound.passesOf_run (sound : s.Sound contents) {calls : List Call}
    (used : contentsOf calls ⊆ contents) {index : Nat} {view : View}
    (there : s.views[index]? = some view) :
    passesOf index (s.run calls).1 = view.freshPasses (own index calls) := by
  induction calls generalizing s view with
  | nil => rfl
  | cons call rest ih =>
      have both : View.contentsOf [call.action] ∪ contentsOf rest ⊆ contents := by
        rw [contentsOf, ← View.contentsOf_append]
        exact used
      obtain ⟨callUsed, restUsed⟩ := Set.union_subset_iff.mp both
      have later := ih (sound.step callUsed) restUsed (sound.getElem?_step callUsed there)
      have made := sound.passesOf_step callUsed there
      calc passesOf index (s.run (call :: rest)).1
          = passesOf index (s.step call).1 ++ passesOf index ((s.step call).2.run rest).1 :=
            passesOf_append index _ _
        _ = view.freshPasses (own index (call :: rest)) := by
            rw [made, later, own_cons]
            split
            · rfl
            · rfl

theorem sound_start {digest : String → String} (apart : Set.InjOn digest contents)
    (openings : List (String × Settings)) (capacity : Nat) :
    (start openings (.ofCapacity capacity digest)).Sound contents where
  bounded := by
    intro view mem
    obtain ⟨opening, -, rfl⟩ := List.mem_map.mp mem
    exact Window.bounded_ofSettings opening.2
  faithful := Attachment.Cache.faithful_ofCapacity contents capacity digest
  apart := apart

end Session

namespace Sample

/-- Two conversations that are open at once, one of them with a wider window. -/
def openings : List (String × Settings) :=
  [("conv", settings), ("other", {})]

/-- The two are rendered in turn over growing messages, paged, and the cache is cleared. -/
def sharedCalls : List Session.Call :=
  [⟨0, .render (messages.take 3) none 0⟩, ⟨1, .render messages (some reply) 1⟩, ⟨0, .loadOlder⟩,
    ⟨1, .elsewhere .clear⟩, ⟨0, .render messages (some reply) 2⟩, ⟨1, .render messages none 3⟩]

theorem injOn_shared : Set.InjOn digest (Session.contentsOf sharedCalls) := by
  have two : ∀ content ∈ (sharedCalls.map (·.action)).flatMap View.Call.contents,
      content = "hello" ∨ content = "See [A]\n\n----\n-- A --\npasted" := by
    decide
  exact injOn_of_contents two

end Sample

/-- Among any number of views that share a cache, each makes the passes that it makes alone
on its own calls, with a cache of its own and of any other capacity, as long as the digest
tells the contents apart. -/
theorem passes_shared (openings : List (String × Settings)) (capacity other : Nat)
    (digest : String → String) (calls : List Session.Call)
    (apart : Set.InjOn digest (Session.contentsOf calls)) {index : Nat} {conversation : String}
    {s : Settings} (opened : openings[index]? = some (conversation, s)) :
    Session.passesOf index ((Session.start openings (.ofCapacity capacity digest)).run calls).1 =
      ((Viewing.start conversation s (.ofCapacity other digest)).run
        (Session.own index calls)).passes := by
  have there : (Session.start openings (.ofCapacity capacity digest)).views[index]? =
      some (.ofSettings conversation s) := by
    simp [Session.start, opened]
  have among := (Session.sound_start apart openings capacity).passesOf_run subset_rfl there
  have alone := (Viewing.sound_start apart conversation s other).passes_run
    (Session.contentsOf_own_subset index calls)
  rw [among, alone]
  rfl

/-- The first of two views that share a cache with room for two contents, and the same view
alone with room for eighty. -/
theorem passes_shared_sample :
    Set.InjOn Sample.digest (Session.contentsOf Sample.sharedCalls) ∧
      Sample.openings[0]? = some ("conv", Sample.settings) ∧
      Session.passesOf 0 ((Session.start Sample.openings (.ofCapacity 2 Sample.digest)).run
          Sample.sharedCalls).1 =
        ((Viewing.start "conv" Sample.settings (.ofCapacity 80 Sample.digest)).run
          (Session.own 0 Sample.sharedCalls)).passes :=
  ⟨Sample.injOn_shared, rfl, passes_shared Sample.openings 2 80 Sample.digest Sample.sharedCalls
    Sample.injOn_shared rfl⟩

end Scrollback
