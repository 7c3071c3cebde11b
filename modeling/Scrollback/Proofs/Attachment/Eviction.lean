import Mathlib.Algebra.Order.Floor.Div
import Scrollback.Proofs.Attachment.Accounts

/-!
What is evicted, and when.

The reads that miss since a cache was empty make a log (`missed`), and the log alone says what
the cache holds: nothing of it has been evicted while there was room, then half the capacity at
a time (`evicted`), and what is left are the last misses, in their order (`Logged.readAll`). So
the counts have a closed form, hits change nothing but how often there was one, and a content is
found again for as many misses after its own as half the capacity (`evicted_in_halves`).
-/

namespace Scrollback.Attachment.Cache

/-! ### Reads that miss -/

/-- A cache after some contents have been read. -/
def readAll (c : Cache) (contents : List String) : Cache :=
  c.run (contents.map .read)

@[simp]
theorem readAll_nil (c : Cache) : c.readAll [] = c :=
  rfl

theorem readAll_cons (c : Cache) (content : String) (rest : List String) :
    c.readAll (content :: rest) = (c.read content).2.readAll rest :=
  rfl

theorem readAll_append (c : Cache) (first second : List String) :
    c.readAll (first ++ second) = (c.readAll first).readAll second := by
  rw [readAll, List.map_append, run, List.foldl_append]
  rfl

/-- A content is found in a cache. -/
def Holds (c : Cache) (content : String) : Prop :=
  c.digest content ∈ c.entries

instance (c : Cache) (content : String) : Decidable (c.Holds content) :=
  inferInstanceAs (Decidable (c.digest content ∈ c.entries))

/-- The reads of some contents that do not find them in the cache, in their order. -/
def missed (c : Cache) : List String → List String
  | [] => []
  | content :: rest =>
      if c.Holds content then missed (c.read content).2 rest
      else content :: missed (c.read content).2 rest

theorem missed_append (c : Cache) (first second : List String) :
    c.missed (first ++ second) = c.missed first ++ (c.readAll first).missed second := by
  induction first generalizing c with
  | nil => rfl
  | cons content rest ih =>
      rw [List.cons_append, missed, missed, readAll_cons, ih]
      split
      · rfl
      · rfl

theorem missed_concat (c : Cache) (contents : List String) (content : String) :
    c.missed (contents ++ [content]) =
      c.missed contents ++ if (c.readAll contents).Holds content then [] else [content] := by
  rw [missed_append]
  rfl

theorem missed_sublist (c : Cache) (contents : List String) :
    (c.missed contents).Sublist contents := by
  induction contents generalizing c with
  | nil => exact List.Sublist.refl []
  | cons content rest ih =>
      rw [missed]
      split
      · exact (ih _).cons content
      · exact (ih _).cons_cons content

theorem Holds.exists_read {c : Cache} {content : String} (holds : c.Holds content) :
    ∃ parsed, c.read content =
      (parsed, { c with stats := { c.stats with hits := c.stats.hits + 1 } }) := by
  rw [Holds, Std.HashMap.mem_iff_isSome_getElem?] at holds
  obtain ⟨parsed, found⟩ := Option.isSome_iff_exists.mp holds
  exact ⟨parsed, read_of_hit found⟩

/-- What the order says is found is found. -/
theorem InStep.holds_iff {c : Cache} (inStep : c.InStep) {content : String} :
    c.Holds content ↔ c.digest content ∈ c.order.toList :=
  inStep.mem_entries_iff _

/-! ### Half the capacity at a time -/

/-- How many of some misses have been evicted again: half the capacity at a time, as often as it
takes to make room for those that were too many. -/
def evicted (capacity misses : Nat) : Nat :=
  capacity / 2 * ((misses - capacity) ⌈/⌉ (capacity / 2))

theorem ceilDiv_eq (a : Nat) {b : Nat} (positive : 0 < b) :
    a ⌈/⌉ b = a / b + if a % b = 0 then 0 else 1 := by
  have parts := Nat.div_add_mod a b
  have less := Nat.mod_lt a positive
  rw [Nat.ceilDiv_eq_add_pred_div]
  split
  · rename_i whole
    have eq : a + b - 1 = b - 1 + b * (a / b) := by omega
    rw [eq, Nat.add_mul_div_left _ _ positive, Nat.div_eq_of_lt (by omega), Nat.zero_add]
    rfl
  · rename_i more
    have eq : a + b - 1 = a % b - 1 + b * (a / b + 1) := by
      rw [Nat.mul_succ]
      omega
    rw [eq, Nat.add_mul_div_left _ _ positive, Nat.div_eq_of_lt (by omega), Nat.zero_add]

section Evicted

variable {capacity misses : Nat}

theorem evicted_of_le (room : misses ≤ capacity) : evicted capacity misses = 0 := by
  rw [evicted, Nat.sub_eq_zero_of_le room, zero_ceilDiv, Nat.mul_zero]

/-- More than half the capacity of the last misses is never evicted. -/
theorem evicted_add_half_lt (two : 2 ≤ capacity) (full : capacity < misses) :
    evicted capacity misses + capacity / 2 < misses := by
  have whole := Nat.div_mul_le_self (misses - capacity + capacity / 2 - 1) (capacity / 2)
  rw [evicted, Nat.ceilDiv_eq_add_pred_div, Nat.mul_comm]
  omega

theorem evicted_le (two : 2 ≤ capacity) : evicted capacity misses ≤ misses := by
  by_cases room : misses ≤ capacity
  · rw [evicted_of_le room]
    exact Nat.zero_le _
  · have := evicted_add_half_lt two (Nat.not_le.mp room)
    omega

/-- One more miss evicts half the capacity if as many are left as there is room for. -/
theorem evicted_add_one (two : 2 ≤ capacity) :
    evicted capacity (misses + 1) = evicted capacity misses +
      if capacity ≤ misses - evicted capacity misses then capacity / 2 else 0 := by
  by_cases room : misses < capacity
  · rw [evicted_of_le room, evicted_of_le (Nat.le_of_lt room), if_neg (by omega)]
  · obtain ⟨rest, rfl⟩ := Nat.exists_eq_add_of_le (Nat.not_lt.mp room)
    have positive : 0 < capacity / 2 := by omega
    have parts := Nat.div_add_mod rest (capacity / 2)
    have less := Nat.mod_lt rest positive
    -- Whether the misses past the capacity are whole halves decides both sides.
    have before : evicted capacity (capacity + rest) =
        capacity / 2 * (rest / (capacity / 2)) +
          if rest % (capacity / 2) = 0 then 0 else capacity / 2 := by
      rw [evicted, Nat.add_sub_cancel_left, ceilDiv_eq rest positive, Nat.mul_add]
      split <;> simp
    have after : evicted capacity (capacity + rest + 1) =
        capacity / 2 * (rest / (capacity / 2)) + capacity / 2 := by
      have eq : rest + 1 + capacity / 2 - 1 = rest + capacity / 2 := by omega
      rw [evicted, Nat.add_assoc, Nat.add_sub_cancel_left, Nat.ceilDiv_eq_add_pred_div, eq,
        Nat.add_div_right _ positive, Nat.mul_succ]
    rw [after, before]
    split
    · rw [if_pos (by omega), Nat.add_zero]
    · rw [if_neg (by omega), Nat.add_zero]

example : (List.range 9).map (evicted 5) = [0, 0, 0, 0, 0, 0, 2, 2, 4] := by decide

end Evicted

/-! ### The log of misses -/

/-- A cache that was empty, after some misses: what has not been evicted is there, in the order
of the misses, and every miss has been counted. -/
structure Logged (start : Cache) (log : List String) (c : Cache) : Prop where
  inStep : c.InStep
  digest_eq : c.digest = start.digest
  capacity_eq : c.capacity = start.capacity
  order_eq : c.order.toList =
    (log.drop (evicted start.capacity log.length)).map start.digest
  parses_eq : c.stats.parses = start.stats.parses + log.length
  evictions_eq : c.stats.evictions =
    start.stats.evictions + evicted start.capacity log.length

namespace Logged

variable {start c : Cache} {log : List String}

theorem size_eq (logged : Logged start log c) :
    c.size = log.length - evicted start.capacity log.length := by
  rw [logged.inStep.size_eq, logged.order_eq, List.length_map, List.length_drop]

theorem overflow_eq (logged : Logged start log c) :
    c.overflow = if start.capacity ≤ log.length - evicted start.capacity log.length
      then start.capacity / 2 else 0 := by
  rw [overflow, logged.size_eq, logged.capacity_eq]

/-- A hit leaves the log as it is. -/
theorem read_of_holds (logged : Logged start log c) {content : String}
    (holds : c.Holds content) : Logged start log (c.read content).2 := by
  obtain ⟨parsed, eq⟩ := holds.exists_read
  rw [eq]
  exact { logged with inStep := logged.inStep.recount _ }

/-- A miss goes to the end of the log, and as much is evicted as overflows. -/
theorem read_of_not_holds (logged : Logged start log c) (two : 2 ≤ start.capacity)
    {content : String} (miss : ¬ c.Holds content) :
    Logged start (log ++ [content]) (c.read content).2 := by
  have absent : c.entries[c.digest content]? = none :=
    Std.HashMap.getElem?_eq_none miss
  have length : (log ++ [content]).length = log.length + 1 := List.length_append
  have count : evicted start.capacity (log ++ [content]).length =
      evicted start.capacity log.length + c.overflow := by
    rw [length, evicted_add_one two, logged.overflow_eq]
  have within : evicted start.capacity log.length + c.overflow ≤ log.length := by
    have less := c.overflow_le_size
    have before : evicted start.capacity log.length ≤ log.length := evicted_le two
    rw [logged.size_eq] at less
    omega
  rw [read_of_miss absent]
  constructor
  case inStep => exact (logged.inStep.insert_evict absent c.overflow).recount _
  case digest_eq => exact logged.digest_eq
  case capacity_eq => exact logged.capacity_eq
  case order_eq =>
    rw [count, List.drop_append_of_le_length within]
    simp only [Cache.insert, Array.toList_push, order_evict, logged.order_eq, logged.digest_eq,
      ← List.map_drop, List.drop_drop, List.map_append, List.map_singleton]
  case parses_eq =>
    rw [length, ← Nat.add_assoc, ← logged.parses_eq]
  case evictions_eq =>
    rw [count, ← Nat.add_assoc, ← logged.evictions_eq]

/-- Reading goes on with the log. -/
theorem readAll (logged : Logged start log c) (two : 2 ≤ start.capacity)
    (contents : List String) :
    Logged start (log ++ c.missed contents) (c.readAll contents) := by
  induction contents generalizing c log with
  | nil =>
      rw [missed, List.append_nil]
      exact logged
  | cons content rest ih =>
      rw [missed, readAll_cons]
      split
      · rename_i holds
        exact ih (logged.read_of_holds holds)
      · rename_i miss
        have later := ih (logged.read_of_not_holds two miss)
        rw [List.append_assoc] at later
        exact later

end Logged

/-! ### Empty caches -/

/-- A cache that has just been made, or cleared. -/
inductive Emptied (capacity : Nat) (digest : String → String) : Cache → Prop where
  | made : Emptied capacity digest (ofCapacity capacity digest)
  | cleared (accesses : List Access) :
      Emptied capacity digest ((ofCapacity capacity digest).run accesses).clear

theorem capacity_run (c : Cache) (accesses : List Access) :
    (c.run accesses).capacity = c.capacity := by
  induction accesses generalizing c with
  | nil => rfl
  | cons access rest ih =>
      rw [run_cons, ih]
      cases access with
      | read content => exact capacity_read c content
      | clear => rfl

theorem digest_run (c : Cache) (accesses : List Access) : (c.run accesses).digest = c.digest := by
  induction accesses generalizing c with
  | nil => rfl
  | cons access rest ih =>
      rw [run_cons, ih]
      cases access with
      | read content => exact digest_read c content
      | clear => rfl

namespace Emptied

variable {capacity : Nat} {digest : String → String} {start : Cache}

theorem capacity_eq (emptied : Emptied capacity digest start) :
    start.capacity = max capacity 2 := by
  cases emptied with
  | made => rfl
  | cleared accesses => exact capacity_run _ accesses

theorem digest_eq (emptied : Emptied capacity digest start) : start.digest = digest := by
  cases emptied with
  | made => rfl
  | cleared accesses => exact digest_run _ accesses

theorem faithful (emptied : Emptied capacity digest start) (contents : Set String) :
    start.Faithful contents := by
  cases emptied with
  | made => exact faithful_ofCapacity contents capacity digest
  | cleared accesses => exact faithful_clear contents _

theorem logged (emptied : Emptied capacity digest start) : Logged start [] start := by
  have inStep : start.InStep := by
    cases emptied with
    | made => exact inStep_ofCapacity capacity digest
    | cleared accesses => exact inStep_clear _
  have order : start.order.toList = [] := by
    cases emptied <;> rfl
  constructor
  case inStep => exact inStep
  case digest_eq => rfl
  case capacity_eq => rfl
  case order_eq =>
    rw [order, List.drop_nil]
    rfl
  case parses_eq => rfl
  case evictions_eq =>
    rw [List.length_nil, evicted_of_le (Nat.zero_le _)]
    rfl

end Emptied

/-! ### What is left -/

theorem readsOf_map_read (contents : List String) : readsOf (contents.map .read) = contents := by
  rw [readsOf, List.filterMap_map]
  exact List.filterMap_some

section Found

variable {start c : Cache} {log : List String} {contents : Set String}

/-- When the digest tells the contents apart, what is found are the misses that have not been
evicted. -/
theorem Logged.getElem?_eq_some_iff (logged : Logged start log c) (faithful : c.Faithful contents)
    (apart : Set.InjOn start.digest contents) (among : ∀ content ∈ log, content ∈ contents)
    (key : String) (parsed : Parsed) :
    c.entries[key]? = some parsed ↔
      ∃ content ∈ log.drop (evicted start.capacity log.length),
        start.digest content = key ∧ parsed = Parsed.ofContent content := by
  have mem_iff : key ∈ c.entries ↔
      ∃ content ∈ log.drop (evicted start.capacity log.length), start.digest content = key := by
    rw [logged.inStep.mem_entries_iff, logged.order_eq, List.mem_map]
  -- The entry was read from a content with that digest, and there is only one.
  have source {content : String}
      (kept : content ∈ log.drop (evicted start.capacity log.length))
      (same : start.digest content = key) {parsed : Parsed}
      (found : c.entries[key]? = some parsed) : parsed = Parsed.ofContent content := by
    obtain ⟨other, mem, same', rfl⟩ := faithful key parsed found
    rw [logged.digest_eq] at same'
    rw [apart (among content (List.mem_of_mem_drop kept)) mem (same.trans same'.symm)]
  constructor
  · intro found
    have mem : key ∈ c.entries := by
      rw [Std.HashMap.mem_iff_isSome_getElem?, found]
      rfl
    obtain ⟨content, kept, same⟩ := mem_iff.mp mem
    exact ⟨content, kept, same, source kept same found⟩
  · rintro ⟨content, kept, same, rfl⟩
    have mem := mem_iff.mpr ⟨content, kept, same⟩
    rw [Std.HashMap.mem_iff_isSome_getElem?] at mem
    obtain ⟨parsed, found⟩ := Option.isSome_iff_exists.mp mem
    rw [found, source kept same found]

/-- What a cache holds of the contents are the misses that have not been evicted. -/
theorem Logged.holds_iff (logged : Logged start log c) (apart : Set.InjOn start.digest contents)
    (among : ∀ content ∈ log, content ∈ contents) {content : String} (mem : content ∈ contents) :
    c.Holds content ↔ content ∈ log.drop (evicted start.capacity log.length) := by
  rw [logged.inStep.holds_iff, logged.order_eq, logged.digest_eq, List.mem_map]
  constructor
  · rintro ⟨other, kept, same⟩
    rw [← apart (among other (List.mem_of_mem_drop kept)) mem same]
    exact kept
  · intro kept
    exact ⟨content, kept, rfl⟩

/-- A content is read from the cache, which changes nothing but the count of hits. -/
def Hits (c : Cache) (content : String) : Prop :=
  c.read content =
    (Parsed.ofContent content, { c with stats := { c.stats with hits := c.stats.hits + 1 } })

/-- A miss that has been followed by no more than half the capacity is still there. -/
theorem mem_drop_evicted {capacity : Nat} (two : 2 ≤ capacity) {earlier later : List String}
    (content : String) (recent : later.length ≤ capacity / 2) :
    let log := earlier ++ content :: later
    content ∈ log.drop (evicted capacity log.length) := by
  intro log
  have length : log.length = earlier.length + (later.length + 1) := List.length_append
  have before : evicted capacity log.length ≤ earlier.length := by
    by_cases room : log.length ≤ capacity
    · rw [evicted_of_le room]
      exact Nat.zero_le _
    · have := evicted_add_half_lt two (Nat.not_le.mp room)
      omega
  rw [List.drop_append_of_le_length before]
  exact List.mem_append_right _ List.mem_cons_self

/-- What a cache has counted and what it holds after some misses since it was empty. -/
structure KeepsLast (start : Cache) (log : List String) (c : Cache) : Prop where
  parses : c.stats.parses = start.stats.parses + log.length
  evictions : c.stats.evictions = start.stats.evictions + evicted start.capacity log.length
  size : c.size = log.length - evicted start.capacity log.length
  /-- The last misses are there, in their order. -/
  order : c.order.toList = (log.drop (evicted start.capacity log.length)).map start.digest
  /-- Nothing else is there, and each of them with what is in its content. -/
  entries : ∀ key parsed, c.entries[key]? = some parsed ↔
    ∃ content ∈ log.drop (evicted start.capacity log.length),
      start.digest content = key ∧ parsed = Parsed.ofContent content
  hits : ∀ content ∈ log.drop (evicted start.capacity log.length), c.Hits content
  recent : ∀ earlier content later, log = earlier ++ content :: later →
    later.length ≤ start.capacity / 2 → c.Hits content

theorem Logged.keepsLast (logged : Logged start log c) (two : 2 ≤ start.capacity)
    (faithful : c.Faithful contents) (apart : Set.InjOn start.digest contents)
    (among : ∀ content ∈ log, content ∈ contents) : KeepsLast start log c := by
  have found_iff := logged.getElem?_eq_some_iff faithful apart among
  have hits : ∀ content ∈ log.drop (evicted start.capacity log.length), c.Hits content := by
    intro content kept
    refine read_of_hit ?_
    rw [logged.digest_eq]
    exact (found_iff _ _).mpr ⟨content, kept, rfl, rfl⟩
  constructor
  case parses => exact logged.parses_eq
  case evictions => exact logged.evictions_eq
  case size => exact logged.size_eq
  case order => exact logged.order_eq
  case entries => exact found_iff
  case hits => exact hits
  case recent =>
    rintro earlier content later rfl recent
    exact hits content (mem_drop_evicted two content recent)

end Found

/-! ### Reading since the cache was empty -/

section Emptied

variable {capacity : Nat} {digest : String → String} {start : Cache} {contents : List String}

theorem Emptied.two_le (emptied : Emptied capacity digest start) : 2 ≤ start.capacity := by
  rw [emptied.capacity_eq]
  exact Nat.le_max_right capacity 2

theorem Emptied.logged_readAll (emptied : Emptied capacity digest start)
    (contents : List String) :
    Logged start (start.missed contents) (start.readAll contents) :=
  emptied.logged.readAll emptied.two_le contents

theorem Emptied.faithful_readAll (emptied : Emptied capacity digest start)
    (contents : List String) :
    (start.readAll contents).Faithful {content | content ∈ contents} := by
  refine (emptied.faithful _).run ?_
  rw [readsOf_map_read]
  exact fun content mem => mem

/-- A read misses or hits. -/
theorem hits_readAll (c : Cache) (contents : List String) :
    (c.readAll contents).stats.hits + (c.missed contents).length =
      c.stats.hits + contents.length := by
  induction contents generalizing c with
  | nil => rfl
  | cons content rest ih =>
      have later := ih (c.read content).2
      rw [readAll_cons, missed]
      split
      · rename_i holds
        obtain ⟨parsed, eq⟩ := holds.exists_read
        rw [later, eq, List.length_cons]
        exact Nat.add_right_comm _ _ _
      · rename_i miss
        have absent : c.entries[c.digest content]? = none :=
          Std.HashMap.getElem?_eq_none miss
        rw [List.length_cons, ← Nat.add_assoc, later, read_of_miss absent]
        rfl

/-- Whatever is read after a cache was made or cleared, the misses say what it holds and what it
has counted: with room for `n` contents, `p` misses evict `n / 2` contents at a time, as often as
`(p - n) / (n / 2)` rounded up, and the last misses that have not been evicted are there, in
their order. So a content is found as long as it has been followed by no more than `n / 2`
misses since its own. Every other read is a hit. The digest has to tell the contents apart. -/
theorem evicted_in_halves (emptied : Emptied capacity digest start) (contents : List String)
    (apart : Set.InjOn digest {content | content ∈ contents}) :
    start.capacity = max capacity 2 ∧
      KeepsLast start (start.missed contents) (start.readAll contents) ∧
      (start.readAll contents).stats.hits + (start.missed contents).length =
        start.stats.hits + contents.length := by
  refine ⟨emptied.capacity_eq, ?_, hits_readAll start contents⟩
  refine (emptied.logged_readAll contents).keepsLast emptied.two_le
    (emptied.faithful_readAll contents) (emptied.digest_eq ▸ apart) ?_
  intro content mem
  exact (missed_sublist start contents).subset mem

/-- A cache with room for two that has been cleared, and three contents read in turn. -/
theorem evicted_in_halves_sample :
    let start := ((ofCapacity 1 Sample.digest).run Sample.accesses).clear
    let contents := readsOf Sample.accesses
    Emptied 1 Sample.digest start ∧ Set.InjOn Sample.digest {content | content ∈ contents} ∧
      start.capacity = 2 ∧
      KeepsLast start (start.missed contents) (start.readAll contents) ∧
      (start.readAll contents).stats.hits + (start.missed contents).length =
        start.stats.hits + contents.length := by
  intro start contents
  have emptied : Emptied 1 Sample.digest start := .cleared Sample.accesses
  exact ⟨emptied, Sample.injOn_digest,
    evicted_in_halves emptied contents Sample.injOn_digest⟩

end Emptied

end Scrollback.Attachment.Cache
