import Mathlib.Data.List.Nodup
import Scrollback.Proofs.Attachment.Cache

/-!
What a cache holds and what it counts.

A cache keeps its entries and their order apart, and reading, eviction and clearing
change the two one after the other. They stay *in step* all the same (`InStep.run`): the
same digests are in both, each of them once, and there are no more of them than the
capacity allows. What is counted adds up: every read is a hit or a parse, and everything
that was parsed is still there, has been evicted or has been cleared (`accounts_run`).
-/

namespace Scrollback.Attachment.Cache

/-! ### Runs -/

/-- The contents that some accesses read, in their order. -/
def readsOf (accesses : List Access) : List String :=
  accesses.filterMap Access.content?

/-- A cache after some accesses. -/
def run (c : Cache) (accesses : List Access) : Cache :=
  accesses.foldl access c

theorem run_cons (c : Cache) (access : Access) (rest : List Access) :
    c.run (access :: rest) = (c.access access).run rest :=
  rfl

/-- What a cache answers to the reads among some accesses. -/
def answers (c : Cache) : List Access → List Parsed
  | [] => []
  | .read content :: rest => (c.read content).1 :: answers (c.read content).2 rest
  | .clear :: rest => answers c.clear rest

/-- How many entries are removed by the clearings among some accesses. -/
def cleared (c : Cache) : List Access → Nat
  | [] => 0
  | .read content :: rest => cleared (c.read content).2 rest
  | .clear :: rest => c.size + cleared c.clear rest

/-! ### What making room does -/

/-- How many contents make room for the next one. -/
def overflow (c : Cache) : Nat :=
  if c.capacity ≤ c.size then c.capacity / 2 else 0

theorem overflow_le_size (c : Cache) : c.overflow ≤ c.size := by
  unfold overflow
  split
  · omega
  · exact Nat.zero_le _

theorem order_evict (c : Cache) (count : Nat) :
    (c.evict count).order.toList = c.order.toList.drop count := by
  have whole : (c.order.toList.drop count).length ≤ c.order.size - count := by
    rw [List.length_drop, Array.length_toList]
  simp only [evict, Array.toList_extract, List.extract_eq_take_drop]
  exact List.take_of_length_le whole

/-- Making room is evicting as many as overflow, be it none. -/
theorem makeRoom_eq (c : Cache) : c.makeRoom = c.evict c.overflow := by
  unfold makeRoom overflow
  split
  · rfl
  · have order : (c.evict 0).order = c.order := Array.toList_inj.mp (order_evict c 0)
    have entries : (c.evict 0).entries = c.entries := by simp [evict]
    calc c = { c with entries := (c.evict 0).entries, order := (c.evict 0).order } := by
          rw [order, entries]
      _ = c.evict 0 := rfl

theorem mem_foldl_erase {keys : List String} {entries : Std.HashMap String Parsed}
    {key : String} :
    key ∈ keys.foldl (fun entries key => entries.erase key) entries ↔
      key ∈ entries ∧ key ∉ keys := by
  induction keys generalizing entries with
  | nil => simp
  | cons first rest ih =>
      rw [List.foldl_cons, ih, Std.HashMap.mem_erase, List.mem_cons, not_or]
      simp only [beq_eq_false_iff_ne, ne_eq, eq_comm (a := first)]
      constructor
      · rintro ⟨⟨other, mem⟩, absent⟩
        exact ⟨mem, other, absent⟩
      · rintro ⟨mem, other, absent⟩
        exact ⟨⟨other, mem⟩, absent⟩

theorem mem_entries_evict {c : Cache} {count : Nat} {key : String} :
    key ∈ (c.evict count).entries ↔ key ∈ c.entries ∧ key ∉ c.order.toList.take count := by
  simp only [evict, ← Array.foldl_toList, Array.toList_extract, List.extract_eq_take_drop,
    List.drop_zero, Nat.sub_zero]
  exact mem_foldl_erase

/-! ### Caches in step -/

/-- The entries and their order have the same digests, each of them once. -/
structure InStep (c : Cache) : Prop where
  mem_entries_iff : ∀ key, key ∈ c.entries ↔ key ∈ c.order.toList
  nodup_order : c.order.toList.Nodup

theorem inStep_ofCapacity (capacity : Nat) (digest : String → String) :
    (ofCapacity capacity digest).InStep where
  mem_entries_iff := by simp [ofCapacity]
  nodup_order := List.nodup_nil

theorem inStep_clear (c : Cache) : c.clear.InStep where
  mem_entries_iff := by simp [clear]
  nodup_order := List.nodup_nil

/-- A digest that is looked up in vain is new. -/
theorem not_mem_of_getElem? {c : Cache} {key : String} (miss : c.entries[key]? = none) :
    key ∉ c.entries := by
  rw [Std.HashMap.mem_iff_isSome_getElem?, miss]
  exact Bool.false_ne_true

namespace InStep

variable {c : Cache}

/-- There are as many entries as there are digests in the order. -/
theorem size_eq (inStep : c.InStep) : c.size = c.order.toList.length := by
  have perm : c.entries.keys.Perm c.order.toList := by
    rw [List.perm_ext_iff_of_nodup Std.HashMap.nodup_keys inStep.nodup_order]
    intro key
    rw [Std.HashMap.mem_keys, inStep.mem_entries_iff]
  rw [size, ← Std.HashMap.length_keys, perm.length_eq]

/-- What is evicted leaves the entries and the order together. -/
theorem evict (inStep : c.InStep) (count : Nat) : (c.evict count).InStep where
  mem_entries_iff := by
    intro key
    have parts : key ∈ c.order.toList ↔
        key ∈ c.order.toList.take count ∨ key ∈ c.order.toList.drop count := by
      rw [← List.mem_append, List.take_append_drop]
    have apart := List.disjoint_take_drop inStep.nodup_order (Nat.le_refl count)
    rw [mem_entries_evict, order_evict, inStep.mem_entries_iff, parts]
    constructor
    · rintro ⟨old | kept, absent⟩
      · exact absurd old absent
      · exact kept
    · intro kept
      exact ⟨.inr kept, fun old => apart old kept⟩
  nodup_order := by
    rw [order_evict]
    exact inStep.nodup_order.sublist (List.drop_sublist count _)

/-- A new digest goes into the entries and to the end of the order. -/
theorem insert (inStep : c.InStep) {key : String} (new : key ∉ c.entries) (parsed : Parsed) :
    (c.insert key parsed).InStep where
  mem_entries_iff := by
    intro other
    simp only [Cache.insert, Std.HashMap.mem_insert, Array.toList_push, List.mem_append,
      List.mem_singleton, inStep.mem_entries_iff, beq_iff_eq, eq_comm (a := key)]
    exact or_comm
  nodup_order := by
    rw [inStep.mem_entries_iff] at new
    simp only [Cache.insert, Array.toList_push]
    refine List.nodup_append.mpr ⟨inStep.nodup_order, List.nodup_singleton key, ?_⟩
    intro old mem last same eq
    rw [eq, List.mem_singleton.mp same] at mem
    exact new mem

end InStep

/-! ### One read -/

theorem read_of_hit {c : Cache} {content : String} {parsed : Parsed}
    (hit : c.entries[c.digest content]? = some parsed) :
    c.read content = (parsed, { c with stats := { c.stats with hits := c.stats.hits + 1 } }) := by
  simp only [read, hit]

/-- A content that is not there is parsed, and put in once there is room. -/
theorem read_of_miss {c : Cache} {content : String}
    (miss : c.entries[c.digest content]? = none) :
    c.read content = (Parsed.ofContent content,
      { (c.evict c.overflow).insert (c.digest content) (Parsed.ofContent content) with
        stats := ⟨c.stats.hits, c.stats.parses + 1, c.stats.evictions + c.overflow⟩ }) := by
  simp only [read, miss, makeRoom_eq]
  rfl

theorem size_read_of_hit {c : Cache} {content : String} {parsed : Parsed}
    (hit : c.entries[c.digest content]? = some parsed) : (c.read content).2.size = c.size := by
  rw [read_of_hit hit]
  rfl

theorem capacity_read (c : Cache) (content : String) :
    (c.read content).2.capacity = c.capacity := by
  cases found : c.entries[c.digest content]? with
  | none =>
      rw [read_of_miss found]
      rfl
  | some parsed => rw [read_of_hit found]

/-- A read is a hit or a parse. -/
theorem reads_read (c : Cache) (content : String) :
    (c.read content).2.stats.hits + (c.read content).2.stats.parses =
      c.stats.hits + c.stats.parses + 1 := by
  cases found : c.entries[c.digest content]? with
  | none =>
      rw [read_of_miss found]
      rfl
  | some parsed =>
      rw [read_of_hit found]
      exact Nat.add_right_comm _ _ _

namespace InStep

variable {c : Cache}

/-- What has been counted makes no difference. -/
theorem recount (inStep : c.InStep) (stats : CacheStats) : { c with stats }.InStep :=
  ⟨inStep.mem_entries_iff, inStep.nodup_order⟩

/-- Evicting does not bring in a content that is not there. -/
theorem insert_evict (inStep : c.InStep) {content : String}
    (miss : c.entries[c.digest content]? = none) (count : Nat) :
    ((c.evict count).insert (c.digest content) (Parsed.ofContent content)).InStep :=
  (inStep.evict count).insert (fun mem => not_mem_of_getElem? miss (mem_entries_evict.mp mem).1) _

theorem read (inStep : c.InStep) (content : String) : (c.read content).2.InStep := by
  cases found : c.entries[c.digest content]? with
  | none =>
      rw [read_of_miss found]
      exact (inStep.insert_evict found c.overflow).recount _
  | some parsed =>
      rw [read_of_hit found]
      exact inStep.recount _

/-- After a miss the new content is there, and those that made room for it are not. -/
theorem size_read_of_miss (inStep : c.InStep) {content : String}
    (miss : c.entries[c.digest content]? = none) :
    (c.read content).2.size = c.size - c.overflow + 1 := by
  have order := (inStep.insert_evict miss c.overflow).size_eq
  rw [read_of_miss miss]
  refine order.trans ?_
  simp only [Cache.insert, Array.toList_push, List.length_append, List.length_singleton,
    order_evict, List.length_drop, inStep.size_eq]

/-- A read never leaves more contents than there is room for. -/
theorem size_read_le (inStep : c.InStep) (room : 2 ≤ c.capacity) (within : c.size ≤ c.capacity)
    (content : String) : (c.read content).2.size ≤ c.capacity := by
  cases found : c.entries[c.digest content]? with
  | none =>
      rw [inStep.size_read_of_miss found, overflow]
      split
      · omega
      · omega
  | some parsed =>
      rw [size_read_of_hit found]
      exact within

/-- What a read adds to the parses, it adds to the contents or to the evictions. -/
theorem parses_read (inStep : c.InStep) (content : String) :
    (c.read content).2.stats.parses + c.size + c.stats.evictions =
      c.stats.parses + (c.read content).2.size + (c.read content).2.stats.evictions := by
  cases found : c.entries[c.digest content]? with
  | none =>
      have less := c.overflow_le_size
      rw [inStep.size_read_of_miss found, read_of_miss found]
      dsimp only
      omega
  | some parsed =>
      rw [size_read_of_hit found, read_of_hit found]

end InStep

/-! ### Any number of accesses -/

section Run

variable {c : Cache}

theorem InStep.access (inStep : c.InStep) (access : Access) : (c.access access).InStep := by
  cases access with
  | read content => exact inStep.read content
  | clear => exact inStep_clear c

theorem InStep.run (inStep : c.InStep) (accesses : List Access) : (c.run accesses).InStep := by
  induction accesses generalizing c with
  | nil => exact inStep
  | cons access rest ih => exact ih (inStep.access access)

theorem InStep.size_run_le (inStep : c.InStep) (room : 2 ≤ c.capacity)
    (within : c.size ≤ c.capacity) (accesses : List Access) :
    (c.run accesses).size ≤ c.capacity := by
  induction accesses generalizing c with
  | nil => exact within
  | cons access rest ih =>
      cases access with
      | read content =>
          have same := capacity_read c content
          have later := ih (inStep.read content) (same ▸ room)
            (same ▸ inStep.size_read_le room within content)
          exact same ▸ later
      | clear => exact ih (inStep_clear c) room (Nat.zero_le _)

theorem reads_run (c : Cache) (accesses : List Access) :
    (c.run accesses).stats.hits + (c.run accesses).stats.parses =
      c.stats.hits + c.stats.parses + (readsOf accesses).length := by
  induction accesses generalizing c with
  | nil => rfl
  | cons access rest ih =>
      cases access with
      | read content =>
          have step := reads_read c content
          have later := ih (c.read content).2
          calc ((c.read content).2.run rest).stats.hits + ((c.read content).2.run rest).stats.parses
              = c.stats.hits + c.stats.parses + 1 + (readsOf rest).length := by rw [later, step]
            _ = c.stats.hits + c.stats.parses + ((readsOf rest).length + 1) := by omega
      | clear => exact ih c.clear

theorem InStep.parses_run (inStep : c.InStep) (accesses : List Access) :
    (c.run accesses).stats.parses + c.size + c.stats.evictions =
      c.stats.parses + (c.run accesses).size + (c.run accesses).stats.evictions +
        c.cleared accesses := by
  induction accesses generalizing c with
  | nil => rfl
  | cons access rest ih =>
      cases access with
      | read content =>
          have step := inStep.parses_read content
          have later := ih (inStep.read content)
          rw [run_cons, Cache.access, cleared]
          omega
      | clear =>
          have later := ih (inStep_clear c)
          have empty : c.clear.size = 0 := rfl
          have kept : c.clear.stats = c.stats := rfl
          rw [empty, kept] at later
          rw [run_cons, Cache.access, cleared]
          omega

theorem Faithful.run {contents : Set String} (faithful : Faithful contents c)
    {accesses : List Access} (used : ∀ content ∈ readsOf accesses, content ∈ contents) :
    Faithful contents (c.run accesses) := by
  induction accesses generalizing c with
  | nil => exact faithful
  | cons access rest ih =>
      cases access with
      | read content =>
          exact ih (faithful.read (used content List.mem_cons_self)) fun other mem =>
            used other (List.mem_cons_of_mem content mem)
      | clear => exact ih (faithful_clear contents c) used

/-- When the digest tells the contents apart, every read among the accesses is answered as
if it were the first. -/
theorem Faithful.answers_eq {contents : Set String} (faithful : Faithful contents c)
    (apart : Set.InjOn c.digest contents) {accesses : List Access}
    (used : ∀ content ∈ readsOf accesses, content ∈ contents) :
    c.answers accesses = (readsOf accesses).map Parsed.ofContent := by
  induction accesses generalizing c with
  | nil => rfl
  | cons access rest ih =>
      cases access with
      | read content =>
          have mem := used content List.mem_cons_self
          have same := digest_read c content
          have later := ih (faithful.read mem) (same ▸ apart) fun other otherMem =>
            used other (List.mem_cons_of_mem content otherMem)
          calc c.answers (.read content :: rest)
              = (c.read content).1 :: (c.read content).2.answers rest := rfl
            _ = Parsed.ofContent content :: (readsOf rest).map Parsed.ofContent := by
                rw [faithful.fst_read apart mem, later]
      | clear => exact ih (faithful_clear contents c) apart used

end Run

/-- What a cache that was empty has answered, holds and has counted after some accesses. -/
structure Accounts (start : Cache) (accesses : List Access) : Prop where
  /-- Every read was answered with what is in its content. -/
  answers : start.answers accesses = (readsOf accesses).map Parsed.ofContent
  inStep : (start.run accesses).InStep
  size_le : (start.run accesses).size ≤ start.capacity
  /-- Every entry was read from a content that has its digest. -/
  faithful : (start.run accesses).Faithful {content | content ∈ readsOf accesses}
  reads : (start.run accesses).stats.hits + (start.run accesses).stats.parses =
    (readsOf accesses).length
  parses : (start.run accesses).stats.parses =
    (start.run accesses).size + (start.run accesses).stats.evictions + start.cleared accesses

/-- Whatever is read and cleared, and however much room there is: the cache answers as if it
read everything afresh, its entries and their order stay in step and within its capacity,
and its counts add up, as long as the digest tells the contents apart. -/
theorem accounts_run (capacity : Nat) (digest : String → String) (accesses : List Access)
    (apart : Set.InjOn digest {content | content ∈ readsOf accesses}) :
    (ofCapacity capacity digest).capacity = max capacity 2 ∧
      (ofCapacity capacity digest).Accounts accesses := by
  have inStep := inStep_ofCapacity capacity digest
  have faithful := faithful_ofCapacity {content | content ∈ readsOf accesses} capacity digest
  refine ⟨rfl, ?_⟩
  exact {
    answers := faithful.answers_eq apart fun _ mem => mem
    inStep := inStep.run accesses
    size_le := inStep.size_run_le (Nat.le_max_right capacity 2) (Nat.zero_le _) accesses
    faithful := faithful.run fun _ mem => mem
    reads := by
      rw [reads_run]
      exact Nat.zero_add _
    parses := by
      have balance := inStep.parses_run accesses
      rw [show (ofCapacity capacity digest).size = 0 from rfl] at balance
      simpa [ofCapacity] using balance }

namespace Sample

/-- Three contents read through a cache with room for two, one of them twice, and once more
after the cache has been cleared. -/
def accesses : List Access :=
  [.read "a", .read "b", .read "a", .read "c", .read "a", .clear, .read "c", .read "c"]

/-- The digests of the contents, in hexadecimal. -/
def digest (content : String) : String :=
  if content = "a" then "ca978112ca1bbdcafac231b39a23dc4da786eff8147c4e72b9807785afee48bb"
  else if content = "b" then "3e23e8160039594a33894f6564e1b1348bbd7a0088d42c4acb73eeaed59c009d"
  else "2e7d2c03a9507ae265ecf5b5356885a53393a2029d241394997265a1a25aefc6"

theorem injOn_digest : Set.InjOn digest {content | content ∈ readsOf accesses} := by
  have apart : ∀ a ∈ readsOf accesses, ∀ b ∈ readsOf accesses, digest a = digest b → a = b := by
    decide
  intro a aMem b bMem same
  exact apart a aMem b bMem same

end Sample

/-- With room for one asked for there is room for two, and the third content evicts one. -/
theorem accounts_run_sample :
    Set.InjOn Sample.digest {content | content ∈ readsOf Sample.accesses} ∧
      (ofCapacity 1 Sample.digest).capacity = 2 ∧
      (ofCapacity 1 Sample.digest).Accounts Sample.accesses :=
  ⟨Sample.injOn_digest, accounts_run 1 Sample.digest Sample.accesses Sample.injOn_digest⟩

end Scrollback.Attachment.Cache
