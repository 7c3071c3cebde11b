import Mathlib.Data.Set.Function
import Scrollback.Attachment.Cache

/-!
What a cache answers.

A cache is *faithful* to some contents when each of its entries was read from one of
them. An empty cache is faithful, and reading one of the contents or forgetting
everything keeps it so (`Faithful.read`, `faithful_clear`). When no two of the
contents have the same digest, a faithful cache answers with what is in the content,
whether it remembers it or not (`Faithful.fst_read`).
-/

namespace Scrollback.Attachment.Cache

/-- What those who share a cache do with it. -/
inductive Access where
  | read (content : String)
  | clear
  deriving DecidableEq, Repr

/-- The content that an access reads. -/
def Access.content? : Access → Option String
  | .read content => some content
  | .clear => none

/-- A cache after an access. -/
def access (c : Cache) : Access → Cache
  | .read content => (c.read content).2
  | .clear => c.clear

/-- Every entry was read from one of the contents, and stands under its digest. -/
def Faithful (contents : Set String) (c : Cache) : Prop :=
  ∀ key parsed, c.entries[key]? = some parsed →
    ∃ content ∈ contents, c.digest content = key ∧ parsed = Parsed.ofContent content

/-! ### The digest of a cache does not change -/

theorem digest_makeRoom (c : Cache) : c.makeRoom.digest = c.digest := by
  unfold makeRoom
  split
  · rfl
  · rfl

theorem digest_read (c : Cache) (content : String) : (c.read content).2.digest = c.digest := by
  unfold read
  dsimp only
  split
  · rfl
  · exact digest_makeRoom _

/-! ### Entries -/

/-- Erasing keys brings no entry in. -/
theorem getElem?_of_foldl_erase {keys : List String} {entries : Std.HashMap String Parsed}
    {key : String} {parsed : Parsed}
    (h : (keys.foldl (fun entries key => entries.erase key) entries)[key]? = some parsed) :
    entries[key]? = some parsed := by
  induction keys generalizing entries with
  | nil => exact h
  | cons first rest ih =>
      have kept := ih h
      rw [Std.HashMap.getElem?_erase] at kept
      split at kept
      · cases kept
      · exact kept

/-- What is there after making room was there before. -/
theorem getElem?_of_makeRoom {c : Cache} {key : String} {parsed : Parsed}
    (h : c.makeRoom.entries[key]? = some parsed) : c.entries[key]? = some parsed := by
  unfold makeRoom at h
  split at h
  · simp only [evict, ← Array.foldl_toList] at h
    exact getElem?_of_foldl_erase h
  · exact h

/-! ### Faithful caches -/

theorem faithful_ofCapacity (contents : Set String) (capacity : Nat) (digest : String → String) :
    Faithful contents (.ofCapacity capacity digest) := by
  intro key parsed h
  simp [ofCapacity] at h

variable {contents : Set String} {c : Cache}

/-- Reading one of the contents keeps a cache faithful to them. -/
theorem Faithful.read (faithful : Faithful contents c) {content : String}
    (mem : content ∈ contents) : Faithful contents (c.read content).2 := by
  intro key parsed h
  rw [digest_read]
  unfold Cache.read at h
  dsimp only at h
  split at h
  · exact faithful key parsed h
  · simp only [Cache.insert, Std.HashMap.getElem?_insert] at h
    split at h
    · rename_i same
      cases h
      exact ⟨content, mem, by simpa using same, rfl⟩
    · have kept := getElem?_of_makeRoom h
      exact faithful key parsed kept

/-- An emptied cache is faithful to any contents. -/
theorem faithful_clear (contents : Set String) (c : Cache) : Faithful contents c.clear := by
  intro key parsed h
  simp [clear] at h

/-- An access that reads no other contents keeps a cache faithful. -/
theorem Faithful.access (faithful : Faithful contents c) {access : Access}
    (used : ∀ content, access.content? = some content → content ∈ contents) :
    (c.access access).Faithful contents ∧ (c.access access).digest = c.digest := by
  cases access with
  | read content =>
      exact ⟨faithful.read (used content rfl), digest_read c content⟩
  | clear => exact ⟨faithful_clear contents c, rfl⟩

/-- When the digest tells the contents apart, reading one of them through a faithful
cache is reading it afresh. -/
theorem Faithful.fst_read (faithful : Faithful contents c) (apart : Set.InjOn c.digest contents)
    {content : String} (mem : content ∈ contents) :
    (c.read content).1 = Parsed.ofContent content := by
  unfold Cache.read
  dsimp only
  split
  · rename_i parsed found
    obtain ⟨other, otherMem, same, rfl⟩ := faithful _ _ found
    rw [apart otherMem mem same]
  · rfl

end Scrollback.Attachment.Cache
