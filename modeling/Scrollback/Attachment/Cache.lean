import Scrollback.Attachment.Reader
import Std.Data.HashMap

/-!
A bounded memory of contents that have been read.

A content that is in the cache is a hit; any other is read and put in. When the
cache is full, the older half is evicted first. The order of eviction is the order
of reading: hits do not change it. What was read is kept under a digest of the
content, so contents of one digest are not told apart; the digest is a parameter
of the cache.
-/

namespace Scrollback.Attachment

/-- What the cache has done since it was made. -/
structure CacheStats where
  hits : Nat := 0
  parses : Nat := 0
  evictions : Nat := 0
  deriving DecidableEq, Repr

/-- What was read from contents, under the digests of the contents. -/
structure Cache where
  capacity : Nat
  /-- What a content is kept under. A content that is its own digest is told apart
  from every other. -/
  digest : String → String := id
  entries : Std.HashMap String Parsed := {}
  /-- The digests in the order in which their contents were read, oldest first. -/
  order : Array String := #[]
  stats : CacheStats := {}

namespace Cache

/-- The capacity of a cache unless another is asked for. -/
def defaultCapacity : Nat := 80

/-- An empty cache. It has room for two contents at least. -/
def ofCapacity (capacity : Nat) (digest : String → String := id) : Cache :=
  { capacity := max capacity 2, digest }

/-- How many contents are in the cache. -/
def size (c : Cache) : Nat :=
  c.entries.size

/-- Forget the oldest contents. -/
def evict (c : Cache) (count : Nat) : Cache :=
  { c with
    entries := (c.order.extract 0 count).foldl (fun entries key => entries.erase key) c.entries
    order := c.order.extract count c.order.size
    stats := { c.stats with evictions := c.stats.evictions + count } }

/-- Evict the older half when there is no room. -/
def makeRoom (c : Cache) : Cache :=
  if c.capacity ≤ c.size then c.evict (c.capacity / 2) else c

/-- Put in what has just been read, under the digest of its content. -/
def insert (c : Cache) (key : String) (parsed : Parsed) : Cache :=
  { c with
    entries := c.entries.insert key parsed
    order := c.order.push key }

/-- A content, read or remembered, and the cache afterwards. -/
def read (c : Cache) (content : String) : Parsed × Cache :=
  let key := c.digest content
  match c.entries[key]? with
  | some parsed => (parsed, { c with stats := { c.stats with hits := c.stats.hits + 1 } })
  | none =>
      let parsed := Parsed.ofContent content
      let counted := { c with stats := { c.stats with parses := c.stats.parses + 1 } }
      (parsed, counted.makeRoom.insert key parsed)

/-- Forget all contents. What has been counted stays. -/
def clear (c : Cache) : Cache :=
  { c with entries := {}, order := #[] }

end Cache

end Scrollback.Attachment
