import Scrollback.Agent
import Scrollback.Text.Blank
import Scrollback.Text.Find
import Scrollback.Text.Lowercase

/-!
Finding agents by what has been typed of their name.

Case does not count. A name matches a query in the best of four tiers: it equals
the query, begins with it, contains it, or contains its letters in order. Within a
tier the smaller distance is better, and agents of equal rank keep their order.
-/

namespace Scrollback

/-- How a name matches a query, best first. -/
inductive Tier where
  | exact
  | leading
  | substring
  | subsequence
  deriving DecidableEq, Repr, Ord

/-- A tier and the distance within it. -/
structure Rank where
  tier : Tier
  distance : Nat
  deriving DecidableEq, Repr

namespace Rank

/-- A better tier comes first, then the smaller distance. -/
def order (a b : Rank) : Ordering :=
  (compare a.tier b.tier).then (compare a.distance b.distance)

/-- The rank of a lowercase name against a lowercase query. The distance counts
what the name has beyond the query, where the query occurs, or how far its letters
reach. -/
def ofChars? (name query : List Char) : Option Rank :=
  if query.isEmpty then none
  else if name = query then some ⟨.exact, 0⟩
  else if query.isPrefixOf name then some ⟨.leading, name.length - query.length⟩
  else match Text.offset? query name with
    | some offset => some ⟨.substring, offset⟩
    | none => (Text.reach? query name).map (⟨.subsequence, ·⟩)

/-- The rank of a name against a query, in any case. -/
def of? (name query : String) : Option Rank :=
  ofChars? (Text.lowerChars name.toList) (Text.lowerChars query.toList)

end Rank

namespace Agent

/-- The agents that match, each with its rank. A blank query matches none. -/
def matching (query : String) (agents : List Agent) : List (Rank × Agent) :=
  match Text.trimmed? query with
  | none => []
  | some query => agents.filterMap fun a => (Rank.of? a.name query).map (·, a)

/-- The agents that match, best first. -/
def ranked (query : String) (agents : List Agent) : List Agent :=
  ((matching query agents).mergeSort fun a b => (a.1.order b.1).isLE).map (·.2)

/-- The better ranked of two, the first of two equals. -/
def better (a b : Rank × Agent) : Rank × Agent :=
  if (b.1.order a.1).isLT then b else a

/-- The agent that matches best, the first of equals. -/
def best? (query : String) (agents : List Agent) : Option Agent :=
  match matching query agents with
  | [] => none
  | first :: rest => some (rest.foldl better first).2

end Agent

end Scrollback
