import Scrollback.Agent.Match
import Scrollback.Proofs.Text.Search

/-!
The rank of a name.

A tier says how a name holds a query, and each tier includes the ones before it
(`Tier.Holds.mono`). The rank of a name is the best tier that holds, with the distance that
goes with it (`Rank.of?_tiers`).
-/

namespace Scrollback

namespace Tier

instance : Std.TransOrd Tier :=
  inferInstanceAs (Std.TransCmp (compareOn Tier.ctorIdx))

instance : Std.LawfulEqOrd Tier where
  eq_of_compare {a b} same := by
    cases a <;> cases b <;> first | rfl | cases same

/-- A name matches a query in a tier. -/
def Holds (name query : List Char) : Tier → Prop
  | .exact => query = name
  | .leading => query <+: name
  | .substring => query <:+: name
  | .subsequence => query.Sublist name

/-- How far a name that matches in a tier is from the query: not at all, by what it has
beyond the query, by the least offset at which the query occurs, or by the length of the
shortest start that has the letters of the query in order. -/
def IsDistance (name query : List Char) (distance : Nat) : Tier → Prop
  | .exact => distance = 0
  | .leading => distance = name.length - query.length
  | .substring => IsLeast {place | query <+: name.drop place} distance
  | .subsequence =>
      IsLeast {length | ∃ start, start <+: name ∧ query.Sublist start ∧ start.length = length}
        distance

/-- A tier is the first in which a name matches a query. -/
structure IsBest (name query : List Char) (t : Tier) : Prop where
  holds : t.Holds name query
  isLE : ∀ other, Holds name query other → (compare t other).isLE = true

section Order

variable {name query : List Char} {t u : Tier}

/-- A name that matches in a tier matches in every tier after it. -/
theorem Holds.mono (holds : t.Holds name query) (le : (compare t u).isLE = true) :
    u.Holds name query := by
  have toLeading : exact.Holds name query → leading.Holds name query := by
    intro same
    exact same ▸ List.prefix_rfl
  have toSubstring : leading.Holds name query → substring.Holds name query :=
    List.IsPrefix.isInfix
  have toSubsequence : substring.Holds name query → subsequence.Holds name query :=
    List.IsInfix.sublist
  cases t with
  | exact =>
      cases u with
      | exact => exact holds
      | leading => exact toLeading holds
      | substring => exact toSubstring (toLeading holds)
      | subsequence => exact toSubsequence (toSubstring (toLeading holds))
  | leading =>
      cases u with
      | exact => cases le
      | leading => exact holds
      | substring => exact toSubstring holds
      | subsequence => exact toSubsequence (toSubstring holds)
  | substring =>
      cases u with
      | exact | leading => cases le
      | substring => exact holds
      | subsequence => exact toSubsequence holds
  | subsequence =>
      cases u with
      | exact | leading | substring => cases le
      | subsequence => exact holds

/-- A name that matches at all has the letters of the query in order. -/
theorem Holds.sublist (holds : t.Holds name query) : query.Sublist name := by
  have le : (compare t subsequence).isLE = true := by
    cases t <;> rfl
  exact holds.mono le

theorem isBest_exact (holds : exact.Holds name query) : exact.IsBest name query := by
  refine ⟨holds, ?_⟩
  intro other _
  cases other <;> rfl

/-- A tier that holds is the best one when the tier right before it does not. -/
theorem isBest_of_fails (before : Tier) (next : t.ctorIdx = before.ctorIdx + 1)
    (holds : t.Holds name query) (fails : ¬ before.Holds name query) : t.IsBest name query := by
  refine ⟨holds, ?_⟩
  intro other otherHolds
  rcases Nat.lt_or_ge before.ctorIdx other.ctorIdx with later | earlier
  · have le : t.ctorIdx ≤ other.ctorIdx := next ▸ later
    exact Nat.isLE_compare.mpr le
  · exact absurd (otherHolds.mono (Nat.isLE_compare.mpr earlier)) fails

/-- A name has one best tier. -/
theorem IsBest.unique (first : t.IsBest name query) (second : u.IsBest name query) : t = u :=
  Std.LawfulEqCmp.eq_of_compare
    (Std.OrientedCmp.isLE_antisymm (first.isLE u second.holds) (second.isLE t first.holds))

/-- A name is at one distance in a tier. -/
theorem IsDistance.unique {first second : Nat} (one : t.IsDistance name query first)
    (other : t.IsDistance name query second) : first = second := by
  cases t with
  | exact => exact Eq.trans one other.symm
  | leading => exact Eq.trans one other.symm
  | substring => exact IsLeast.unique one other
  | subsequence => exact IsLeast.unique one other

end Order

end Tier

namespace Rank

section OfChars

variable {name query : List Char}

/-- A rank is the best tier and its distance. -/
theorem isBest_of_ofChars? {r : Rank} (found : ofChars? name query = some r) :
    query ≠ [] ∧ r.tier.IsBest name query ∧ r.tier.IsDistance name query r.distance := by
  unfold ofChars? at found
  split at found
  · cases found
  rename_i more
  refine ⟨fun none => more (List.isEmpty_iff.mpr none), ?_⟩
  split at found
  · rename_i same
    cases found
    exact ⟨Tier.isBest_exact same.symm, rfl⟩
  rename_i different
  split at found
  · rename_i start
    cases found
    exact ⟨Tier.isBest_of_fails .exact rfl (List.isPrefixOf_iff_prefix.mp start)
      (Ne.symm different), rfl⟩
  rename_i noStart
  split at found
  · rename_i offset occurs
    cases found
    have least := Text.offset?_eq_some_iff.mp occurs
    have inside : query <:+: name := least.1.isInfix.trans (List.drop_suffix offset name).isInfix
    have noPrefix : ¬ query <+: name := fun start =>
      noStart (List.isPrefixOf_iff_prefix.mpr start)
    exact ⟨Tier.isBest_of_fails .leading rfl inside noPrefix, least⟩
  · rename_i lacks
    obtain ⟨reach, reached, rfl⟩ := Option.map_eq_some_iff.mp found
    have least := Text.reach?_eq_some_iff.mp reached
    obtain ⟨start, begins, has, -⟩ := least.1
    exact ⟨Tier.isBest_of_fails .substring rfl (has.trans begins.sublist)
      (Text.offset?_eq_none_iff.mp lacks), least⟩

/-- A name has no rank exactly when there is nothing to match or it does not have the
letters in order. -/
theorem ofChars?_eq_none_iff :
    ofChars? name query = none ↔ query = [] ∨ ¬ query.Sublist name := by
  constructor
  · intro none
    unfold ofChars? at none
    split at none
    · rename_i empty
      exact Or.inl (List.isEmpty_iff.mp empty)
    split at none
    · cases none
    split at none
    · cases none
    split at none
    · cases none
    · exact Or.inr (Text.reach?_eq_none_iff.mp (Option.map_eq_none_iff.mp none))
  · intro lacks
    cases found : ofChars? name query with
    | none => rfl
    | some r =>
        obtain ⟨more, best, -⟩ := isBest_of_ofChars? found
        rcases lacks with empty | lacks
        · exact absurd empty more
        · exact absurd best.holds.sublist lacks

/-- A name that has the letters of a query in order has a rank. -/
theorem exists_ofChars? (more : query ≠ []) (has : query.Sublist name) :
    ∃ r, ofChars? name query = some r := by
  rw [← Option.ne_none_iff_exists', Ne, ofChars?_eq_none_iff, not_or, not_not]
  exact ⟨more, has⟩

theorem ofChars?_eq_some_iff {r : Rank} :
    ofChars? name query = some r ↔
      query ≠ [] ∧ r.tier.IsBest name query ∧ r.tier.IsDistance name query r.distance := by
  constructor
  · exact isBest_of_ofChars?
  · rintro ⟨more, best, distance⟩
    obtain ⟨other, found⟩ := exists_ofChars? more best.holds.sublist
    obtain ⟨-, otherBest, otherDistance⟩ := isBest_of_ofChars? found
    have sameTier : other.tier = r.tier := otherBest.unique best
    have sameDistance : other.distance = r.distance :=
      (sameTier ▸ otherDistance).unique distance
    rw [found]
    cases other
    cases r
    cases sameTier
    cases sameDistance
    rfl

end OfChars

/-- A name has no rank exactly when the query is empty or the name does not have its letters
in order; otherwise its rank is the best tier in which it matches, with its distance in that
tier. All of this is up to case. -/
theorem of?_tiers (name query : String) :
    (of? name query = none ↔ Text.lowerChars query.toList = [] ∨
        ¬ (Text.lowerChars query.toList).Sublist (Text.lowerChars name.toList)) ∧
      ∀ r, of? name query = some r ↔ Text.lowerChars query.toList ≠ [] ∧
        r.tier.IsBest (Text.lowerChars name.toList) (Text.lowerChars query.toList) ∧
        r.tier.IsDistance (Text.lowerChars name.toList) (Text.lowerChars query.toList)
          r.distance := by
  constructor
  · exact ofChars?_eq_none_iff
  · intro r
    exact ofChars?_eq_some_iff

end Rank

end Scrollback
