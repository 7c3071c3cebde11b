import Mathlib.Data.List.Perm.Subperm
import Scrollback.Proofs.Agent.Ranking
import Scrollback.Proofs.Text.Lowercase

/-!
Finding an agent while its name is typed.

The more is typed the fewer agents match. A name that matches a query matches the beginning of
the query in a tier that is no worse, except that the beginning of the whole name is no longer
the whole name, and from where the beginning is met no later than the query
(`longer_narrows`).

The beginning of a name matches the name as such, exactly or as its beginning. Case is compared
after the lowercase of either text is taken by itself, so this holds unless what has been
typed breaks off inside a word right after a capital sigma (`beginning_found_iff`).
-/

namespace Scrollback

/-! ### Longer queries -/

/-- Up to case, `longer` is what has been typed after `query`, which is not nothing. -/
structure Continues (longer query : String) : Prop where
  typed : Text.lowerChars query.toList ≠ []
  begins : Text.lowerChars query.toList <+: Text.lowerChars longer.toList

/-- The last tier that the beginning of a query may fall to: the beginning of a whole name is
the beginning of the name. -/
def Tier.eased : Tier → Tier
  | .exact => .leading
  | t => t

theorem Tier.isLE_of_isLE_eased {t u : Tier} (le : (compare t u.eased).isLE = true) :
    (compare t u).isLE = true ∨ (u = .exact ∧ t = .leading) := by
  cases u with
  | exact =>
      cases t with
      | exact => exact Or.inl rfl
      | leading => exact Or.inr ⟨rfl, rfl⟩
      | substring | subsequence => cases le
  | leading | substring | subsequence => exact Or.inl le

/-- How the rank of a name for the beginning of a query compares with its rank `s` for the
query. -/
structure Rank.Eases (r s : Rank) : Prop where
  tier : (compare r.tier s.tier).isLE = true ∨ (s.tier = .exact ∧ r.tier = .leading)
  distance : r.tier = s.tier → r.tier = .substring ∨ r.tier = .subsequence →
    r.distance ≤ s.distance

section Longer

variable {name query longer : List Char}

theorem Tier.Holds.of_prefix {t : Tier} (holds : t.Holds name longer)
    (begins : query <+: longer) : t.eased.Holds name query := by
  cases t with
  | exact =>
      have same : longer = name := holds
      exact same ▸ begins
  | leading => exact begins.trans holds
  | substring => exact begins.isInfix.trans holds
  | subsequence => exact begins.sublist.trans holds

/-- A query is met where it is met by its beginning, or later. -/
theorem Tier.IsDistance.le_of_prefix {t : Tier} (begins : query <+: longer)
    (inside : t = .substring ∨ t = .subsequence) {near far : Nat}
    (short : t.IsDistance name query near) (long : t.IsDistance name longer far) :
    near ≤ far := by
  rcases inside with rfl | rfl
  · exact IsLeast.mono long short fun _ occurs => begins.trans occurs
  · refine IsLeast.mono long short ?_
    rintro length ⟨start, starts, has, eq⟩
    exact ⟨start, starts, begins.sublist.trans has, eq⟩

theorem Rank.ofChars?_of_prefix {s : Rank} (typed : query ≠ []) (begins : query <+: longer)
    (found : ofChars? name longer = some s) :
    ∃ r, ofChars? name query = some r ∧ r.Eases s := by
  obtain ⟨-, best, far⟩ := isBest_of_ofChars? found
  have holds := best.holds.of_prefix begins
  obtain ⟨r, short⟩ := exists_ofChars? typed holds.sublist
  obtain ⟨-, shortBest, near⟩ := isBest_of_ofChars? short
  refine ⟨r, short, Tier.isLE_of_isLE_eased (shortBest.isLE _ holds), ?_⟩
  intro same inside
  exact Tier.IsDistance.le_of_prefix begins inside near (same ▸ far)

end Longer

theorem Rank.of?_of_continues {name longer query : String} {s : Rank}
    (continues : Continues longer query) (found : of? name longer = some s) :
    ∃ r, of? name query = some r ∧ r.Eases s :=
  ofChars?_of_prefix continues.typed continues.begins found

/-- Typing on narrows what is found. A name that has a rank for the longer query has one for
its beginning, in no worse a tier but that the whole name may become its beginning, and inside
the name it is met no later. So whoever is found for the longer query, once it is trimmed, is
found for its beginning, as often as among the agents. -/
theorem longer_narrows :
    (∀ name longer query, Continues longer query → ∀ s, Rank.of? name longer = some s →
      ∃ r, Rank.of? name query = some r ∧ r.Eases s) ∧
    ∀ longer query agents, Continues (Text.trim longer) (Text.trim query) →
      (Agent.ranked longer agents).Subperm (Agent.ranked query agents) := by
  constructor
  · intro name longer query continues s found
    exact Rank.of?_of_continues continues found
  · intro longer query agents continues
    have kept : ∀ a : Agent, (a.rank? longer).isSome = true → (a.rank? query).isSome = true := by
      intro a ranks
      obtain ⟨s, found⟩ := Option.isSome_iff_exists.mp ranks
      obtain ⟨r, eases, -⟩ := Rank.of?_of_continues continues found
      exact Option.isSome_iff_exists.mpr ⟨r, eases⟩
    have fewer := (List.monotone_filter_right agents kept).subperm
    exact (Agent.perm_ranked query agents).subperm_left.mpr
      ((Agent.perm_ranked longer agents).subperm_right.mpr fewer)

/-- A whole name, then its beginning; and of two agents the one that the longer query finds. -/
theorem longer_narrows_sample :
    let agents : List Agent := [⟨"Marcher", "k1", false⟩, ⟨"arch", "k2", true⟩]
    Continues "Arch" "AR" ∧ Rank.of? "arch" "Arch" = some ⟨.exact, 0⟩ ∧
      (∃ r, Rank.of? "arch" "AR" = some r ∧ r.Eases ⟨.exact, 0⟩) ∧
      Continues (Text.trim " arche") (Text.trim "AR ") ∧
      (Agent.ranked " arche" agents).Subperm (Agent.ranked "AR " agents) := by
  intro agents
  have continues : Continues "Arch" "AR" := ⟨by decide +kernel, by decide +kernel⟩
  have trimmed : Continues (Text.trim " arche") (Text.trim "AR ") :=
    ⟨by decide +kernel, by decide +kernel⟩
  have found : Rank.of? "arch" "Arch" = some ⟨.exact, 0⟩ := by decide +kernel
  exact ⟨continues, found, longer_narrows.1 "arch" "Arch" "AR" continues _ found, trimmed,
    longer_narrows.2 " arche" "AR " agents trimmed⟩

/-! ### Beginnings of names -/

/-- A name is found as such, exactly or by its beginning, when the query is the beginning of
the name and not empty. -/
theorem Rank.ofChars?_beginning_iff {name query : List Char} :
    (∃ r, ofChars? name query = some r ∧ (r.tier = .exact ∨ r.tier = .leading)) ↔
      query ≠ [] ∧ query <+: name := by
  constructor
  · rintro ⟨r, found, early⟩
    obtain ⟨typed, best, -⟩ := isBest_of_ofChars? found
    have le : (compare r.tier .leading).isLE = true := by
      rcases early with eq | eq <;> rw [eq] <;> rfl
    exact ⟨typed, best.holds.mono le⟩
  · rintro ⟨typed, begins⟩
    obtain ⟨r, found⟩ := exists_ofChars? typed begins.sublist
    have le := (isBest_of_ofChars? found).2.1.isLE .leading begins
    refine ⟨r, found, ?_⟩
    cases eq : r.tier with
    | exact => exact Or.inl rfl
    | leading => exact Or.inr rfl
    | substring | subsequence => rw [eq] at le; cases le

/-- The beginning of a name finds it as such exactly when the beginning does not break off
inside a word right after a capital sigma. -/
theorem beginning_found_iff (query rest : String) (typed : query ≠ "") :
    (∃ r, Rank.of? (query ++ rest) query = some r ∧ (r.tier = .exact ∨ r.tier = .leading)) ↔
      ¬ Text.Lowercase.CutsSigma [] query.toList rest.toList := by
  have more : Text.lowerChars query.toList ≠ [] := by
    rw [Ne, Text.lowerChars_eq_nil_iff, String.toList_eq_nil_iff]
    exact typed
  rw [Rank.of?, Rank.ofChars?_beginning_iff, String.toList_append, and_iff_right more]
  exact Text.lowerChars_prefix_iff query.toList rest.toList

/-- The same name is found by its first four letters and not by its first three. -/
theorem beginning_found_iff_sample :
    "ΙΑΣΩ" ≠ "" ∧ "ΙΑΣ" ≠ "" ∧
      (∃ r, Rank.of? ("ΙΑΣΩ" ++ "Ν") "ΙΑΣΩ" = some r ∧
        (r.tier = .exact ∨ r.tier = .leading)) ∧
      ¬ ∃ r, Rank.of? ("ΙΑΣ" ++ "ΩΝ") "ΙΑΣ" = some r ∧ (r.tier = .exact ∨ r.tier = .leading) := by
  have four : "ΙΑΣΩ" ≠ "" := by decide
  have three : "ΙΑΣ" ≠ "" := by decide
  refine ⟨four, three, (beginning_found_iff "ΙΑΣΩ" "Ν" four).mpr (by decide +kernel), ?_⟩
  intro found
  exact (beginning_found_iff "ΙΑΣ" "ΩΝ" three).mp found (by decide +kernel)

/-- The sigma is final in what has been typed and not in the name, so nothing matches. -/
theorem lost_after_sigma :
    "ΙΑΣ".toList <+: "ΙΑΣΩΝ".toList ∧ "ΙΑΣ" ≠ "" ∧ Rank.of? "ΙΑΣΩΝ" "ΙΑΣ" = none := by
  decide +kernel

end Scrollback
