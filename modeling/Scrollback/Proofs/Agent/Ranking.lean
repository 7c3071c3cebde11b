import Mathlib.Data.String.Basic
import Scrollback.Proofs.Agent.Tiers
import Scrollback.Proofs.Sorting

/-!
Agents in the order of their ranks.

What is found for a query are the agents whose names have a rank, the better ranks first and
equal ones as they were listed (`Agent.ranks_ranked`). The agent that matches best is the
first of them (`Agent.best?_eq_head?`). Agents that are listed in their own order are listed
in one way only (`Agent.sort_eq_of_perm`), so what is found among them depends on nothing but
who they are (`Agent.found_in_order`).
-/

namespace Scrollback

namespace Rank

instance : Std.TransCmp order :=
  inferInstanceAs (Std.TransCmp (compareLex (compareOn Rank.tier) (compareOn Rank.distance)))

/-- A better tier comes first, and in one tier the smaller distance. -/
def Precedes (r s : Rank) : Prop :=
  compare r.tier s.tier = .lt ∨ (r.tier = s.tier ∧ r.distance ≤ s.distance)

theorem isLE_order_iff (r s : Rank) : (order r s).isLE = true ↔ r.Precedes s := by
  unfold order Precedes
  rw [Ordering.isLE_then_iff_or, Std.compare_eq_iff_eq, Std.LawfulLECmp.isLE_iff_le]

/-- A query without letters ranks no name. -/
theorem of?_empty (name : String) : of? name "" = none :=
  ofChars?_eq_none_iff.mpr (Or.inl rfl)

end Rank

namespace Agent

/-! ### The order of agents -/

/-- Managers come first, then the smaller name, then the smaller key. -/
def Precedes (a b : Agent) : Prop :=
  (a.isManager = true ∧ b.isManager = false) ∨
    (a.isManager = b.isManager ∧ (a.name < b.name ∨ (a.name = b.name ∧ a.key ≤ b.key)))

instance : Std.TransCmp order :=
  inferInstanceAs (Std.TransCmp (compareLex (fun a b => compareOn Agent.isManager b a)
    (compareLex (compareOn Agent.name) (compareOn Agent.key))))

instance : Std.LawfulEqCmp order where
  eq_of_compare {a b} same := by
    obtain ⟨manager, names⟩ := Ordering.then_eq_eq.mp same
    obtain ⟨name, key⟩ := Ordering.then_eq_eq.mp names
    cases a
    cases b
    cases Std.LawfulEqCmp.eq_of_compare manager
    cases Std.LawfulEqCmp.eq_of_compare name
    cases Std.LawfulEqCmp.eq_of_compare key
    rfl

theorem isLE_order_iff (a b : Agent) : (order a b).isLE = true ↔ a.Precedes b := by
  have managers : compare b.isManager a.isManager = .lt ↔
      a.isManager = true ∧ b.isManager = false := by
    cases a.isManager <;> cases b.isManager <;> decide
  unfold order Precedes
  rw [Ordering.isLE_then_iff_or, Ordering.isLE_then_iff_or, managers, Std.compare_eq_iff_eq,
    Std.compare_eq_iff_eq, Std.LawfulLECmp.isLE_iff_le, Std.LawfulLTCmp.eq_lt_iff_lt,
    eq_comm (a := b.isManager) (b := a.isManager)]

theorem pairwise_sort (agents : List Agent) : (sort agents).Pairwise Precedes := by
  have inOrder : (sort agents).Pairwise fun a b => (order a b).isLE = true :=
    pairwise_mergeSort agents
  exact inOrder.imp fun le => (isLE_order_iff _ _).mp le

/-- The same agents are listed in one way when they are listed in their order. -/
theorem sort_eq_of_perm {first second : List Agent} (perm : first.Perm second) :
    sort first = sort second :=
  mergeSort_eq_of_perm perm fun _ _ _ _ same => Std.LawfulEqCmp.eq_of_compare same

/-! ### What is found -/

/-- The rank of an agent for what has been typed, without the blanks around it. -/
def rank? (query : String) (a : Agent) : Option Rank :=
  Rank.of? a.name (Text.trim query)

/-- What is found for a query among some agents: each time that one of them has a rank, the
better ranks first, and agents of one rank as they were listed. -/
structure Ranks (query : String) (agents found : List Agent) : Prop where
  perm : found.Perm (agents.filter fun a => (a.rank? query).isSome)
  ordered : found.Pairwise fun a b => ∀ r s, a.rank? query = some r → b.rank? query = some s →
    r.Precedes s
  stable : ∀ r, found.filter (fun a => a.rank? query = some r) =
    agents.filter fun a => a.rank? query = some r

section Found

variable (query : String) (agents : List Agent)

/-- The agents that match are the ones that have a rank. -/
theorem matching_eq :
    matching query agents = agents.filterMap fun a => (a.rank? query).map (·, a) := by
  unfold matching Text.trimmed? rank?
  by_cases blank : (Text.trim query).isEmpty = true
  · have empty : Text.trim query = "" := String.isEmpty_iff.mp blank
    simp [empty, Rank.of?_empty]
  · simp [blank]

theorem mem_matching {query : String} {agents : List Agent} {m : Rank × Agent} :
    m ∈ matching query agents ↔ m.2 ∈ agents ∧ m.2.rank? query = some m.1 := by
  rw [matching_eq, List.mem_filterMap]
  constructor
  · rintro ⟨a, mem, found⟩
    obtain ⟨r, rank, rfl⟩ := Option.map_eq_some_iff.mp found
    exact ⟨mem, rank⟩
  · rintro ⟨mem, rank⟩
    exact ⟨m.2, mem, by rw [rank]; rfl⟩

theorem map_snd_matching :
    (matching query agents).map (·.2) = agents.filter fun a => (a.rank? query).isSome := by
  rw [matching_eq]
  induction agents with
  | nil => rfl
  | cons a rest ih =>
      rw [List.filterMap_cons, List.filter_cons]
      cases a.rank? query with
      | none => exact ih
      | some r => exact congrArg (a :: ·) ih

/-- Matches in the order of their ranks. -/
def byRank (a b : Rank × Agent) : Ordering :=
  a.1.order b.1

instance : Std.TransCmp byRank where
  eq_swap {a b} := by
    have swap : a.1.order b.1 = (b.1.order a.1).swap := Std.OrientedCmp.eq_swap
    exact swap
  isLE_trans {a b c} ab bc := by
    have ac : (a.1.order c.1).isLE = true := Std.TransCmp.isLE_trans (b := b.1) ab bc
    exact ac

theorem ranked_eq :
    ranked query agents =
      ((matching query agents).mergeSort fun a b => (byRank a b).isLE).map (·.2) :=
  rfl

theorem perm_ranked :
    (ranked query agents).Perm (agents.filter fun a => (a.rank? query).isSome) := by
  rw [ranked_eq, ← map_snd_matching]
  exact (List.mergeSort_perm ..).map _

theorem pairwise_ranked :
    (ranked query agents).Pairwise fun a b => ∀ r s, a.rank? query = some r →
      b.rank? query = some s → r.Precedes s := by
  have inOrder : ((matching query agents).mergeSort fun a b => (byRank a b).isLE).Pairwise
      fun a b => (byRank a b).isLE = true := pairwise_mergeSort _
  rw [ranked_eq, List.pairwise_map]
  refine inOrder.imp_of_mem ?_
  intro a b aMem bMem le r s aRank bRank
  have aFound := (mem_matching.mp (List.mem_mergeSort.mp aMem)).2
  have bFound := (mem_matching.mp (List.mem_mergeSort.mp bMem)).2
  rw [← Option.some.inj (aFound.symm.trans aRank), ← Option.some.inj (bFound.symm.trans bRank)]
  exact (Rank.isLE_order_iff a.1 b.1).mp le

/-- Agents that are told from others by a property which fixes their rank are found as they
are listed. -/
theorem filter_ranked {p : Agent → Bool}
    (tied : ∀ a ∈ matching query agents, ∀ b ∈ matching query agents,
      p a.2 = true → p b.2 = true → (byRank a b).isLE = true) :
    (ranked query agents).filter p =
      (agents.filter fun a => (a.rank? query).isSome).filter p := by
  have sorted := filter_mergeSort (p := fun m : Rank × Agent => p m.2) tied
  rw [ranked_eq, ← map_snd_matching, List.filter_map, List.filter_map]
  exact congrArg (List.map (·.2)) sorted

/-- Agents of one rank are found as they are listed. -/
theorem filter_rank_ranked (r : Rank) :
    (ranked query agents).filter (fun a => a.rank? query = some r) =
      agents.filter fun a => a.rank? query = some r := by
  have tied : ∀ a ∈ matching query agents, ∀ b ∈ matching query agents,
      decide (a.2.rank? query = some r) = true → decide (b.2.rank? query = some r) = true →
        (byRank a b).isLE = true := by
    intro a aMem b bMem aRank bRank
    have same : some a.1 = some b.1 :=
      calc some a.1
          = a.2.rank? query := (mem_matching.mp aMem).2.symm
        _ = some r := of_decide_eq_true aRank
        _ = b.2.rank? query := (of_decide_eq_true bRank).symm
        _ = some b.1 := (mem_matching.mp bMem).2
    rw [byRank, Option.some.inj same]
    exact Std.ReflCmp.isLE_rfl
  rw [filter_ranked (p := fun a => a.rank? query = some r) query agents tied,
    List.filter_filter]
  refine List.filter_congr ?_
  intro a _
  cases a.rank? query with
  | none => simp
  | some other => simp

theorem ranks_ranked : Ranks query agents (ranked query agents) where
  perm := perm_ranked query agents
  ordered := pairwise_ranked query agents
  stable := filter_rank_ranked query agents

theorem best?_eq_head? : best? query agents = (ranked query agents).head? := by
  rw [ranked_eq, List.head?_map]
  unfold best?
  cases matching query agents with
  | nil => rw [List.mergeSort_nil]; rfl
  | cons first rest =>
      rw [head?_mergeSort]
      rfl

/-- A query of blanks finds nobody. -/
theorem ranked_of_blank {query : String} (blank : ∀ c ∈ query.toList, Text.isBlank c = true) :
    ranked query agents = [] := by
  have nothing : Text.trimmed? query = none := by
    rw [Text.trimmed?, Text.trim_of_blank blank]
    rfl
  rw [ranked_eq, matching, nothing, List.mergeSort_nil, List.map_nil]

end Found

/-- Agents of one rank are found in the order in which they are listed. -/
theorem Ranks.pairwise {query : String} {agents found : List Agent} {R : Agent → Agent → Prop}
    (ranks : Ranks query agents found) (listed : agents.Pairwise R) :
    found.Pairwise fun a b => a.rank? query = b.rank? query → R a b := by
  rw [List.pairwise_iff_forall_sublist]
  intro a b sub same
  have found := ranks.perm.subset (sub.subset List.mem_cons_self)
  obtain ⟨r, aRank⟩ := Option.isSome_iff_exists.mp (List.mem_filter.mp found).2
  have alone := sub.filter fun a => a.rank? query = some r
  rw [ranks.stable r] at alone
  have among : [a, b].Sublist agents := by
    simpa [aRank, ← same] using alone.trans List.filter_sublist
  exact List.pairwise_iff_forall_sublist.mp listed among

/-- The agents that are found are each time those whose names have a rank for the trimmed
query, in the order of their ranks and otherwise as they are listed; for blanks there are
none. The one that matches best is the first of them. Of agents that are listed in their
order the same are found however they were given, and of one rank the managers first, then
by name, then by key. -/
theorem found_in_order (query : String) (agents : List Agent) :
    Ranks query agents (ranked query agents) ∧
      ((∀ c ∈ query.toList, Text.isBlank c = true) → ranked query agents = []) ∧
      best? query agents = (ranked query agents).head? ∧
      (∀ others, agents.Perm others →
        ranked query (sort agents) = ranked query (sort others) ∧
          best? query (sort agents) = best? query (sort others)) ∧
      (ranked query (sort agents)).Pairwise fun a b =>
        a.rank? query = b.rank? query → a.Precedes b := by
  refine ⟨ranks_ranked query agents, ranked_of_blank agents, best?_eq_head? query agents, ?_, ?_⟩
  · intro others perm
    rw [sort_eq_of_perm perm]
    exact ⟨rfl, rfl⟩
  · exact (ranks_ranked query (sort agents)).pairwise (pairwise_sort agents)

/-- Two agents of one name, one of them a manager, are given in two orders. -/
theorem found_in_order_sample :
    let coder : Agent := { name := "Coder", key := "k2", isManager := false }
    let lead : Agent := { name := "coder", key := "k3", isManager := true }
    let helper : Agent := { name := "decoder", key := "k1", isManager := false }
    let agents := [helper, coder, lead, coder]
    let others := [coder, lead, coder, helper]
    agents.Perm others ∧ (∀ c ∈ "\t ".toList, Text.isBlank c = true) ∧
      ranked "\t " agents = [] ∧
      ranked " CODER " (sort agents) = ranked " CODER " (sort others) ∧
      (ranked " CODER " agents).head? = some coder ∧ best? " CODER " others = some coder := by
  intro coder lead helper agents others
  have perm : agents.Perm others := by decide
  have blank : ∀ c ∈ "\t ".toList, Text.isBlank c = true := List.all_eq_true.mp (by decide)
  have best : best? " CODER " agents = some coder := by decide +kernel
  have bestOfOthers : best? " CODER " others = some coder := by decide +kernel
  have first := (found_in_order " CODER " agents).2.2.1
  have same := ((found_in_order " CODER " agents).2.2.2.1 others perm).1
  exact ⟨perm, blank, (found_in_order "\t " agents).2.1 blank, same, first.symm.trans best,
    bestOfOthers⟩

end Agent

end Scrollback
