import Scrollback.Proofs.Attachment.Eviction

/-!
Few distinct contents.

A cache that has room for all contents that are read evicts nothing. Each of them is parsed when
it is read first, and found ever after (`Emptied.missed_once`), so that the counts depend on how
many contents are read and how many of them are distinct, and on nothing else
(`Emptied.stats_readAll`).
-/

namespace Scrollback.Attachment.Cache

/-! ### Distinct contents -/

theorem length_dedup_le_of_subset {first second : List String}
    (subset : ∀ content ∈ first, content ∈ second) :
    first.dedup.length ≤ second.dedup.length := by
  refine (List.Nodup.subperm (List.nodup_dedup first) ?_).length_le
  intro content mem
  exact List.mem_dedup.mpr (subset content (List.mem_dedup.mp mem))

/-- A list of each content once is as long as there are distinct contents. -/
theorem length_eq_dedup {log contents : List String} (nodup : log.Nodup)
    (mem_iff : ∀ content, content ∈ log ↔ content ∈ contents) :
    log.length = contents.dedup.length := by
  refine List.Perm.length_eq ?_
  rw [List.perm_ext_iff_of_nodup nodup (List.nodup_dedup contents)]
  intro content
  rw [mem_iff, List.mem_dedup]

/-! ### Room for all -/

section Emptied

variable {capacity : Nat} {digest : String → String} {start : Cache} {contents : List String}

/-- While everything that was missed is still there, a content is found exactly if it has been
read before. -/
theorem Emptied.holds_readAll_iff (emptied : Emptied capacity digest start) {content : String}
    (apart : Set.InjOn digest {other | other ∈ contents ++ [content]})
    (room : (start.missed contents).length ≤ start.capacity)
    (mem_iff : ∀ other, other ∈ start.missed contents ↔ other ∈ contents) :
    (start.readAll contents).Holds content ↔ content ∈ contents := by
  have among : ∀ other ∈ start.missed contents, other ∈ contents ++ [content] :=
    fun other mem => List.mem_append_left _ ((mem_iff other).mp mem)
  have iff := (emptied.logged_readAll contents).holds_iff (emptied.digest_eq ▸ apart) among
    (List.mem_append_right _ List.mem_cons_self)
  rw [evicted_of_le room, List.drop_zero] at iff
  exact iff.trans (mem_iff content)

/-- While there is room for all contents, each is missed the first time and never again. -/
theorem Emptied.missed_once (emptied : Emptied capacity digest start)
    (apart : Set.InjOn digest {content | content ∈ contents})
    (few : contents.dedup.length ≤ start.capacity) :
    (start.missed contents).Nodup ∧
      ∀ content, content ∈ start.missed contents ↔ content ∈ contents := by
  induction contents using List.reverseRecOn with
  | nil => exact ⟨List.nodup_nil, fun content => Iff.rfl⟩
  | append_singleton contents content ih =>
      have earlier : ∀ other ∈ contents, other ∈ contents ++ [content] :=
        fun other => List.mem_append_left _
      have fewer := (length_dedup_le_of_subset earlier).trans few
      obtain ⟨nodup, mem_iff⟩ := ih (apart.mono earlier) fewer
      have room := length_eq_dedup nodup mem_iff ▸ fewer
      rw [missed_concat, if_congr (emptied.holds_readAll_iff apart room mem_iff) rfl rfl]
      by_cases old : content ∈ contents
      · rw [if_pos old, List.append_nil]
        refine ⟨nodup, ?_⟩
        intro other
        rw [mem_iff, List.mem_append, List.mem_singleton, or_iff_left_of_imp]
        rintro rfl
        exact old
      · rw [if_neg old]
        have new : content ∉ start.missed contents := fun mem => old ((mem_iff content).mp mem)
        constructor
        · rw [← List.concat_eq_append]
          exact nodup.concat new
        · intro other
          rw [List.mem_append, List.mem_append, mem_iff]

/-- While there is room for all contents, their number is that of the parses, and nothing is
evicted. So the order in which they are read makes no difference to what is counted. -/
theorem Emptied.stats_readAll (emptied : Emptied capacity digest start)
    (apart : Set.InjOn digest {content | content ∈ contents})
    (few : contents.dedup.length ≤ start.capacity) :
    (start.readAll contents).stats =
      ⟨start.stats.hits + (contents.length - contents.dedup.length),
        start.stats.parses + contents.dedup.length, start.stats.evictions⟩ := by
  obtain ⟨nodup, mem_iff⟩ := emptied.missed_once apart few
  have length := length_eq_dedup nodup mem_iff
  have logged := emptied.logged_readAll contents
  have parses := logged.parses_eq
  have evictions := logged.evictions_eq
  rw [length] at parses evictions
  rw [evicted_of_le few, Nat.add_zero] at evictions
  have hits : (start.readAll contents).stats.hits =
      start.stats.hits + (contents.length - contents.dedup.length) := by
    have total := hits_readAll start contents
    have fewer := (List.dedup_sublist contents).length_le
    rw [length] at total
    omega
  calc (start.readAll contents).stats
      = ⟨(start.readAll contents).stats.hits, (start.readAll contents).stats.parses,
          (start.readAll contents).stats.evictions⟩ := rfl
    _ = _ := by rw [hits, parses, evictions]

end Emptied

end Scrollback.Attachment.Cache
