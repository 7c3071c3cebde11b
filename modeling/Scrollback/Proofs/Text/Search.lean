import Mathlib.Data.List.Infix
import Mathlib.Order.Bounds.Basic
import Scrollback.Text.Find

/-!
Where one text is found in another.

The offset of a text is the least one at which it occurs (`offset?_eq_some_iff`). Letters
that are each taken at their first occurrence reach no further than any other way of meeting
them in order: their reach is the length of the shortest start of the text that has them
(`reach?_eq_some_iff`).
-/

namespace Scrollback.Text

/-- What is found is the least of the numbers with a property, when it has the property
and one that is no greater is found for each that has it. -/
theorem eq_some_iff_isLeast {found : Option Nat} {property : Nat → Prop}
    (sound : ∀ n, found = some n → property n)
    (least : ∀ n, property n → ∃ m, found = some m ∧ m ≤ n) {n : Nat} :
    found = some n ↔ IsLeast {m | property m} n := by
  constructor
  · intro eq
    refine ⟨sound n eq, ?_⟩
    intro m holds
    obtain ⟨other, eq', le⟩ := least m holds
    rw [eq, Option.some.injEq] at eq'
    exact eq' ▸ le
  · rintro ⟨holds, lower⟩
    obtain ⟨m, eq, le⟩ := least n holds
    have ge : n ≤ m := lower (sound m eq)
    rw [eq, Nat.le_antisymm le ge]

section Offset

variable {sought cs : List Char}

/-- A text occurs at its offset. -/
theorem prefix_of_offset? {offset : Nat} (found : offset? sought cs = some offset) :
    sought <+: cs.drop offset := by
  induction cs generalizing offset with
  | nil =>
      unfold offset? at found
      split at found
      · rename_i empty
        rw [List.isEmpty_iff.mp empty]
        exact List.nil_prefix
      · cases found
  | cons c cs ih =>
      unfold offset? at found
      split at found
      · rename_i start
        cases found
        exact List.isPrefixOf_iff_prefix.mp start
      · obtain ⟨inner, foundInside, rfl⟩ := Option.map_eq_some_iff.mp found
        exact ih foundInside

/-- Where a text occurs, its offset is no greater. -/
theorem exists_offset?_le {place : Nat} (occurs : sought <+: cs.drop place) :
    ∃ offset, offset? sought cs = some offset ∧ offset ≤ place := by
  induction cs generalizing place with
  | nil =>
      rw [List.drop_nil, List.prefix_nil] at occurs
      exact ⟨0, by rw [occurs]; rfl, Nat.zero_le place⟩
  | cons c cs ih =>
      unfold offset?
      split
      · exact ⟨0, rfl, Nat.zero_le place⟩
      · rename_i no
        cases place with
        | zero => exact absurd (List.isPrefixOf_iff_prefix.mpr occurs) no
        | succ place =>
            obtain ⟨offset, found, le⟩ := ih occurs
            exact ⟨offset + 1, by rw [found]; rfl, Nat.succ_le_succ le⟩

/-- The offset of a text is the least one at which it occurs. -/
theorem offset?_eq_some_iff {offset : Nat} :
    offset? sought cs = some offset ↔ IsLeast {place | sought <+: cs.drop place} offset :=
  eq_some_iff_isLeast (fun _ => prefix_of_offset?) fun _ => exists_offset?_le

theorem offset?_eq_none_iff : offset? sought cs = none ↔ ¬ sought <:+: cs := by
  rw [← occurs_iff, ← isSome_offset?, Option.not_isSome_iff_eq_none]

end Offset

section Reach

variable {sought cs : List Char}

/-- As far as the letters reach, the text has them in order. -/
theorem exists_start_of_reach? {reach : Nat} (found : reach? sought cs = some reach) :
    ∃ start, start <+: cs ∧ sought.Sublist start ∧ start.length = reach := by
  induction cs generalizing sought reach with
  | nil =>
      cases sought with
      | nil =>
          cases found
          exact ⟨[], List.nil_prefix, List.Sublist.slnil, rfl⟩
      | cons q qs => cases found
  | cons c cs ih =>
      cases sought with
      | nil =>
          cases found
          exact ⟨[], List.nil_prefix, List.Sublist.slnil, rfl⟩
      | cons q qs =>
          obtain ⟨inner, foundInside, rfl⟩ := Option.map_eq_some_iff.mp found
          split at foundInside
          · rename_i eq
            obtain ⟨start, begins, has, length⟩ := ih foundInside
            refine ⟨c :: start, List.cons_prefix_cons.mpr ⟨rfl, begins⟩, ?_, ?_⟩
            · rw [eq]
              exact has.cons_cons c
            · rw [List.length_cons, length]
          · obtain ⟨start, begins, has, length⟩ := ih foundInside
            refine ⟨c :: start, List.cons_prefix_cons.mpr ⟨rfl, begins⟩, has.cons c, ?_⟩
            rw [List.length_cons, length]

/-- However a start of the text has the letters in order, each taken at its first
occurrence reaches no further. -/
theorem exists_reach?_le {start : List Char} (begins : start <+: cs)
    (has : sought.Sublist start) :
    ∃ reach, reach? sought cs = some reach ∧ reach ≤ start.length := by
  induction cs generalizing sought start with
  | nil =>
      cases List.prefix_nil.mp begins
      cases List.sublist_nil.mp has
      exact ⟨0, rfl, Nat.le_refl 0⟩
  | cons c cs ih =>
      cases sought with
      | nil => exact ⟨0, rfl, Nat.zero_le _⟩
      | cons q qs =>
          cases start with
          | nil => cases has
          | cons first rest =>
              obtain ⟨rfl, restBegins⟩ := List.cons_prefix_cons.mp begins
              rw [reach?, List.length_cons]
              -- The first letter is met here or later; the greedy choice gives up nothing.
              by_cases here : q = first
              · obtain ⟨reach, found, le⟩ := ih restBegins has.of_cons_cons
                rw [if_pos here, found]
                exact ⟨reach + 1, rfl, Nat.succ_le_succ le⟩
              · have later : (q :: qs).Sublist rest := by
                  cases has with
                  | cons _ later => exact later
                  | cons_cons _ _ => exact absurd rfl here
                obtain ⟨reach, found, le⟩ := ih restBegins later
                rw [if_neg here, found]
                exact ⟨reach + 1, rfl, Nat.succ_le_succ le⟩

/-- The reach of letters is the length of the shortest start of the text that has them in
order. -/
theorem reach?_eq_some_iff {reach : Nat} :
    reach? sought cs = some reach ↔
      IsLeast {length | ∃ start, start <+: cs ∧ sought.Sublist start ∧ start.length = length}
        reach := by
  refine eq_some_iff_isLeast (fun _ => exists_start_of_reach?) ?_
  rintro length ⟨start, begins, has, rfl⟩
  exact exists_reach?_le begins has

theorem reach?_eq_none_iff : reach? sought cs = none ↔ ¬ sought.Sublist cs := by
  constructor
  · intro none has
    obtain ⟨reach, found, -⟩ := exists_reach?_le List.prefix_rfl has
    rw [none] at found
    cases found
  · intro lacks
    rw [Option.eq_none_iff_forall_ne_some]
    intro reach found
    obtain ⟨start, begins, has, -⟩ := exists_start_of_reach? found
    exact lacks (has.trans begins.sublist)

end Reach

end Scrollback.Text
