import Mathlib.Data.List.TakeWhile
import Scrollback.Text.Lowercase

/-!
The lowercase of the beginning of a text.

Every character but one has the same lowercase wherever it stands. A capital sigma looks past
the ignorable characters after it for the rest of its word. So the lowercase of the beginning
of a text is the beginning of its lowercase, unless the text is cut inside a word right after
a capital sigma (`lowerChars_prefix_iff`).
-/

namespace Scrollback.Text

namespace Lowercase

/-- A text that follows `before`, nearest character first, is cut inside a word right after a
capital sigma: up to ignorable characters `start` ends in the sigma, which has a letter before
it and a letter of `rest` after it. -/
def CutsSigma (before start rest : List Char) : Prop :=
  ∃ word passed, start = word ++ 'Σ' :: passed ∧ (∀ c ∈ passed, isIgnorable c = true) ∧
    nearestIsCased (word.reverse ++ before) = true ∧ nearestIsCased rest = true

theorem not_cutsSigma_nil (before rest : List Char) : ¬ CutsSigma before [] rest := by
  rintro ⟨word, passed, eq, -⟩
  cases word <;> cases eq

theorem cutsSigma_cons_iff {before start rest : List Char} {c : Char} :
    CutsSigma before (c :: start) rest ↔
      (c = 'Σ' ∧ (∀ d ∈ start, isIgnorable d = true) ∧ nearestIsCased before = true ∧
        nearestIsCased rest = true) ∨ CutsSigma (c :: before) start rest := by
  constructor
  · rintro ⟨word, passed, eq, ignorable, cased, goesOn⟩
    cases word with
    | nil =>
        cases eq
        exact Or.inl ⟨rfl, ignorable, cased, goesOn⟩
    | cons d word =>
        cases eq
        rw [List.reverse_cons, List.append_assoc] at cased
        exact Or.inr ⟨word, passed, rfl, ignorable, cased, goesOn⟩
  · rintro (⟨rfl, ignorable, cased, goesOn⟩ | ⟨word, passed, rfl, ignorable, cased, goesOn⟩)
    · exact ⟨[], start, rfl, ignorable, cased, goesOn⟩
    · refine ⟨c :: word, passed, rfl, ignorable, ?_, goesOn⟩
      rw [List.reverse_cons, List.append_assoc]
      exact cased

instance decidableCutsSigma (before : List Char) :
    (start rest : List Char) → Decidable (CutsSigma before start rest)
  | [], rest => isFalse (not_cutsSigma_nil before rest)
  | c :: start, rest =>
      have := decidableCutsSigma (c :: before) start rest
      -- By the list, and not by all the characters there are.
      have : Decidable (∀ d ∈ start, isIgnorable d = true) := List.decidableBAll _ start
      decidable_of_iff' _ cutsSigma_cons_iff

section Nearest

variable {after : List Char}

theorem nearestIsCased_of_ignorable (ignorable : ∀ c ∈ after, isIgnorable c = true)
    (rest : List Char) : nearestIsCased (after ++ rest) = nearestIsCased rest := by
  rw [nearestIsCased, List.dropWhile_append_of_pos ignorable]
  rfl

/-- What is after a character that is not ignorable does not count. -/
theorem nearestIsCased_append (more : ¬ ∀ c ∈ after, isIgnorable c = true) (rest : List Char) :
    nearestIsCased (after ++ rest) = nearestIsCased after := by
  have left : after.dropWhile isIgnorable ≠ [] :=
    fun none => more (List.dropWhile_eq_nil_iff.mp none)
  obtain ⟨c, kept, eq⟩ := List.exists_cons_of_ne_nil left
  rw [nearestIsCased, nearestIsCased, List.dropWhile_append, eq]
  rfl

end Nearest

/-- What is added to a text changes a capital sigma in it when the text has no other letter
after the sigma, and what is added goes on with its word. -/
theorem ofSigma_append_iff (before after rest : List Char) :
    ofSigma before after = ofSigma before (after ++ rest) ↔
      ¬ ((∀ c ∈ after, isIgnorable c = true) ∧ nearestIsCased before = true ∧
        nearestIsCased rest = true) := by
  by_cases ignorable : ∀ c ∈ after, isIgnorable c = true
  · have ends : nearestIsCased after = false := by
      rw [← List.append_nil after, nearestIsCased_of_ignorable ignorable]
      rfl
    rw [ofSigma, ofSigma, nearestIsCased_of_ignorable ignorable, ends, and_iff_right ignorable]
    cases nearestIsCased before <;> cases nearestIsCased rest <;> decide
  · rw [ofSigma, ofSigma, nearestIsCased_append ignorable]
    simp [ignorable]

theorem following_prefix_iff (before start rest : List Char) :
    following before start <+: following before (start ++ rest) ↔
      ¬ CutsSigma before start rest := by
  induction start generalizing before with
  | nil => simp [following, not_cutsSigma_nil]
  | cons c start ih =>
      rw [List.cons_append, following, following, cutsSigma_cons_iff, not_or, ← ih]
      -- Only a sigma looks at what comes after it, so nothing else can make a difference.
      by_cases sigma : c = 'Σ'
      · rw [if_pos sigma, if_pos sigma, List.singleton_append, List.singleton_append,
          List.cons_prefix_cons, ofSigma_append_iff]
        simp [sigma]
      · rw [if_neg sigma, if_neg sigma, List.prefix_append_right_inj]
        simp [sigma]

theorem following_eq_nil_iff {before cs : List Char} : following before cs = [] ↔ cs = [] := by
  cases cs with
  | nil => simp [following]
  | cons c after =>
      have some : ofChar c ≠ [] := by
        unfold ofChar
        split
        · exact List.cons_ne_nil _ _
        · split <;> exact List.cons_ne_nil _ _
      rw [following]
      split <;> simp [some]

end Lowercase

/-- The lowercase of the beginning of a text is the beginning of its lowercase, unless the text
is cut inside a word right after a capital sigma. -/
theorem lowerChars_prefix_iff (start rest : List Char) :
    lowerChars start <+: lowerChars (start ++ rest) ↔ ¬ Lowercase.CutsSigma [] start rest :=
  Lowercase.following_prefix_iff [] start rest

theorem lowerChars_eq_nil_iff {cs : List Char} : lowerChars cs = [] ↔ cs = [] :=
  Lowercase.following_eq_nil_iff

end Scrollback.Text
