import Scrollback.Proofs.Text.Visible
import Scrollback.Proofs.Tool.Naming
import Scrollback.Proofs.Tool.Precedence

/-!
The summary of a call is never blank.

An argument counts only if something is left of it after trimming, and what is made of it by
cutting, shortening and quoting stays visible. Where a call has no argument to show, a word
stands in its place, or the name of the tool: the base of a name that belongs to a family is
visible (`Family.visible_of_ofBase?`), and a blank name is not shown. So there is something to
see in every summary (`visible_summarize`).
-/

namespace Scrollback.Tool

open Text

/-! ### Arguments -/

theorem Arguments.trimmed_of_text? {a : Arguments} {key text : String}
    (some : a.text? key = some text) : Trimmed text := by
  obtain ⟨value, -, found⟩ := Option.bind_eq_some_iff.mp some
  obtain ⟨whole, -, eq⟩ := Option.bind_eq_some_iff.mp found
  exact ⟨whole, eq⟩

theorem Arguments.trimmed_of_firstText? {a : Arguments} {keys : List String} {text : String}
    (first : a.firstText? keys = some text) : Trimmed text := by
  obtain ⟨key, -, eq⟩ := List.exists_of_findSome?_eq_some first
  exact trimmed_of_text? eq

/-! ### Names -/

/-- A base that fits the pattern of a family has a word of the pattern in it. -/
theorem Family.visible_of_ofBase? {base : String} {family : Family}
    (of : ofBase? base = some family) : Visible base := by
  have words : ∀ f ∈ all, (∀ name ∈ f.pattern.names, Visible name) ∧
      (∀ ending ∈ f.pattern.endings, Visible ending) ∧
      ∀ beginning ∈ f.pattern.beginnings, Visible beginning := by
    decide
  obtain ⟨names, endings, beginnings⟩ := words family (mem_all family)
  have found : all.find? (·.pattern.fits base) = some family := of
  have fits := List.find?_some found
  rcases Pattern.fits_iff.mp fits with name | ⟨ending, mem, ends⟩ |
    ⟨beginning, mem, begins⟩
  · exact names base name
  · exact (endings ending mem).of_subset ends.subset
  · exact (beginnings beginning mem).of_subset begins.subset

theorem visible_shownName (name : String) : Visible (shownName name) := by
  unfold shownName
  split
  · rename_i some
    exact visible_of_isSome_trimmed? some
  · decide

namespace Call

variable {c : Call}

/-! ### Parts of a line -/

/-- A quoted text shows its quotation marks at least. -/
theorem visible_quoted (s : String) : Visible (quoted s) :=
  (Visible.append_left (by decide) s).append_left _

theorem visible_of_pattern? {pattern : String} (some : c.pattern? = some pattern) :
    Visible pattern := by
  obtain ⟨whole, -, rfl⟩ := Option.map_eq_some_iff.mp some
  exact visible_quoted _

theorem visible_of_path? {path : String} (some : c.path? = some path) : Visible path := by
  obtain ⟨whole, first, rfl⟩ := Option.map_eq_some_iff.mp some
  exact (Arguments.trimmed_of_firstText? first).visible.shortenPath

theorem visible_of_fileTarget? {target : String} (some : c.fileTarget? = some target) :
    Visible target := by
  rw [fileTarget?, Option.or_eq_some_iff, Option.or_eq_some_iff] at some
  rcases some with description | ⟨-, path | ⟨-, pattern⟩⟩
  · obtain ⟨whole, eq, rfl⟩ := Option.map_eq_some_iff.mp description
    exact (Arguments.trimmed_of_text? eq).visible.ellipsize (by decide)
  · exact visible_of_path? path
  · exact visible_of_pattern? pattern

theorem visible_of_target? {target : String} (some : c.target? = some target) :
    Visible target := by
  rcases Option.or_eq_some_iff.mp some with path | ⟨-, pattern⟩
  · exact visible_of_path? path
  · exact visible_of_pattern? pattern

theorem visible_of_verb? {verb : String} (some : c.verb? = some verb) : Visible verb := by
  have table : ∀ entry ∈ verbs, Visible entry.2 := by decide
  obtain ⟨entry, found, rfl⟩ := Option.map_eq_some_iff.mp some
  exact table entry (List.mem_of_find?_eq_some found)

/-! ### Lines of the families -/

/-- A description is shown whole, a command is cut, and the base of a shell is a word. -/
theorem visible_shellLine (base : Visible c.base) : Visible c.shellLine := by
  refine visible_getD ?_ base
  intro text some
  rcases Option.or_eq_some_iff.mp some with description | ⟨-, command⟩
  · exact (Arguments.trimmed_of_text? description).visible
  · obtain ⟨whole, eq, rfl⟩ := Option.map_eq_some_iff.mp command
    exact (Arguments.trimmed_of_text? eq).visible.ellipsize (by decide)

theorem visible_askLine (c : Call) : Visible c.askLine := by
  have asking : Visible "Asking: " := by decide
  unfold askLine
  split
  · exact asking.append_left _
  · exact (((asking.append_left _).append_left _).append_left _).append_left _

theorem visible_searchLine (c : Call) : Visible c.searchLine := by
  refine visible_getD ?_ (by decide)
  intro sought some
  rcases Option.or_eq_some_iff.mp some with pattern | ⟨-, path⟩
  · exact visible_of_pattern? pattern
  · exact visible_of_path? path

theorem visible_delegateLine (c : Call) : Visible c.delegateLine := by
  refine Visible.ellipsize ?_ (by decide)
  refine visible_getD ?_ (by decide)
  intro task first
  exact (Arguments.trimmed_of_firstText? first).visible

theorem visible_conversationLine (c : Call) : Visible c.conversationLine := by
  unfold conversationLine
  split
  · exact Visible.append_right (visible_quoted _) _
  · refine visible_getD ?_ (by decide)
    intro id some
    obtain ⟨whole, first, rfl⟩ := Option.map_eq_some_iff.mp some
    exact (Arguments.trimmed_of_firstText? first).visible_cut (by decide)

theorem visible_ofFamily {family : Family} (of : Family.ofBase? c.base = some family) :
    Visible (c.ofFamily family).text := by
  cases family with
  | todo => exact Visible.append_right (by decide) _
  | shell => exact visible_shellLine (Family.visible_of_ofBase? of)
  | ask => exact visible_askLine c
  | read => exact visible_getD (fun _ => visible_of_fileTarget?) (by decide)
  | write =>
      refine visible_getD (fun _ => visible_of_fileTarget?) ?_
      split <;> decide
  | search => exact visible_searchLine c
  | delegate => exact visible_delegateLine c
  | model => exact Visible.append_left (by decide) _
  | conversation => exact visible_conversationLine c

/-! ### Tools of no family -/

theorem visible_actionLine (c : Call) (name : String) : Visible (c.actionLine name) := by
  unfold actionLine
  cases verb : c.verb? with
  | some v =>
      cases c.target? with
      | some target => exact ((visible_of_verb? verb).append_left _).append_left _
      | none => exact visible_of_verb? verb
  | none =>
      cases target : c.target? with
      | some t => exact visible_of_target? target
      | none => exact visible_shownName name

theorem visible_plainLine (c : Call) (name : String) (fallback : Option String) :
    Visible (c.plainLine name fallback) := by
  unfold plainLine
  cases shown : (c.arguments.text? "description").or (fallback.bind trimmed?) with
  | none => exact visible_actionLine c name
  | some text =>
      have trimmed : Trimmed text := by
        rcases Option.or_eq_some_iff.mp shown with description | ⟨-, message⟩
        · exact Arguments.trimmed_of_text? description
        · obtain ⟨whole, -, eq⟩ := Option.bind_eq_some_iff.mp message
          exact ⟨whole, eq⟩
      exact trimmed.visible.ellipsize (by decide)

end Call

/-- Whatever the name of the tool, its arguments and the text of the message, the summary of a
call has a character in it that is not blank. -/
theorem visible_summarize (name : String) (arguments fallback : Option String) :
    Visible (summarize name arguments fallback).text := by
  cases of : Family.of? name with
  | some family =>
      rw [summarize_of_family arguments fallback of]
      exact Call.visible_ofFamily ((family_callOf name arguments).trans of)
  | none =>
      rw [summarize_of_none arguments fallback of]
      exact Call.visible_plainLine _ name fallback

end Scrollback.Tool
