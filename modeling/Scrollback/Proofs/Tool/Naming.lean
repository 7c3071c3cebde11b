import Mathlib.Tactic.ByContra
import Scrollback.Tool.Summary

/-!
Names of one tool.

A tool has many names: the case of its letters does not count, and neither does the server it
is reached through (`SameTool`). All names of a tool have one base (`SameTool.baseName_eq`),
and everything about a call is decided by the base, except that a call with nothing else to
show is summarised by the name as it stands. So the names of a tool are treated alike
(`names_treated_alike`).
-/

namespace Scrollback

/-- A text has no rest after a text that it does not begin with. -/
theorem Text.after?_eq_none_iff {start cs : List Char} :
    after? start cs = none ↔ ¬ start <+: cs := by
  rw [Option.eq_none_iff_forall_ne_some]
  constructor
  · rintro none ⟨rest, rfl⟩
    exact none rest (after?_eq_some_iff.mpr rfl)
  · intro no rest some
    exact no ⟨rest, (after?_eq_some_iff.mp some).symm⟩

namespace Tool

/-! ### Bases of names -/

theorem afterDouble?_eq_none {cs : List Char} (single : ¬ ['_', '_'] <:+: cs) :
    afterDouble? cs = none := by
  induction cs with
  | nil => rfl
  | cons c cs ih =>
      rw [List.infix_cons_iff, not_or] at single
      rw [afterDouble?, ih single.2, Text.after?_eq_none_iff.mpr single.1, Option.none_or]

/-- What follows the last double underscore is what follows a double underscore and has none
itself. It may not begin with an underscore, which would be part of a later one. -/
theorem afterDouble?_append {cs : List Char} (single : ¬ ['_', '_'] <:+: cs)
    (head : ¬ ['_'] <+: cs) (before : List Char) :
    afterDouble? (before ++ '_' :: '_' :: cs) = some cs := by
  induction before with
  | nil =>
      have later : ¬ ['_', '_'] <+: '_' :: cs := by
        rintro ⟨rest, eq⟩
        exact head ⟨rest, List.tail_eq_of_cons_eq eq⟩
      have first : Text.after? ['_', '_'] ('_' :: '_' :: cs) = some cs :=
        Text.after?_eq_some_iff.mpr rfl
      rw [List.nil_append, afterDouble?, afterDouble?, afterDouble?_eq_none single,
        Text.after?_eq_none_iff.mpr later, first]
      rfl
  | cons c before ih => rw [List.cons_append, afterDouble?, ih, Option.some_or]

/-- A name without a double underscore is its own base. -/
theorem baseChars_of_single {cs : List Char} (single : ¬ ['_', '_'] <:+: cs) :
    baseChars cs = cs := by
  have plain : Text.after? ['m', 'c', 'p', '_', '_'] cs = none := by
    rw [Text.after?_eq_none_iff]
    rintro ⟨rest, rfl⟩
    exact single ⟨['m', 'c', 'p'], rest, rfl⟩
  rw [baseChars, plain]

/-- The base of a name is what follows the server. -/
theorem baseChars_server {tool : List Char} (single : ¬ ['_', '_'] <:+: tool)
    (head : ¬ ['_'] <+: tool) (server : List Char) :
    baseChars ("mcp__".toList ++ (server ++ '_' :: '_' :: tool)) = tool := by
  have rest : Text.after? ['m', 'c', 'p', '_', '_']
      ("mcp__".toList ++ (server ++ '_' :: '_' :: tool)) =
        some (server ++ '_' :: '_' :: tool) := Text.after?_eq_some_iff.mpr rfl
  rw [baseChars, rest]
  simp only [afterDouble?_append single head, Option.getD_some]

theorem afterDouble?_suffix {cs rest : List Char} (some : afterDouble? cs = some rest) :
    rest <:+ cs := by
  induction cs with
  | nil => cases some
  | cons c cs ih =>
      rw [afterDouble?, Option.or_eq_some_iff] at some
      rcases some with later | ⟨-, here⟩
      · exact (ih later).trans (List.suffix_cons c cs)
      · rw [Text.after?_eq_some_iff.mp here]
        exact List.suffix_append _ rest

/-- The base of a name is what it ends in. -/
theorem baseChars_suffix (cs : List Char) : baseChars cs <:+ cs := by
  unfold baseChars
  split
  · rename_i rest eq
    have ends : rest <:+ cs := by
      rw [Text.after?_eq_some_iff.mp eq]
      exact List.suffix_append _ rest
    cases double : afterDouble? rest with
    | none => exact ends
    | some tool => exact (afterDouble?_suffix double).trans ends
  · exact List.suffix_refl cs

/-- Two names of one tool: they differ in case alone, or the first reaches the other through a
server. -/
inductive SameTool (name other : String) : Prop where
  | case : Text.lowercase name = Text.lowercase other → SameTool name other
  | server (server : String) :
      Text.lowercase name = "mcp__" ++ server ++ "__" ++ Text.lowercase other →
      ¬ ['_', '_'] <:+: (Text.lowercase other).toList →
      ¬ ['_'] <+: (Text.lowercase other).toList → SameTool name other

theorem SameTool.baseName_eq {name other : String} (same : SameTool name other) :
    baseName name = baseName other := by
  cases same with
  | case same => exact baseName_congr same
  | server server through single head =>
      have chars : (Text.lowercase name).toList =
          "mcp__".toList ++ (server.toList ++ '_' :: '_' :: (Text.lowercase other).toList) := by
        rw [through]
        simp
      rw [baseName, baseName, chars, baseChars_server single head, baseChars_of_single single]

/-! ### What a summary depends on -/

/-- The icon of a family. -/
def Family.icon : Family → Icon
  | .todo => .checklist
  | .shell => .terminal
  | .ask => .question
  | .read => .fileRead
  | .write => .fileEdit
  | .search => .search
  | .delegate => .delegate
  | .model => .model
  | .conversation => .conversation

theorem Family.icon_ne_tool (family : Family) : family.icon ≠ .tool := by
  cases family <;> decide

theorem Call.icon_ofFamily (c : Call) (family : Family) :
    (c.ofFamily family).icon = family.icon := by
  cases family <;> rfl

/-- What a call is summarised by when it has nothing else to show: the name as it stands, unless
it is blank. -/
def shownName (name : String) : String :=
  if (Text.trimmed? name).isSome then name else "tool"

/-- A call has nothing to show but the name of its tool. -/
structure Call.HasOnlyName (c : Call) (fallback : Option String) : Prop where
  family : Family.ofBase? c.base = none
  description : c.arguments.text? "description" = none
  message : fallback.bind Text.trimmed? = none
  verb : c.verb? = none
  target : c.target? = none

theorem Call.actionLine_of_some {c : Call} (some : ¬ (c.verb? = none ∧ c.target? = none))
    (name other : String) : c.actionLine name = c.actionLine other := by
  cases verb : c.verb? with
  | some v => cases target : c.target? <;> simp only [actionLine, verb, target]
  | none =>
      cases target : c.target? with
      | some t => simp only [actionLine, verb, target]
      | none => exact absurd ⟨verb, target⟩ some

section Summary

variable (name : String) (arguments fallback : Option String)

/-- A call as its base and its arguments. -/
def callOf : Call :=
  ⟨baseName name, .ofText? arguments⟩

theorem family_callOf : Family.ofBase? (callOf name arguments).base = Family.of? name := by
  rw [callOf, Family.of?]

variable {name}

theorem summarize_of_family {family : Family} (of : Family.of? name = some family) :
    summarize name arguments fallback = (callOf name arguments).ofFamily family := by
  unfold Family.of? at of
  unfold summarize callOf
  generalize baseName name = base at *
  simp only [of]

theorem summarize_of_none (of : Family.of? name = none) :
    summarize name arguments fallback =
      ⟨.tool, (callOf name arguments).plainLine name fallback⟩ := by
  unfold Family.of? at of
  unfold summarize callOf
  generalize baseName name = base at *
  simp only [of]

variable (name)

/-- The icon says which family a tool belongs to, if it belongs to one. -/
theorem icon_summarize :
    (summarize name arguments fallback).icon = ((Family.of? name).map Family.icon).getD .tool := by
  cases of : Family.of? name with
  | some family =>
      rw [summarize_of_family arguments fallback of, Call.icon_ofFamily]
      rfl
  | none =>
      rw [summarize_of_none arguments fallback of]
      rfl

theorem icon_summarize_eq_tool_iff :
    (summarize name arguments fallback).icon = .tool ↔ Family.of? name = none := by
  rw [icon_summarize]
  cases Family.of? name with
  | none => simp
  | some family => simp [family.icon_ne_tool]

/-- The text of the message counts only for a tool of no family without a description. -/
theorem summarize_congr_fallback (fallback' : Option String)
    (matters : Family.of? name = none → (Arguments.ofText? arguments).text? "description" ≠ none) :
    summarize name arguments fallback = summarize name arguments fallback' := by
  cases of : Family.of? name with
  | some family =>
      rw [summarize_of_family arguments fallback of, summarize_of_family arguments fallback' of]
  | none =>
      obtain ⟨description, eq⟩ := Option.ne_none_iff_exists'.mp (matters of)
      have eq' : (callOf name arguments).arguments.text? "description" = some description := eq
      rw [summarize_of_none arguments fallback of, summarize_of_none arguments fallback' of]
      simp only [Call.plainLine, eq', Option.some_or]

end Summary

/-- Calls of one base under two names show the same, unless they have nothing but the names to
show. -/
theorem Call.plainLine_congr {c : Call} {fallback : Option String}
    (of : Family.ofBase? c.base = none) (more : ¬ c.HasOnlyName fallback) (name other : String) :
    c.plainLine name fallback = c.plainLine other fallback := by
  cases text : (c.arguments.text? "description").or (fallback.bind Text.trimmed?) with
  | some t => simp only [plainLine, text]
  | none =>
      obtain ⟨description, message⟩ := Option.or_eq_none_iff.mp text
      simp only [plainLine, text]
      apply actionLine_of_some
      rintro ⟨verb, target⟩
      exact more ⟨of, description, message, verb, target⟩

theorem Call.plainLine_of_hasOnlyName {c : Call} {fallback : Option String}
    (only : c.HasOnlyName fallback) (name : String) :
    c.plainLine name fallback = shownName name := by
  simp only [plainLine, only.description, only.message, Option.or_none, actionLine, only.verb,
    only.target]
  rfl

/-- What it is for two names to be treated alike: the family, whether references are shown, the
icon and the text of every call agree, unless a call has only its name to show. Then each shows
its own. -/
structure TreatedAlike (name other : String) : Prop where
  family : Family.of? name = Family.of? other
  references : showsReferences (some name) = showsReferences (some other)
  icon (arguments fallback : Option String) :
    (summarize name arguments fallback).icon = (summarize other arguments fallback).icon
  text (arguments fallback : Option String) :
    ¬ (callOf name arguments).HasOnlyName fallback →
      (summarize name arguments fallback).text = (summarize other arguments fallback).text
  names (arguments fallback : Option String) :
    (callOf name arguments).HasOnlyName fallback →
      (summarize name arguments fallback).text = shownName name ∧
      (summarize other arguments fallback).text = shownName other

theorem treatedAlike_of_baseName_eq {name other : String} (base : baseName name = baseName other) :
    TreatedAlike name other := by
  have family : Family.of? name = Family.of? other := by
    rw [Family.of?, base, Family.of?]
  have call (arguments : Option String) : callOf name arguments = callOf other arguments := by
    rw [callOf, base, callOf]
  constructor
  case family => exact family
  case references => rw [showsReferences, base, showsReferences]
  case icon =>
    intro arguments fallback
    rw [icon_summarize, icon_summarize, family]
  case text =>
    intro arguments fallback more
    cases of : Family.of? name with
    | some f =>
        rw [summarize_of_family arguments fallback of,
          summarize_of_family arguments fallback (family ▸ of), call]
    | none =>
        rw [summarize_of_none arguments fallback of,
          summarize_of_none arguments fallback (family ▸ of), ← call]
        exact Call.plainLine_congr ((family_callOf name arguments).trans of) more name other
  case names =>
    intro arguments fallback only
    have of : Family.of? name = none := by
      rw [← family_callOf name arguments, only.family]
    rw [summarize_of_none arguments fallback of,
      summarize_of_none arguments fallback (family ▸ of), ← call]
    exact ⟨Call.plainLine_of_hasOnlyName only name, Call.plainLine_of_hasOnlyName only other⟩

/-- Neither case nor server changes how a tool is treated: all names of a tool are treated
alike, whatever the arguments of a call and the text of its message. The icon of a call says the
family of the tool, and no more: it is the icon for tools exactly if the tool has no family. The
text of the message counts only for a tool of no family that is called without a description. -/
theorem names_treated_alike :
    (∀ name other, SameTool name other → TreatedAlike name other) ∧
    (∀ name arguments fallback,
      ((summarize name arguments fallback).icon = .tool ↔ Family.of? name = none) ∧
      ∀ family, Family.of? name = some family →
        (summarize name arguments fallback).icon = family.icon) ∧
    ∀ name arguments fallback fallback',
      (summarize name arguments fallback).text ≠ (summarize name arguments fallback').text →
        Family.of? name = none ∧ (Arguments.ofText? arguments).text? "description" = none := by
  refine ⟨fun name other same => treatedAlike_of_baseName_eq same.baseName_eq, ?_, ?_⟩
  · intro name arguments fallback
    refine ⟨icon_summarize_eq_tool_iff name arguments fallback, ?_⟩
    intro family of
    rw [icon_summarize, of]
    rfl
  · intro name arguments fallback fallback' differ
    by_contra other
    refine differ (congrArg Summary.text ?_)
    exact summarize_congr_fallback name arguments fallback fallback' (not_and.mp other)

/-- A tool of no family, reached through a server or not. Its name is all that a call without
arguments has to show. -/
theorem names_treated_alike_frob :
    TreatedAlike "MCP__lab__v2__Frob" "frob" ∧
    (summarize "MCP__lab__v2__Frob" none none).text = "MCP__lab__v2__Frob" ∧
    (summarize "frob" none none).text = "frob" ∧
    (summarize "frob" none none).icon = .tool ∧
    (summarize "mcp__lab__fs_read" none none).icon = Family.read.icon ∧
    (Arguments.ofText? none).text? "description" = none := by
  have server : Text.lowercase "MCP__lab__v2__Frob" =
      "mcp__" ++ "lab__v2" ++ "__" ++ Text.lowercase "frob" := by decide +kernel
  have alike := names_treated_alike.1 "MCP__lab__v2__Frob" "frob"
    (.server "lab__v2" server (by decide +kernel) (by decide +kernel))
  have only : (callOf "MCP__lab__v2__Frob" none).HasOnlyName none :=
    ⟨by decide +kernel, by decide +kernel, by decide +kernel, by decide +kernel,
      by decide +kernel⟩
  refine ⟨alike, (alike.names none none only).1, (alike.names none none only).2, ?_, ?_, ?_⟩
  · exact (names_treated_alike.2.1 "frob" none none).1.mpr (by decide +kernel)
  · exact (names_treated_alike.2.1 "mcp__lab__fs_read" none none).2 .read (by decide +kernel)
  · exact (names_treated_alike.2.2 "frob" none (some "note") none (by decide +kernel)).2

end Tool

end Scrollback
