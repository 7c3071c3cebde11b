/-!
Finding one text inside another.

`offset?` is the smallest offset at which the sought text occurs, and `reach?`
how far the sought letters reach when each is taken at its first occurrence after
the one before.
-/

namespace Scrollback.Text

/-- The rest of a text after the text it begins with. -/
def after? : List Char → List Char → Option (List Char)
  | [], cs => some cs
  | _ :: _, [] => none
  | p :: ps, c :: cs => if p = c then after? ps cs else none

/-- The rest of a text before the text it ends with. -/
def before? (ending cs : List Char) : Option (List Char) :=
  (after? ending.reverse cs.reverse).map List.reverse

/-- The smallest offset at which `sought` occurs in a text. -/
def offset? (sought : List Char) : List Char → Option Nat
  | [] => if sought.isEmpty then some 0 else none
  | c :: cs =>
      if sought.isPrefixOf (c :: cs) then some 0 else (offset? sought cs).map (· + 1)

/-- Whether `sought` occurs in a text. -/
def occurs (sought : List Char) : List Char → Bool
  | [] => sought.isEmpty
  | c :: cs => sought.isPrefixOf (c :: cs) || occurs sought cs

/-- How many characters of a text it takes to meet the sought letters in order,
each at its first occurrence after the one before. -/
def reach? : List Char → List Char → Option Nat
  | [], _ => some 0
  | _ :: _, [] => none
  | q :: qs, c :: cs => (if q = c then reach? qs cs else reach? (q :: qs) cs).map (· + 1)

/-! ### Lemmas -/

/-- A text begins with `start` exactly when it is `start` and the rest. -/
theorem after?_eq_some_iff {start cs rest : List Char} :
    after? start cs = some rest ↔ cs = start ++ rest := by
  induction start generalizing cs with
  | nil => simp [after?, eq_comm]
  | cons p ps ih =>
    cases cs with
    | nil => simp [after?]
    | cons c cs =>
      unfold after?
      split
      · rename_i eq; simp [ih, eq]
      · rename_i ne; simp [Ne.symm ne]

/-- A text ends with `ending` exactly when it is the rest and `ending`. -/
theorem before?_eq_some_iff {ending cs rest : List Char} :
    before? ending cs = some rest ↔ cs = rest ++ ending := by
  unfold before?
  rw [Option.map_eq_some_iff]
  constructor
  · rintro ⟨r, eq, rfl⟩
    have := congrArg List.reverse (after?_eq_some_iff.mp eq)
    simpa using this
  · rintro rfl
    exact ⟨rest.reverse, after?_eq_some_iff.mpr (by simp), by simp⟩

/-- A text occurs in another exactly when it is a contiguous part of it. -/
theorem occurs_iff {sought cs : List Char} : occurs sought cs = true ↔ sought <:+: cs := by
  induction cs with
  | nil => rw [occurs, List.isEmpty_iff, List.infix_nil]
  | cons c cs ih =>
    rw [occurs, Bool.or_eq_true, List.isPrefixOf_iff_prefix, ih, List.infix_cons_iff]

/-- There is an offset exactly when the text occurs. -/
theorem isSome_offset? (sought cs : List Char) : (offset? sought cs).isSome = occurs sought cs := by
  induction cs with
  | nil => cases sought <;> rfl
  | cons c cs ih =>
    unfold offset? occurs
    split
    · rename_i start
      rw [start]
      rfl
    · rename_i no
      rw [Option.isSome_map, ih, Bool.eq_false_iff.mpr no, Bool.false_or]

end Scrollback.Text
