/-!
Blank characters and trimming.

A character is blank when it has the Unicode property White_Space. Trimming
removes blank characters at both ends and nothing else.
-/

namespace Scrollback.Text

/-- The characters with the property White_Space. -/
def isBlank (c : Char) : Bool :=
  let n := c.toNat
  (0x09 ≤ n && n ≤ 0x0D) || n == 0x20 || n == 0x85 || n == 0xA0 || n == 0x1680 ||
    (0x2000 ≤ n && n ≤ 0x200A) || n == 0x2028 || n == 0x2029 || n == 0x202F || n == 0x205F ||
    n == 0x3000

/-- Drop the longest stretch of characters satisfying `p` at the end. -/
def dropEndWhile (p : Char → Bool) (cs : List Char) : List Char :=
  (cs.reverse.dropWhile p).reverse

/-- Drop the blank characters at both ends. -/
def strip (cs : List Char) : List Char :=
  dropEndWhile isBlank (cs.dropWhile isBlank)

/-- Drop the blank characters at both ends of a string. -/
def trim (s : String) : String :=
  String.ofList (strip s.toList)

/-- The trimmed text, when anything is left of it. -/
def trimmed? (s : String) : Option String :=
  let t := trim s
  if t.isEmpty then none else some t

/-! ### Lemmas -/

/-- Nothing is left of a text of blanks. -/
theorem trim_of_blank {s : String} (blank : ∀ c ∈ s.toList, isBlank c = true) : trim s = "" := by
  have dropped : (s.toList ++ []).dropWhile isBlank = [].dropWhile isBlank :=
    List.dropWhile_append_of_pos blank
  rw [List.append_nil] at dropped
  rw [trim, strip, dropped]
  rfl

/-- Dropping at the end only removes characters that satisfy the predicate. -/
theorem dropEndWhile_append (p : Char → Bool) (cs : List Char) :
    ∃ tail, cs = dropEndWhile p cs ++ tail ∧ ∀ c ∈ tail, p c = true := by
  refine ⟨(cs.reverse.takeWhile p).reverse, ?_, fun c mem => ?_⟩
  · rw [dropEndWhile, ← List.reverse_append, List.takeWhile_append_dropWhile, List.reverse_reverse]
  · exact List.all_eq_true.mp List.all_takeWhile c (List.mem_reverse.mp mem)

end Scrollback.Text
