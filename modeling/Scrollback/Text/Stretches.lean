/-!
Character classes given by stretches of code points.

A class is a list of closed stretches in ascending order; a character belongs to
the class when one of them covers its code point.
-/

namespace Scrollback.Text

/-- Closed stretches of code points, each from its first to its last. -/
abbrev Stretches := List (Nat × Nat)

/-- Whether one of the stretches covers a character. -/
def Stretches.covers (stretches : Stretches) (c : Char) : Bool :=
  stretches.any fun s => s.1 ≤ c.toNat && c.toNat ≤ s.2

/-- A character is covered exactly when its code point lies in a stretch. -/
theorem Stretches.covers_iff (stretches : Stretches) (c : Char) :
    stretches.covers c = true ↔ ∃ s ∈ stretches, s.1 ≤ c.toNat ∧ c.toNat ≤ s.2 := by
  simp [Stretches.covers]

end Scrollback.Text
