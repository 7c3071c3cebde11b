/-!
Unsigned 64-bit words, as natural numbers below their number.
-/

namespace Scrollback

/-- How many 64-bit words there are: two to the power of 64. -/
def wordCount : Nat := 18446744073709551616

/-- The number of words is a power of two. -/
theorem wordCount_eq : wordCount = Nat.pow 2 64 := by
  decide

end Scrollback
