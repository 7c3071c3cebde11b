import Scrollback.Word

/-!
Number literals.

A numeral keeps its digits as they are written. Two questions are asked of it:
which natural number it denotes (`natural?`), and whether it stays in range
(`inRange`), that is, whether reading it as a double-precision number gives a
finite one. The second is decided in exact arithmetic: the leading digits form a
significand of at most 64 bits, the significand and the power of ten are each
rounded to 53 bits, and their product must lie below the point from which
rounding reaches infinity.
-/

namespace Scrollback.Json

/-- A number literal by its parts. Digits stand in the order they are written. -/
structure Numeral where
  negative : Bool
  whole : List Nat
  fraction : List Nat
  /-- Whether the exponent is negative, and its digits. -/
  exponent : Option (Bool × List Nat)
  deriving DecidableEq, Repr

namespace Numeral

/-! ### Reading a literal -/

/-- The value of a decimal digit. -/
def digit? (c : Char) : Option Nat :=
  if c.isDigit then some (c.toNat - 48) else none

/-- The digits at the front of a text, and the rest. -/
def takeDigits : List Char → List Nat × List Char
  | [] => ([], [])
  | c :: cs =>
      match digit? c with
      | some d => let (ds, rest) := takeDigits cs; (d :: ds, rest)
      | none => ([], c :: cs)

/-- The whole part: no digit may follow a leading zero. -/
def takeWhole (cs : List Char) : Option (List Nat × List Char) :=
  match takeDigits cs with
  | ([], _) => none
  | (0 :: _ :: _, _) => none
  | (ds, rest) => some (ds, rest)

/-- The fraction: absent, or a point and at least one digit. -/
def takeFraction : List Char → Option (List Nat × List Char)
  | '.' :: cs =>
      match takeDigits cs with
      | ([], _) => none
      | (ds, rest) => some (ds, rest)
  | cs => some ([], cs)

/-- An optional sign: whether it is a minus, and the rest. -/
def takeSign : List Char → Bool × List Char
  | '-' :: cs => (true, cs)
  | '+' :: cs => (false, cs)
  | cs => (false, cs)

/-- The exponent: absent, or a letter, an optional sign and at least one digit.
It ends the literal. -/
def takeExponent : List Char → Option (Option (Bool × List Nat))
  | [] => some none
  | c :: cs =>
      if c = 'e' ∨ c = 'E' then
        let (negative, rest) := takeSign cs
        match takeDigits rest with
        | (d :: ds, []) => some (some (negative, d :: ds))
        | _ => none
      else none

/-- The numeral a text spells. -/
def ofChars? (cs : List Char) : Option Numeral := do
  let (negative, unsigned) := match cs with
    | '-' :: rest => (true, rest)
    | _ => (false, cs)
  let (whole, afterWhole) ← takeWhole unsigned
  let (fraction, afterFraction) ← takeFraction afterWhole
  let exponent ← takeExponent afterFraction
  return { negative, whole, fraction, exponent }

/-! ### Natural numbers -/

/-- The number a row of digits denotes. -/
def ofDigits (ds : List Nat) : Nat :=
  ds.foldl (fun n d => n * 10 + d) 0

/-- The natural number of a literal without sign, fraction and exponent. -/
def natural? (n : Numeral) : Option Nat :=
  if n.negative || !n.fraction.isEmpty || n.exponent.isSome then none
  else some (ofDigits n.whole)

/-! ### Range -/

/-- Append digits to a significand as long as it stays a 64-bit word; the digits left
over come second. -/
def absorb (significand : Nat) : List Nat → Nat × List Nat
  | [] => (significand, [])
  | d :: ds =>
      if significand * 10 + d < wordCount then absorb (significand * 10 + d) ds
      else (significand, d :: ds)

/-- The nearest number with 53 significant bits, a tie going to the even one. -/
def nearest (n : Nat) : Nat :=
  let unit := Nat.pow 2 (n.log2 + 1 - 53)
  let quotient := n / unit
  let remainder := n % unit
  if unit < 2 * remainder ∨ (unit = 2 * remainder ∧ quotient % 2 = 1) then (quotient + 1) * unit
  else quotient * unit

/-- The least number that rounds to infinity. -/
def infinite : Nat :=
  Nat.pow 2 1024 - Nat.pow 2 970

/-- The exponent as it is written. -/
def writtenExponent (n : Numeral) : Int :=
  match n.exponent with
  | none => 0
  | some (true, ds) => -(ofDigits ds : Int)
  | some (false, ds) => ofDigits ds

/-- The significand and the power of ten a literal is read as. -/
def scaled (n : Numeral) : Nat × Int :=
  let (leading, wholeLeft) := absorb 0 n.whole
  let (significand, fractionLeft) := absorb leading n.fraction
  let places := n.fraction.length - fractionLeft.length
  (significand, wholeLeft.length - places + n.writtenExponent)

/-- Whether a literal denotes a finite double-precision number. -/
def inRange (n : Numeral) : Bool :=
  let (significand, power) := n.scaled
  significand == 0 || power < 0 ||
    (power ≤ 308 && nearest significand * nearest (Nat.pow 10 power.toNat) < infinite)

end Numeral

end Scrollback.Json
