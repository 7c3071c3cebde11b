import Scrollback.Json.Basic

/-!
Tokens of a JSON text.

`Scanner.step` consumes one character. Marks stand alone; a bare word runs up to
the next mark, quote or blank and must spell a number or one of three names; a
string collects its characters and escapes as code units, and is a text when its
surrogates come in pairs (`joinUnits`).
-/

namespace Scrollback.Json

/-- The six punctuation marks. -/
inductive Mark where
  | openArray
  | closeArray
  | openObject
  | closeObject
  | comma
  | colon
  deriving DecidableEq, Repr

/-- A mark, or a value without parts. -/
inductive Token where
  | mark (mark : Mark)
  | scalar (value : Json)

/-- The mark a character stands for. -/
def Mark.ofChar? : Char → Option Mark
  | '[' => some .openArray
  | ']' => some .closeArray
  | '\x7b' => some .openObject
  | '\x7d' => some .closeObject
  | ',' => some .comma
  | ':' => some .colon
  | _ => none

/-- The blanks between tokens: space, tab, line feed and carriage return. -/
def isGap (c : Char) : Bool :=
  c == ' ' || c == '\t' || c == '\n' || c == '\r'

/-! ### Scalars -/

/-- The value of a bare word. -/
def ofBare? (cs : List Char) : Option Json :=
  if cs = ['n', 'u', 'l', 'l'] then some .null
  else if cs = ['t', 'r', 'u', 'e'] then some (.bool true)
  else if cs = ['f', 'a', 'l', 's', 'e'] then some (.bool false)
  else (Numeral.ofChars? cs).map .number

/-- Whether a unit is the first of a surrogate pair. -/
def isLeading (u : Nat) : Bool :=
  0xD800 ≤ u && u < 0xDC00

/-- Whether a unit is the second of a surrogate pair. -/
def isTrailing (u : Nat) : Bool :=
  0xDC00 ≤ u && u < 0xE000

/-- The character of a surrogate pair. -/
def ofPair (leading trailing : Nat) : Char :=
  Char.ofNat (0x10000 + (leading - 0xD800) * 0x400 + (trailing - 0xDC00))

/-- The characters of a row of code units after the characters `done`, newest first,
and a first surrogate `leading` that waits for its second. Surrogates must come in
pairs. -/
def joinUnits (done : List Char) (leading : Option Nat) : List Nat → Option (List Char)
  | [] => if leading.isSome then none else some done.reverse
  | u :: us =>
      match leading with
      | some l => if isTrailing u then joinUnits (ofPair l u :: done) none us else none
      | none =>
          if isLeading u then joinUnits done (some u) us
          else if isTrailing u then none
          else joinUnits (Char.ofNat u :: done) none us

/-- The string value of a row of code units. -/
def ofUnits (us : List Nat) : Json :=
  .string ((joinUnits [] none us).map String.ofList)

/-- The code unit of an escape letter. -/
def escaped? : Char → Option Nat
  | '"' => some 0x22
  | '\\' => some 0x5C
  | '/' => some 0x2F
  | 'b' => some 0x08
  | 'f' => some 0x0C
  | 'n' => some 0x0A
  | 'r' => some 0x0D
  | 't' => some 0x09
  | _ => none

/-- The value of a hexadecimal digit. -/
def hexDigit? (c : Char) : Option Nat :=
  if '0' ≤ c ∧ c ≤ '9' then some (c.toNat - 48)
  else if 'a' ≤ c ∧ c ≤ 'f' then some (c.toNat - 87)
  else if 'A' ≤ c ∧ c ≤ 'F' then some (c.toNat - 55)
  else none

/-! ### Scanning -/

/-- What the scanner is inside of. Characters and units are held newest first. -/
inductive Inside where
  | gap
  | bare (read : List Char)
  | text (read : List Nat)
  | escape (read : List Nat)
  /-- A four-digit escape: its value so far, and how many digits are missing. -/
  | codeUnit (read : List Nat) (value missing : Nat)

/-- The scanner: what it is inside of, and the tokens found, newest first. -/
structure Scanner where
  inside : Inside
  found : List Token

namespace Scanner

/-- The scanner before the first character. -/
def start : Scanner := ⟨.gap, []⟩

/-- A character outside of any token. -/
def stepGap (found : List Token) (c : Char) : Scanner :=
  if isGap c then ⟨.gap, found⟩
  else match Mark.ofChar? c with
    | some mark => ⟨.gap, .mark mark :: found⟩
    | none => if c = '"' then ⟨.text [], found⟩ else ⟨.bare [c], found⟩

/-- One character. -/
def step (s : Scanner) (c : Char) : Option Scanner :=
  match s.inside with
  | .gap => some (stepGap s.found c)
  | .bare read =>
      if isGap c || (Mark.ofChar? c).isSome || c == '"' then do
        let value ← ofBare? read.reverse
        return stepGap (.scalar value :: s.found) c
      else some { s with inside := .bare (c :: read) }
  | .text read =>
      if c = '"' then some ⟨.gap, .scalar (ofUnits read.reverse) :: s.found⟩
      else if c = '\\' then some { s with inside := .escape read }
      else if c.toNat < 0x20 then none
      else some { s with inside := .text (c.toNat :: read) }
  | .escape read =>
      if c = 'u' then some { s with inside := .codeUnit read 0 3 }
      else do
        let unit ← escaped? c
        return { s with inside := .text (unit :: read) }
  | .codeUnit read value missing => do
      let value := value * 16 + (← hexDigit? c)
      match missing with
      | 0 => return { s with inside := .text (value :: read) }
      | missing + 1 => return { s with inside := .codeUnit read value missing }

/-- The tokens at the end of the text. -/
def finish (s : Scanner) : Option (List Token) :=
  match s.inside with
  | .gap => some s.found.reverse
  | .bare read => do
      let value ← ofBare? read.reverse
      return (.scalar value :: s.found).reverse
  | _ => none

end Scanner

/-- The tokens of a text. -/
def tokens? (cs : List Char) : Option (List Token) := do
  let last ← cs.foldlM Scanner.step .start
  last.finish

end Scrollback.Json
