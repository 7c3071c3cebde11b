import Scrollback.Text.Casing
import Scrollback.Text.Lowercase.Table

/-!
Lowercase of a text.

Every character has its own lowercase, which for one letter is two characters
long. The capital sigma is the exception: it becomes the final form after a
cased character and before none, with ignorable characters between them passed
over, and the ordinary small sigma everywhere else.
-/

namespace Scrollback.Text.Lowercase

/-- Whether the first character that is not ignorable is cased. -/
def nearestIsCased (cs : List Char) : Bool :=
  match cs.dropWhile isIgnorable with
  | [] => false
  | c :: _ => isCased c

/-- The lowercase of one character that is no capital sigma. -/
def ofChar (c : Char) : List Char :=
  if c = 'İ' then ['i', '\u0307']
  else match small? c.toNat with
    | some n => [Char.ofNat n]
    | none => [c]

/-- The lowercase of a capital sigma between the text before it, nearest
character first, and the text after it. -/
def ofSigma (before after : List Char) : Char :=
  if nearestIsCased before && !nearestIsCased after then 'ς' else 'σ'

/-- The lowercase of a text that follows `before`, nearest character first. -/
def following (before : List Char) : List Char → List Char
  | [] => []
  | c :: after =>
      (if c = 'Σ' then [ofSigma before after] else ofChar c) ++ following (c :: before) after

end Scrollback.Text.Lowercase

namespace Scrollback.Text

/-- The lowercase of a text, as characters. -/
def lowerChars (cs : List Char) : List Char :=
  Lowercase.following [] cs

/-- The lowercase of a text. -/
def lowercase (s : String) : String :=
  String.ofList (lowerChars s.toList)

end Scrollback.Text
