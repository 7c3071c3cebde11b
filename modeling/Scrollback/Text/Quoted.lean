import Scrollback.Text.Printable

/-!
Quoted text: a text between double quotes in which every character is visible.

A quote, a backslash and four control characters have a letter after a
backslash; a combining or unprinted character is written by its code point in
hexadecimal; every other character stands for itself.
-/

namespace Scrollback.Text.Quoted

/-- The letter that follows the backslash for a character that has one. -/
def letter? (c : Char) : Option Char :=
  match c with
  | '"' => some '"'
  | '\\' => some '\\'
  | '\t' => some 't'
  | '\r' => some 'r'
  | '\n' => some 'n'
  | _ => if c.toNat = 0 then some '0' else none

/-- The code point of a character in lowercase hexadecimal, between braces. -/
def codePoint (c : Char) : List Char :=
  '\\' :: 'u' :: '\x7b' :: Nat.toDigits 16 c.toNat ++ ['\x7d']

/-- One character as it stands between the quotes. -/
def encodeChar (c : Char) : List Char :=
  match letter? c with
  | some l => ['\\', l]
  | none => if isCombining c || !isPrinted c then codePoint c else [c]

/-- A text between double quotes. -/
def encode (s : String) : String :=
  String.ofList ('"' :: s.toList.flatMap encodeChar ++ ['"'])

end Scrollback.Text.Quoted
