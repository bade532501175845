import Stevedore.Text.Case
import Stevedore.Text.ShapelessTable

/-!
# Quoted text

How a piece of text is shown inside an error message: between double quotes, with a backslash
before a quote or a backslash, short forms for the common control characters, and a code in
braces for every other character that has no shape of its own. A single quote stays as it is.
-/

namespace Stevedore.Text

/-- Whether a character shows as itself in a message. -/
def isGraphic (c : Char) : Bool :=
  0x20 ≤ c.toNat && (c.toNat < 0x7F || !inRanges shapelessRanges c)

/-- The digits of a number in base sixteen, small letters, without leading zeros. -/
def hex (n : Nat) : List Char :=
  Nat.toDigits 16 n

/-- A character as it stands between the quotes. -/
def quoteChar (c : Char) : List Char :=
  match c with
  | '"' => ['\\', '"']
  | '\\' => ['\\', '\\']
  | '\n' => ['\\', 'n']
  | '\r' => ['\\', 'r']
  | '\t' => ['\\', 't']
  | '\x00' => ['\\', '0']
  | _ => if isGraphic c then [c] else ['\\', 'u', '\x7b'] ++ hex c.toNat ++ ['\x7d']

/-- A text between double quotes, safe to show in a message. -/
def quoted (s : String) : String :=
  String.ofList ('"' :: s.toList.flatMap quoteChar ++ ['"'])

end Stevedore.Text
