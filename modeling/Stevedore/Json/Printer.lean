import Stevedore.Json.Basic
import Stevedore.Binary64.Text

/-!
# Writing JSON

A value as text without blanks. Strings escape the quote, the backslash and the control
characters, the common ones by a letter, and show every other character as itself. A double that
is infinite or not a number has no form and is written `null`.
-/

namespace Stevedore.Json

/-- A digit in base sixteen. -/
def hexDigit (n : Nat) : Char :=
  Nat.digitChar (n % 16)

/-- A character between the quotes of a string. -/
def escape (c : Char) : List Char :=
  match c with
  | '"' => ['\\', '"']
  | '\\' => ['\\', '\\']
  | '\n' => ['\\', 'n']
  | '\r' => ['\\', 'r']
  | '\t' => ['\\', 't']
  | '\x08' => ['\\', 'b']
  | '\x0c' => ['\\', 'f']
  | c =>
    if c.toNat < 0x20 then ['\\', 'u', '0', '0', hexDigit (c.toNat / 16), hexDigit c.toNat]
    else [c]

/-- A string between its quotes. -/
def stringChars (s : String) : List Char :=
  '"' :: s.toList.flatMap escape ++ ['"']

/-- A whole number in decimal. -/
def intChars (n : Int) : List Char :=
  if n < 0 then '-' :: Nat.toDigits 10 n.natAbs else Nat.toDigits 10 n.natAbs

/-- A double in a document. -/
def realChars (x : Binary64) : List Char :=
  match x.documentText? with
  | some s => s.toList
  | none => "null".toList

mutual

/-- The characters of a value. -/
def chars : Json → List Char
  | null => "null".toList
  | bool true => "true".toList
  | bool false => "false".toList
  | int n => intChars n
  | real x => realChars x
  | text s => stringChars s
  | list items => '[' :: itemsChars items ++ [']']
  | object members => '\x7b' :: membersChars members ++ ['\x7d']
  | damaged => "null".toList

/-- The items of an array, separated by commas. -/
def itemsChars : List Json → List Char
  | [] => []
  | [j] => j.chars
  | j :: k :: js => j.chars ++ ',' :: itemsChars (k :: js)

/-- The members of an object, separated by commas. -/
def membersChars : List (String × Json) → List Char
  | [] => []
  | [m] => memberChars m
  | m :: n :: ms => memberChars m ++ ',' :: membersChars (n :: ms)

/-- A member: its name, a colon and its value. -/
def memberChars : String × Json → List Char
  | (name, j) => stringChars name ++ ':' :: j.chars

end

/-- A value as text. -/
def render (j : Json) : String :=
  String.ofList j.chars

end Stevedore.Json
