import Stevedore.Text.CaseTable

/-!
# Lower case

Two lower-casings of a text. `lowerAscii` changes the letters A to Z only and serves the names
the program recognises. `lowerAll` follows the full Unicode rules: each character has its
lower-case form, İ becomes two characters, and a sigma that ends a word takes its final form.
-/

namespace Stevedore.Text

/-- A text with the letters A to Z in lower case. -/
def lowerAscii (s : String) : String :=
  String.ofList (s.toList.map Char.toLower)

/-- Whether a character lies in one of the ranges. -/
def inRanges (ranges : Array (Nat × Nat)) (c : Char) : Bool :=
  ranges.any fun r => r.1 ≤ c.toNat && c.toNat ≤ r.2

/-- Whether a character is an upper-case, lower-case or title-case letter. -/
def isCased (c : Char) : Bool := inRanges casedRanges c

/-- Whether a character is looked through when the neighbours of a sigma are examined. -/
def isCaseIgnorable (c : Char) : Bool := inRanges caseIgnorableRanges c

/-- Whether the first character that is not looked through has letter case. -/
def meetsCased (cs : List Char) : Bool :=
  match cs.dropWhile isCaseIgnorable with
  | [] => false
  | c :: _ => isCased c

/-- The one-character lower-case form of a character, itself if it has none. -/
def lowerChar (c : Char) : Char :=
  let n := c.toNat
  match lowerRuns.find? fun r => r.1 ≤ n && n ≤ r.2.1 && (n - r.1) % r.2.2.1 == 0 with
  | some r => Char.ofNat (r.2.2.2 + (n - r.1))
  | none => c

/-- The lower-case form of a character between the characters before it, nearest first, and the
characters after it. -/
def lowerBetween (before : List Char) (c : Char) (after : List Char) : List Char :=
  if c = 'Σ' then
    if meetsCased before && !meetsCased after then ['ς'] else ['σ']
  else if c = 'İ' then
    ['i', '\u0307']
  else
    [lowerChar c]

/-- The lower-case form of a list of characters that follows `before`, nearest first. -/
def lowerFrom (before : List Char) : List Char → List Char
  | [] => []
  | c :: cs => lowerBetween before c cs ++ lowerFrom (c :: before) cs

/-- A text in lower case by the full Unicode rules. -/
def lowerAll (s : String) : String :=
  String.ofList (lowerFrom [] s.toList)

end Stevedore.Text
