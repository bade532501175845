/-!
# Blank characters

Which characters separate words, and the two operations that depend on it: dropping blanks at
both ends of a text (`trim`) and cutting a text into its words (`words`).
-/

namespace Stevedore.Text

/-- Whether a character is white space: the characters with the Unicode property `White_Space`. -/
def isBlank (c : Char) : Bool :=
  let n := c.toNat
  (0x09 ≤ n && n ≤ 0x0D) || n == 0x20 || n == 0x85 || n == 0xA0 || n == 0x1680
    || (0x2000 ≤ n && n ≤ 0x200A) || n == 0x2028 || n == 0x2029 || n == 0x202F
    || n == 0x205F || n == 0x3000

/-- A list of characters without the blanks at its two ends. -/
def trimChars (cs : List Char) : List Char :=
  ((cs.dropWhile isBlank).reverse.dropWhile isBlank).reverse

/-- A text without the blanks at its two ends. -/
def trim (s : String) : String :=
  String.ofList (trimChars s.toList)

/-- The words of a list of characters, given the characters of the word under way, last one
first. -/
def wordsFrom (word : List Char) : List Char → List String
  | [] => if word.isEmpty then [] else [String.ofList word.reverse]
  | c :: cs =>
    if isBlank c then
      if word.isEmpty then wordsFrom [] cs else String.ofList word.reverse :: wordsFrom [] cs
    else
      wordsFrom (c :: word) cs

/-- The words of a text: its longest stretches without a blank, in order. -/
def words (s : String) : List String :=
  wordsFrom [] s.toList

/-- Whether a text begins with another. -/
def beginsWith (s start : String) : Bool :=
  start.toList.isPrefixOf s.toList

end Stevedore.Text
