import Stevedore.Text.Blank
import Stevedore.Text.Count

/-!
# Paths to settings

A setting is named by the way to it: the name of a section and then, after dots, further names, or
in brackets the place of an item in a list. Names consist of letters, digits, blanks, underscores
and hyphens. A text that is no path in this sense names a section as a whole.
-/

namespace Stevedore.Config

/-- A step from a setting to a part of it. -/
inductive Step where
  /-- To what stands under a name. -/
  | name (s : String)
  /-- To an item of a list; a negative place counts from the end. -/
  | place (i : Int)
  deriving DecidableEq, Repr

/-- The way to a setting. -/
structure Path where
  /-- The section. -/
  root : String
  /-- The steps from there. -/
  steps : List Step
  deriving DecidableEq, Repr

/-- Whether a character may stand in a name. -/
def isStepChar (c : Char) : Bool :=
  c.isAlphanum || c == ' ' || c == '_' || c == '-'

/-- The name at the head of a text, and what follows it. -/
def stepName? (cs : List Char) : Option (String × List Char) :=
  let name := cs.takeWhile isStepChar
  if name.isEmpty then none else some (String.ofList name, cs.dropWhile isStepChar)

/-- Whether a character may stand around a place. -/
def isPlaceGap (c : Char) : Bool :=
  c == ' ' || c == '\t' || c == '\r' || c == '\n'

/-- The place at the head of a text, up to its closing bracket, and what follows it. -/
def stepPlace? (cs : List Char) : Option (Int × List Char) :=
  let cs := cs.dropWhile isPlaceGap
  let isPart (c : Char) : Bool := c.isDigit || c == '-'
  match Text.integer? (wordLimit 63) (String.ofList (cs.takeWhile isPart)),
      (cs.dropWhile isPart).dropWhile isPlaceGap with
  | some i, ']' :: rest => some (i, rest)
  | _, _ => none

/-- The steps that a text writes, of which there are fewer than the given number. -/
def steps? : Nat → List Char → Option (List Step)
  | _, [] => some []
  | 0, _ => none
  | n + 1, '.' :: cs => do
    let (name, cs) ← stepName? cs
    return .name name :: (← steps? n cs)
  | n + 1, '[' :: cs => do
    let (place, cs) ← stepPlace? cs
    return .place place :: (← steps? n cs)
  | _, _ => none

/-- The path that a text writes. -/
def Path.parse? (s : String) : Option Path := do
  let (root, cs) ← stepName? s.toList
  return ⟨root, ← steps? (cs.length + 1) cs⟩

/-- The path that a text stands for. -/
def Path.ofText (s : String) : Path :=
  (Path.parse? s).getD ⟨s, []⟩

end Stevedore.Config
