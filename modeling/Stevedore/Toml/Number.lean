import Stevedore.Binary64.Reader
import Stevedore.Toml.Basic

/-!
# Bare values

Values that are written without quotes or brackets: truth values, numbers and moments. A number
may have underscores between its digits. A whole number has no leading zeros and fits 64 bits; one
in base sixteen, eight or two has no sign. A number with a point or an exponent has digits on both
sides of the point, and a positive one must not be too large for a double.
-/

namespace Stevedore.Toml

/-- The value of a digit in some base up to sixteen. -/
def digitIn? (base : Nat) (c : Char) : Option Nat :=
  let value? :=
    if '0' ≤ c ∧ c ≤ '9' then some (c.toNat - '0'.toNat)
    else if 'a' ≤ c ∧ c ≤ 'f' then some (c.toNat - 'a'.toNat + 10)
    else if 'A' ≤ c ∧ c ≤ 'F' then some (c.toNat - 'A'.toNat + 10)
    else none
  value?.filter (· < base)

/-- The digits of a group of them, each underscore between two digits; `open` says whether the
character before was a digit. -/
def ungroupFrom? (base : Nat) (afterDigit : Bool) : List Char → Option (List Char)
  | [] => if afterDigit then some [] else none
  | c :: cs =>
    if c = '_' then if afterDigit then ungroupFrom? base false cs else none
    else if (digitIn? base c).isSome then (ungroupFrom? base true cs).map (c :: ·)
    else none

/-- The digits of a group of at least one of them. -/
def ungroup? (base : Nat) (cs : List Char) : Option (List Char) :=
  ungroupFrom? base false cs

/-- The number that digits write in some base. -/
def numberIn? (base : Nat) (cs : List Char) : Option Nat :=
  cs.foldl (fun n c => do return (← n) * base + (← digitIn? base c)) (some 0)

/-- A whole number in another base than ten. -/
def based? (base : Nat) (cs : List Char) : Option Value := do
  let n ← numberIn? base (← ungroup? base cs)
  if n < wordLimit 63 then return .int n else none

/-- The digits of a whole number without leading zeros. -/
def wholeDigits? (cs : List Char) : Option (List Char) :=
  (ungroup? 10 cs).filter fun ds => ds.length = 1 || ds.head? != some '0'

/-- A sign, if there is one, and what follows it. -/
def splitSign : List Char → List Char × List Char
  | '+' :: cs => ([], cs)
  | '-' :: cs => (['-'], cs)
  | cs => ([], cs)

/-- A whole number in base ten. -/
def integer? (cs : List Char) : Option Value := do
  let (sign, cs) := splitSign cs
  let digits ← wholeDigits? cs
  return .int (← Text.integer? (wordLimit 63) (String.ofList (sign ++ digits)))

/-- The exponent that ends a number, if there is one, with its mark. -/
def exponentPart? : List Char → Option (List Char)
  | [] => some []
  | c :: cs =>
    if c = 'e' ∨ c = 'E' then do
      let (sign, cs) := splitSign cs
      return 'e' :: sign ++ (← ungroup? 10 cs)
    else none

/-- The fraction and the exponent of a number. -/
def tailPart? : List Char → Option (List Char)
  | '.' :: cs => do
    let isPart (c : Char) : Bool := c.isDigit || c == '_'
    let fraction ← ungroup? 10 (cs.takeWhile isPart)
    return '.' :: fraction ++ (← exponentPart? (cs.dropWhile isPart))
  | cs => exponentPart? cs

/-- A number with a point or an exponent. -/
def decimal? (cs : List Char) : Option Value := do
  let (sign, cs) := splitSign cs
  let isPart (c : Char) : Bool := c.isDigit || c == '_'
  let whole ← wholeDigits? (cs.takeWhile isPart)
  let tail ← tailPart? (cs.dropWhile isPart)
  if tail.isEmpty then none
  let x ← Binary64.ofText? (String.ofList (sign ++ whole ++ tail))
  if x = .infinite false then none else return .real x

/-- A number that has no digits. -/
def special? (cs : List Char) : Option Value :=
  let (sign, cs) := splitSign cs
  if cs = ['i', 'n', 'f'] then some (.real (.infinite !sign.isEmpty))
  else if cs = ['n', 'a', 'n'] then some (.real .nan)
  else none

/-- A bare value. -/
def bare? (cs : List Char) : Option Value :=
  match cs with
  | ['t', 'r', 'u', 'e'] => some (.flag true)
  | ['f', 'a', 'l', 's', 'e'] => some (.flag false)
  | '0' :: 'x' :: ds => based? 16 ds
  | '0' :: 'o' :: ds => based? 8 ds
  | '0' :: 'b' :: ds => based? 2 ds
  | cs =>
    (moment? cs).map Value.moment <|> integer? cs <|> decimal? cs <|> special? cs

end Stevedore.Toml
