/-!
# Whole numbers in decimal

Reading a number that counts something: decimal digits, possibly after a sign, within the range
of the word that holds it. Nothing else is tolerated: no blanks, no separators, no other digits
than 0 to 9.
-/

namespace Stevedore

/-- How many numbers a word of some bits can hold. -/
def wordLimit (bits : Nat) : Nat := Nat.pow 2 bits

namespace Text

/-- The value of a decimal digit. -/
def digit? (c : Char) : Option Nat :=
  if '0' ≤ c ∧ c ≤ '9' then some (c.toNat - '0'.toNat) else none

/-- The number that a list of digits continues from `n`, most significant digit first. -/
def digitsFrom? (n : Nat) : List Char → Option Nat
  | [] => some n
  | c :: cs => (digit? c).bind fun d => digitsFrom? (10 * n + d) cs

/-- The number written by a nonempty list of decimal digits. -/
def digits? (cs : List Char) : Option Nat :=
  if cs.isEmpty then none else digitsFrom? 0 cs

/-- The number below `limit` written by decimal digits, possibly after a plus sign. -/
def count? (limit : Nat) (s : String) : Option Nat :=
  let n := match s.toList with
    | '+' :: cs => digits? cs
    | cs => digits? cs
  n.filter (· < limit)

/-- The number from `-limit` to `limit - 1` written by decimal digits, possibly after a sign. -/
def integer? (limit : Nat) (s : String) : Option Int :=
  match s.toList with
  | '+' :: cs => ((digits? cs).filter (· < limit)).map Int.ofNat
  | '-' :: cs => ((digits? cs).filter (· ≤ limit)).map fun n => -Int.ofNat n
  | cs => ((digits? cs).filter (· < limit)).map Int.ofNat

/-- A number in decimal digits. -/
def decimal (n : Nat) : String :=
  String.ofList (Nat.toDigits 10 n)

end Text

end Stevedore
