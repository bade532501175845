import Stevedore.Binary64.Shortest

/-!
# Doubles as text

The program writes doubles in three ways. In documents a whole number keeps one place after the
point and very large or small numbers take an exponent (`documentText`). In messages every digit
is written out and a whole number shows no point (`plainText`). A container parameter shows the
nearest whole number (`wholeText`).
-/

namespace Stevedore.Binary64

/-- The conventions by which the shortest decimal of a double is laid out. -/
structure Layout where
  /-- Which of two equally near decimals is taken. -/
  tie : Tie
  /-- Whether the number is written without an exponent, given the place of the point counted
  from the first digit. -/
  positional : Int → Bool
  /-- What a whole number ends in. -/
  tail : String

/-- Documents: an exponent below 10⁻⁵ and from 10¹⁶ on, and `.0` after a whole number. -/
def documentLayout : Layout where
  tie := .even
  positional point := decide (-5 < point ∧ point ≤ 16)
  tail := ".0"

/-- Messages: never an exponent, and nothing after a whole number. -/
def plainLayout : Layout where
  tie := .up
  positional _ := true
  tail := ""

/-- A run of zeros. -/
def zeros (n : Nat) : String :=
  String.ofList (List.replicate n '0')

/-- A decimal laid out by the conventions of a format. -/
def Scientific.text (layout : Layout) (d : Scientific) : String :=
  let digits := Nat.toDigits 10 d.digits
  let point : Int := digits.length + d.exponent
  if layout.positional point then
    if 0 ≤ d.exponent then
      String.ofList digits ++ zeros d.exponent.toNat ++ layout.tail
    else if 0 < point then
      String.ofList (digits.take point.toNat) ++ "." ++ String.ofList (digits.drop point.toNat)
    else
      "0." ++ zeros (-point).toNat ++ String.ofList digits
  else
    let mantissa := match digits with
      | [] => ""
      | [c] => String.ofList [c]
      | c :: cs => String.ofList (c :: '.' :: cs)
    mantissa ++ "e" ++ toString (point - 1)

/-- The sign in front of a number. -/
def signText (negative : Bool) : String :=
  if negative then "-" else ""

/-- A finite double by the conventions of a format. -/
def finiteText (layout : Layout) (negative : Bool) (rank : Nat) : String :=
  signText negative ++ (shortest layout.tie rank).text layout

/-- A double in a document; there is no form for an infinity or `nan`. -/
def documentText? : Binary64 → Option String
  | finite negative rank => some (finiteText documentLayout negative rank)
  | _ => none

/-- A double in a message. -/
def plainText : Binary64 → String
  | finite negative rank => finiteText plainLayout negative rank
  | infinite negative => signText negative ++ "inf"
  | nan => "NaN"

/-- The whole number nearest to `units` units, the even one of two at the same distance. -/
def wholeOfUnits (units : Nat) : Nat :=
  let q := units / one
  let rest := units % one
  if 2 * rest < one then q
  else if one < 2 * rest then q + 1
  else q + q % 2

/-- A double rounded to a whole number; the sign of a number that rounds to zero is kept. -/
def wholeText : Binary64 → String
  | finite negative rank => signText negative ++ toString (wholeOfUnits (unitsOfRank rank))
  | infinite negative => signText negative ++ "inf"
  | nan => "NaN"

/-- A double as a count: rounded with halves going up, a negative number and `nan` giving zero and
the largest count standing for anything above `limit`. -/
def toCount (limit : Nat) : Binary64 → Nat
  | finite negative rank =>
    if negative then 0
    else
      let units := unitsOfRank rank
      min limit (units / one + if one ≤ 2 * (units % one) then 1 else 0)
  | infinite negative => if negative then 0 else limit
  | nan => 0

end Stevedore.Binary64
