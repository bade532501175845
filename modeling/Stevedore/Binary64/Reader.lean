import Stevedore.Binary64.Basic
import Stevedore.Text.Count

/-!
# Reading doubles

A decimal is read as the nearest double, whatever its length (`Binary64.ofDecimal`).

Written out as text (`Binary64.ofText?`) it is an optional sign, then `inf`, `infinity` or `nan` in
any case, or digits with an optional point and exponent and at least one digit before the exponent.
Documents have a stricter spelling of their own, and neither infinities nor `nan`.
-/

namespace Stevedore.Binary64

/-- The double nearest to `digits · 10 ^ exponent`. Exponents so large or so small that the result
is beyond every finite double or below every positive one are answered without the power. -/
def ofDecimal (negative : Bool) (digits : Nat) (exponent : Int) : Binary64 :=
  if digits = 0 then zero negative
  else if 400 < exponent then infinite negative
  else if exponent + (Nat.toDigits 10 digits).length < -400 then zero negative
  else nearest negative (digits * Nat.pow 10 exponent.toNat * one)
    (Nat.pow 10 (-exponent).toNat)

/-- The digits at the head of a text, and what follows them. -/
def spanDigits (cs : List Char) : List Char × List Char :=
  (cs.takeWhile Char.isDigit, cs.dropWhile Char.isDigit)

/-- The exponent that ends a decimal: nothing, or a mark, an optional sign and digits. -/
def exponent? : List Char → Option Int
  | [] => some 0
  | c :: cs =>
    if c = 'e' ∨ c = 'E' then
      match cs with
      | '+' :: ds => (Text.digits? ds).map Int.ofNat
      | '-' :: ds => (Text.digits? ds).map fun n => -Int.ofNat n
      | ds => (Text.digits? ds).map Int.ofNat
    else none

/-- A decimal without its sign. -/
def unsigned? (negative : Bool) (cs : List Char) : Option Binary64 :=
  let word := String.ofList (cs.map Char.toLower)
  if word = "inf" ∨ word = "infinity" then some (infinite negative)
  else if word = "nan" then some nan
  else
    let (whole, rest) := spanDigits cs
    let (fraction, rest) := match rest with
      | '.' :: ds => spanDigits ds
      | ds => ([], ds)
    if whole.isEmpty && fraction.isEmpty then none
    else do
      let exponent ← exponent? rest
      let digits ← Text.digits? (whole ++ fraction)
      return ofDecimal negative digits (exponent - fraction.length)

/-- The double nearest to a decimal text. -/
def ofText? (s : String) : Option Binary64 :=
  match s.toList with
  | '+' :: cs => unsigned? false cs
  | '-' :: cs => unsigned? true cs
  | cs => unsigned? false cs

end Stevedore.Binary64
