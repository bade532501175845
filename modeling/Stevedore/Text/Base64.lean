/-!
# Bytes in base sixty-four

Three bytes become four characters of an alphabet of sixty-four; what is missing from the last
three bytes is made up by `=`.
-/

namespace Stevedore.Text

/-- The characters for 0 to 63. -/
def base64Alphabet : Array Char :=
  "ABCDEFGHIJKLMNOPQRSTUVWXYZabcdefghijklmnopqrstuvwxyz0123456789+/".toList.toArray

/-- The character for the last six bits of a number. -/
def base64Char (n : Nat) : Char :=
  base64Alphabet.getD (n % 64) '='

/-- Bytes in base sixty-four. -/
def base64Chars : List UInt8 → List Char
  | [] => []
  | [a] =>
    let n := a.toNat * 16
    [base64Char (n / 64), base64Char n, '=', '=']
  | [a, b] =>
    let n := (a.toNat * 256 + b.toNat) * 4
    [base64Char (n / 4096), base64Char (n / 64), base64Char n, '=']
  | a :: b :: c :: rest =>
    let n := (a.toNat * 256 + b.toNat) * 256 + c.toNat
    base64Char (n / 262144) :: base64Char (n / 4096) :: base64Char (n / 64) :: base64Char n ::
      base64Chars rest

/-- Bytes in base sixty-four, as a text. -/
def base64 (bytes : List UInt8) : String :=
  String.ofList (base64Chars bytes)

end Stevedore.Text
