/-!
# Text as bytes

Bytes that arrive from the network are read as UTF-8. `symbols` keeps the damage local: every
well-formed sequence becomes its character and every byte outside one becomes `none`, so that a
reader can decide where damage matters. `decode?` insists on well-formed bytes throughout.
-/

namespace Stevedore.Text

/-- What a run of bytes shows at one place: a character, or a byte that belongs to none. -/
abbrev Symbol := Option Char

/-- The payload of a continuation byte. -/
def tailBits? (b : UInt8) : Option Nat :=
  if 0x80 ≤ b ∧ b ≤ 0xBF then some (b.toNat - 0x80) else none

/-- The character of a two-byte sequence. -/
def pair? (a b : UInt8) : Option Char := do
  guard (0xC2 ≤ a ∧ a ≤ 0xDF)
  let y ← tailBits? b
  return Char.ofNat ((a.toNat - 0xC0) * 64 + y)

/-- The character of a three-byte sequence: neither overlong nor half of a surrogate pair. -/
def triple? (a b c : UInt8) : Option Char := do
  guard (0xE0 ≤ a ∧ a ≤ 0xEF)
  let y ← tailBits? b
  let z ← tailBits? c
  let n := (a.toNat - 0xE0) * 4096 + y * 64 + z
  guard (0x800 ≤ n ∧ ¬ (0xD800 ≤ n ∧ n ≤ 0xDFFF))
  return Char.ofNat n

/-- The character of a four-byte sequence: not overlong and not beyond the last code point. -/
def quadruple? (a b c d : UInt8) : Option Char := do
  guard (0xF0 ≤ a ∧ a ≤ 0xF4)
  let x ← tailBits? b
  let y ← tailBits? c
  let z ← tailBits? d
  let n := (a.toNat - 0xF0) * 262144 + x * 4096 + y * 64 + z
  guard (0x10000 ≤ n ∧ n ≤ 0x10FFFF)
  return Char.ofNat n

/-- The symbols of a list of bytes. -/
def symbols : List UInt8 → List Symbol
  | [] => []
  | [a] => [if a < 0x80 then some (Char.ofNat a.toNat) else none]
  | [a, b] =>
    if a < 0x80 then some (Char.ofNat a.toNat) :: symbols [b]
    else match pair? a b with
      | some ch => [some ch]
      | none => none :: symbols [b]
  | [a, b, c] =>
    if a < 0x80 then some (Char.ofNat a.toNat) :: symbols [b, c]
    else match pair? a b with
      | some ch => some ch :: symbols [c]
      | none => match triple? a b c with
        | some ch => [some ch]
        | none => none :: symbols [b, c]
  | a :: b :: c :: d :: rest =>
    if a < 0x80 then some (Char.ofNat a.toNat) :: symbols (b :: c :: d :: rest)
    else match pair? a b with
      | some ch => some ch :: symbols (c :: d :: rest)
      | none => match triple? a b c with
        | some ch => some ch :: symbols (d :: rest)
        | none => match quadruple? a b c d with
          | some ch => some ch :: symbols rest
          | none => none :: symbols (b :: c :: d :: rest)

/-- The text that bytes hold, if they are UTF-8 throughout. -/
def decode? (bytes : List UInt8) : Option String :=
  ((symbols bytes).mapM id).map String.ofList

/-- The UTF-8 bytes of a text. -/
def encode (s : String) : List UInt8 :=
  s.toUTF8.toList

/-- A text seen as symbols: each character is one. -/
def ofText (s : String) : List Symbol :=
  s.toList.map some

end Stevedore.Text
