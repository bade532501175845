import Stevedore.Json.Basic
import Stevedore.Binary64.Reader
import Stevedore.Text.Utf8

/-!
# The tokens of a JSON document

A document is cut into punctuation, strings, and words: the three literals and the numbers. The
cutting is a machine that reads one symbol at a time (`Token.scanFrom`); what stands between two
quotes is unescaped when the closing quote is met, and a word is classified at the first symbol
that cannot belong to it.
-/

namespace Stevedore.Json

open Text (Symbol)

/-- A token of a document. -/
inductive Token where
  /-- The brace that opens an object. -/
  | openObject
  /-- The brace that closes an object. -/
  | closeObject
  /-- The bracket that opens an array. -/
  | openList
  /-- The bracket that closes an array. -/
  | closeList
  /-- A colon. -/
  | colon
  /-- A comma. -/
  | comma
  /-- A string, without a value if it holds half of a surrogate pair or bytes that are not UTF-8. -/
  | text (s : Option String)
  /-- A literal or a number. -/
  | atom (j : Json)
  deriving Repr

/-! ### Strings -/

/-- A part of a string between its quotes. -/
inductive Piece where
  /-- A character, plain or escaped by a letter. -/
  | char (c : Char)
  /-- A four-digit code, one UTF-16 unit. -/
  | unit (n : Nat)
  /-- A byte that is not UTF-8. -/
  | broken
  deriving DecidableEq, Repr

/-- The value of a digit in base sixteen. -/
def hexValue? (c : Symbol) : Option Nat := do
  let c ← c
  if '0' ≤ c ∧ c ≤ '9' then some (c.toNat - 48)
  else if 'a' ≤ c ∧ c ≤ 'f' then some (c.toNat - 87)
  else if 'A' ≤ c ∧ c ≤ 'F' then some (c.toNat - 55)
  else none

/-- The value of four digits in base sixteen. -/
def hex4? (a b c d : Symbol) : Option Nat := do
  let w ← hexValue? a
  let x ← hexValue? b
  let y ← hexValue? c
  let z ← hexValue? d
  return ((w * 16 + x) * 16 + y) * 16 + z

/-- The character that a letter after a backslash stands for. -/
def unescape? : Char → Option Char
  | '"' => some '"'
  | '\\' => some '\\'
  | '/' => some '/'
  | 'b' => some '\x08'
  | 'f' => some '\x0c'
  | 'n' => some '\n'
  | 'r' => some '\r'
  | 't' => some '\t'
  | _ => none

/-- The parts of what stands between two quotes; none if an escape is malformed or a control
character stands unescaped. -/
def pieces? : List Symbol → Option (List Piece)
  | [] => some []
  | none :: rest => (pieces? rest).map (.broken :: ·)
  | some '\\' :: some 'u' :: a :: b :: c :: d :: rest => do
    let n ← hex4? a b c d
    (pieces? rest).map (.unit n :: ·)
  | some '\\' :: some e :: rest => do
    let c ← unescape? e
    (pieces? rest).map (.char c :: ·)
  | some c :: rest =>
    if c = '\\' ∨ c.toNat < 0x20 then none else (pieces? rest).map (.char c :: ·)

/-- Whether a UTF-16 unit is the first half of a pair. -/
def isHighHalf (n : Nat) : Bool := 0xD800 ≤ n && n < 0xDC00

/-- Whether a UTF-16 unit is the second half of a pair. -/
def isLowHalf (n : Nat) : Bool := 0xDC00 ≤ n && n < 0xE000

/-- The characters that the parts make up, if every pair is complete and every byte is UTF-8. -/
def join? : List Piece → Option (List Char)
  | [] => some []
  | .broken :: _ => none
  | .char c :: rest => (join? rest).map (c :: ·)
  | .unit n :: .unit m :: rest =>
    if isHighHalf n then
      if isLowHalf m then
        (join? rest).map (Char.ofNat (0x10000 + (n - 0xD800) * 0x400 + (m - 0xDC00)) :: ·)
      else none
    else if isLowHalf n then none
    else (join? (.unit m :: rest)).map (Char.ofNat n :: ·)
  | .unit n :: rest =>
    if isHighHalf n || isLowHalf n then none else (join? rest).map (Char.ofNat n :: ·)

/-- The token of what stands between two quotes. -/
def stringToken? (body : List Symbol) : Option Token :=
  (pieces? body).map fun ps => .text ((join? ps).map String.ofList)

/-! ### Numbers -/

/-- The value of a number with a point, an exponent or more digits than a word holds: the nearest
double, or damage if that is not finite. -/
def realOf (negative : Bool) (whole fraction : List Char) (exponent : Int) : Json :=
  let digits := Nat.ofDigitChars 10 (whole ++ fraction) 0
  let x := Binary64.ofDecimal negative digits (exponent - fraction.length)
  if x.isFinite then .real x else .damaged

/-- The value of a number without point or exponent. Minus zero is not a whole number. -/
def integerOf (negative : Bool) (whole : List Char) (n : Nat) : Json :=
  if negative then
    if n = 0 ∨ wordLimit 63 < n then realOf true whole [] 0 else .int (-n)
  else if n < wordLimit 64 then .int n
  else realOf false whole [] 0

/-- The digits before the point: at least one, and no zero before another digit. -/
def whole? (digits : List Char) : Option (List Char) :=
  match digits with
  | [] => none
  | '0' :: _ :: _ => none
  | ds => some ds

/-- The value of a number without its sign. -/
def magnitude? (negative : Bool) (cs : List Char) : Option Json := do
  let (digits, rest) := Binary64.spanDigits cs
  let whole ← whole? digits
  match rest with
  | [] =>
    let n ← Text.digits? whole
    return integerOf negative whole n
  | '.' :: rest =>
    let (fraction, rest) := Binary64.spanDigits rest
    if fraction.isEmpty then none
    else return realOf negative whole fraction (← Binary64.exponent? rest)
  | rest => return realOf negative whole [] (← Binary64.exponent? rest)

/-- The value of a number. -/
def number? : List Char → Option Json
  | '-' :: cs => magnitude? true cs
  | cs => magnitude? false cs

/-- The token of a word. -/
def wordToken? (cs : List Char) : Option Token :=
  if cs = "null".toList then some (.atom .null)
  else if cs = "true".toList then some (.atom (.bool true))
  else if cs = "false".toList then some (.atom (.bool false))
  else (number? cs).map .atom

/-! ### Scanning -/

/-- Where the scanner stands between two symbols. -/
inductive Scanning where
  /-- Between tokens. -/
  | idle
  /-- Inside a string, with what was read of it, last symbol first, and whether a backslash has
  just been read. -/
  | string (body : List Symbol) (escaped : Bool)
  /-- Inside a word, with what was read of it, last character first. -/
  | word (cs : List Char)

/-- Whether a character separates tokens. -/
def isSpace (c : Char) : Bool :=
  c == ' ' || c == '\n' || c == '\t' || c == '\r'

/-- Whether a character can belong to a word. -/
def isWordChar (c : Char) : Bool :=
  c.isAlphanum || c == '+' || c == '-' || c == '.'

/-- A character met between tokens: the tokens it completes, and where the scanner stands then. -/
def start? (c : Char) : Option (List Token × Scanning) :=
  match c with
  | '\x7b' => some ([.openObject], .idle)
  | '\x7d' => some ([.closeObject], .idle)
  | '[' => some ([.openList], .idle)
  | ']' => some ([.closeList], .idle)
  | ':' => some ([.colon], .idle)
  | ',' => some ([.comma], .idle)
  | '"' => some ([], .string [] false)
  | c =>
    if isSpace c then some ([], .idle)
    else if isWordChar c then some ([], .word [c])
    else none

/-- One symbol: the tokens it completes, and where the scanner stands then. -/
def scanStep? : Scanning → Symbol → Option (List Token × Scanning)
  | .idle, some c => start? c
  | .idle, none => none
  | .string body true, s => some ([], .string (s :: body) false)
  | .string body false, s =>
    if s = some '"' then (stringToken? body.reverse).map fun t => ([t], .idle)
    else some ([], .string (s :: body) (decide (s = some '\\')))
  | .word cs, some c =>
    if isWordChar c then some ([], .word (c :: cs))
    else do
      let t ← wordToken? cs.reverse
      let (ts, next) ← start? c
      return (t :: ts, next)
  | .word _, none => none

/-- The end of the document: the tokens it completes. -/
def scanEnd? : Scanning → Option (List Token)
  | .idle => some []
  | .string .. => none
  | .word cs => (wordToken? cs.reverse).map ([·])

/-- The tokens of the rest of a document. -/
def scanFrom : Scanning → List Symbol → Option (List Token)
  | state, [] => scanEnd? state
  | state, s :: rest =>
    match scanStep? state s with
    | none => none
    | some ([], next) => scanFrom next rest
    | some (ts, next) => (scanFrom next rest).map (ts ++ ·)

/-- The tokens of a document. -/
def tokens? (document : List Symbol) : Option (List Token) :=
  scanFrom .idle document

end Stevedore.Json
