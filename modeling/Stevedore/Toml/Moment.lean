import Stevedore.Text.Count

/-!
# Dates and times

A moment as it may stand in a TOML document: a date, a time of day, or both, and with both also a
distance from universal time. Days have to exist in their month, and a minute may have a leap
second. Fractions of a second are kept to nine digits.
-/

namespace Stevedore.Toml

/-- A date. -/
structure Date where
  /-- The year. -/
  year : Nat
  /-- The month, from 1. -/
  month : Nat
  /-- The day, from 1. -/
  day : Nat
  deriving DecidableEq, Repr

/-- A time of day. -/
structure Clock where
  /-- The hour. -/
  hour : Nat
  /-- The minute. -/
  minute : Nat
  /-- The second. -/
  second : Nat
  /-- Billionths of a second. -/
  nanos : Nat
  deriving DecidableEq, Repr

/-- A distance from universal time. -/
inductive Offset where
  /-- None. -/
  | universal
  /-- So many minutes, ahead or behind. -/
  | minutes (behind : Bool) (count : Nat)
  deriving DecidableEq, Repr

/-- A moment. -/
structure Moment where
  /-- The date, if given. -/
  date : Option Date
  /-- The time of day, if given. -/
  clock : Option Clock
  /-- The distance from universal time, if given. -/
  offset : Option Offset
  deriving DecidableEq, Repr

/-! ### Writing -/

/-- A number with leading zeros up to a width. -/
def padded (width n : Nat) : String :=
  let digits := Nat.toDigits 10 n
  String.ofList (List.replicate (width - digits.length) '0' ++ digits)

/-- A date as text. -/
def Date.text (d : Date) : String :=
  padded 4 d.year ++ "-" ++ padded 2 d.month ++ "-" ++ padded 2 d.day

/-- A fraction of a second without the zeros at its end. -/
def fractionText (nanos : Nat) : String :=
  if nanos = 0 then ""
  else "." ++ String.ofList ((padded 9 nanos).toList.reverse.dropWhile (· == '0')).reverse

/-- A time of day as text. -/
def Clock.text (c : Clock) : String :=
  padded 2 c.hour ++ ":" ++ padded 2 c.minute ++ ":" ++ padded 2 c.second ++ fractionText c.nanos

/-- A distance from universal time as text. Nothing behind is written as nothing ahead. -/
def Offset.text : Offset → String
  | universal => "Z"
  | minutes behind count =>
    (if behind && count != 0 then "-" else "+") ++ padded 2 (count / 60) ++ ":" ++
      padded 2 (count % 60)

/-- A moment as text. -/
def Moment.text (m : Moment) : String :=
  let date := (m.date.map Date.text).getD ""
  let mark := if m.date.isSome && m.clock.isSome then "T" else ""
  date ++ mark ++ (m.clock.map Clock.text).getD "" ++ (m.offset.map Offset.text).getD ""

/-! ### Reading -/

/-- The number in the first `n` characters, which have to be digits, and what follows them. -/
def fixed? (n : Nat) (cs : List Char) : Option (Nat × List Char) :=
  if (cs.take n).length = n then (Text.digits? (cs.take n)).map fun k => (k, cs.drop n) else none

/-- A number of two digits below a limit, and what follows it. -/
def pairBelow? (limit : Nat) (cs : List Char) : Option (Nat × List Char) :=
  (fixed? 2 cs).filter (·.1 < limit)

/-- What follows a character. -/
def after? (c : Char) : List Char → Option (List Char)
  | d :: cs => if d = c then some cs else none
  | [] => none

/-- How many days a month has. -/
def daysIn (year month : Nat) : Nat :=
  if month = 2 then
    if year % 4 = 0 ∧ (year % 100 ≠ 0 ∨ year % 400 = 0) then 29 else 28
  else if month ∈ [4, 6, 9, 11] then 30
  else 31

/-- The date at the head of a text, and what follows it. -/
def date? (cs : List Char) : Option (Date × List Char) := do
  let (year, cs) ← fixed? 4 cs
  let (month, cs) ← fixed? 2 (← after? '-' cs)
  let (day, cs) ← fixed? 2 (← after? '-' cs)
  if 1 ≤ month ∧ month ≤ 12 ∧ 1 ≤ day ∧ day ≤ daysIn year month then
    return (⟨year, month, day⟩, cs)
  else none

/-- The fraction of a second at the head of a text, if there is one, and what follows it. -/
def fraction? : List Char → Option (Nat × List Char)
  | '.' :: cs => do
    let digits := cs.takeWhile Char.isDigit
    let _ ← Text.digits? digits
    let nanos ← Text.digits? ((digits ++ List.replicate 9 '0').take 9)
    return (nanos, cs.dropWhile Char.isDigit)
  | cs => some (0, cs)

/-- The time of day at the head of a text, and what follows it. -/
def clock? (cs : List Char) : Option (Clock × List Char) := do
  let (hour, cs) ← pairBelow? 24 cs
  let (minute, cs) ← pairBelow? 60 (← after? ':' cs)
  let (second, cs) ← pairBelow? 61 (← after? ':' cs)
  let (nanos, cs) ← fraction? cs
  return (⟨hour, minute, second, nanos⟩, cs)

/-- The distance from universal time that a text writes, if it writes any. -/
def offset? : List Char → Option (Option Offset)
  | [] => some none
  | [c] => if c = 'Z' ∨ c = 'z' then some (some .universal) else none
  | sign :: cs => do
    let (hours, cs) ← pairBelow? 24 cs
    let (minutes, cs) ← pairBelow? 60 (← after? ':' cs)
    if (sign = '+' ∨ sign = '-') ∧ cs.isEmpty then
      return some (.minutes (sign == '-') (60 * hours + minutes))
    else none

/-- The moment that a text writes. -/
def moment? (cs : List Char) : Option Moment :=
  match date? cs with
  | some (date, []) => some ⟨some date, none, none⟩
  | some (date, mark :: cs) => do
    let (clock, cs) ← clock? cs
    let offset ← offset? cs
    if mark = 'T' ∨ mark = 't' ∨ mark = ' ' then return ⟨some date, some clock, offset⟩ else none
  | none =>
    match clock? cs with
    | some (clock, []) => some ⟨none, some clock, none⟩
    | _ => none

end Stevedore.Toml
