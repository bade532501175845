/-!
# Double-precision numbers

The finite doubles are the whole multiples of one *unit*, 2⁻¹⁰⁷⁴, that fit 53 significant bits.
Counted from zero upwards, the non-negative ones have ranks 0, 1, 2, … below `rankLimit`; that
rank is how a magnitude is represented here, so two doubles of one sign are equal exactly when
their ranks are, and the next larger double has the next rank.

`Binary64.nearest` rounds any non-negative fraction of units to the nearest double, a tie going to
the even rank. All arithmetic is exact arithmetic on whole numbers followed by this one rounding.
-/

namespace Stevedore

/-- How many ranks lie between two doublings of the step. -/
def Binary64.binade : Nat := Nat.pow 2 52

/-- The rank one past the largest finite double. -/
def Binary64.rankLimit : Nat := 2047 * binade

/-- A double. There is one value that is not a number. -/
inductive Binary64 where
  /-- A finite number with its sign; zero has both signs. -/
  | finite (negative : Bool) (rank : Fin Binary64.rankLimit)
  /-- An infinity with its sign. -/
  | infinite (negative : Bool)
  /-- Not a number. -/
  | nan
  deriving DecidableEq, Repr

namespace Binary64

/-- How many units make one. -/
def one : Nat := Nat.pow 2 1074

/-- The size in units of the magnitude with a given rank. Below rank 2⁵³ the steps are single
units; every further 2⁵² ranks double the step. -/
def unitsOfRank (rank : Nat) : Nat :=
  if rank < binade then rank else (binade + rank % binade) <<< (rank / binade - 1)

/-- The rank whose size is nearest to `num / den` units, the even one of two at the same
distance. A result of `rankLimit` or more means that the fraction is beyond the largest double. -/
def nearestRank (num den : Nat) : Nat :=
  let spare := (num / den).log2 - 52
  let step := den * Nat.pow 2 spare
  let below := spare * binade + num / step
  let rest := num % step
  if 2 * rest < step then below
  else if step < 2 * rest then below + 1
  else below + below % 2

/-- The double nearest to `num / den` units with the given sign. -/
def nearest (negative : Bool) (num den : Nat) : Binary64 :=
  if h : nearestRank num den < rankLimit then finite negative ⟨nearestRank num den, h⟩
  else infinite negative

/-- Zero with the given sign. -/
def zero (negative : Bool) : Binary64 :=
  finite negative ⟨0, by decide⟩

instance : Inhabited Binary64 := ⟨zero false⟩

/-- The double nearest to a whole number. -/
def ofNat (n : Nat) : Binary64 :=
  nearest false (n * one) 1

/-- The double nearest to a whole number that may be negative. -/
def ofInt (n : Int) : Binary64 :=
  nearest (decide (n < 0)) (n.natAbs * one) 1

instance (n : Nat) : OfNat Binary64 n := ⟨ofNat n⟩

/-- Whether a double is neither an infinity nor `nan`. -/
def isFinite : Binary64 → Bool
  | finite .. => true
  | _ => false

/-- The size of a double in units with its sign, an infinity counting as one step beyond the
largest finite double; `nan` has no size. -/
def units? : Binary64 → Option Int
  | finite negative rank =>
    some (if negative then -(unitsOfRank rank : Int) else unitsOfRank rank)
  | infinite negative =>
    some (if negative then -(unitsOfRank rankLimit : Int) else unitsOfRank rankLimit)
  | nan => none

/-- Numerical comparison; every comparison with `nan` fails, and the two zeros are equal. -/
def lt (x y : Binary64) : Bool :=
  match x.units?, y.units? with
  | some m, some n => decide (m < n)
  | _, _ => false

/-- Numerical comparison, equality allowed; every comparison with `nan` fails. -/
def le (x y : Binary64) : Bool :=
  match x.units?, y.units? with
  | some m, some n => decide (m ≤ n)
  | _, _ => false

/-- The size of a finite magnitude in units, and whether it is negative. -/
def parts (negative : Bool) (rank : Fin rankLimit) : Int :=
  if negative then -(unitsOfRank rank : Int) else unitsOfRank rank

/-- The sum, rounded once. Opposite numbers add up to positive zero. -/
def add : Binary64 → Binary64 → Binary64
  | nan, _ => nan
  | _, nan => nan
  | infinite s, infinite t => if s = t then infinite s else nan
  | infinite s, _ => infinite s
  | _, infinite t => infinite t
  | finite s m, finite t n =>
    let sum := parts s m + parts t n
    if sum = 0 then zero (s && t) else nearest (decide (sum < 0)) sum.natAbs 1

/-- The quotient, rounded once. -/
def div : Binary64 → Binary64 → Binary64
  | nan, _ => nan
  | _, nan => nan
  | infinite _, infinite _ => nan
  | infinite s, finite t _ => infinite (s != t)
  | finite s _, infinite t => zero (s != t)
  | finite s m, finite t n =>
    if n.val = 0 then (if m.val = 0 then nan else infinite (s != t))
    else nearest (s != t) (unitsOfRank m * one) (unitsOfRank n)

instance : Add Binary64 := ⟨add⟩
instance : Div Binary64 := ⟨div⟩

/-- The sum of a list from left to right. The empty sum is negative zero, the one number that
leaves every other unchanged when added to it. -/
def sum (xs : List Binary64) : Binary64 :=
  xs.foldl add (zero true)

/-- Whether a double is above zero. -/
def isPositive (x : Binary64) : Bool := lt (zero false) x

end Binary64

end Stevedore
