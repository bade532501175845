import Stevedore.Binary64.Basic

/-!
# The shortest decimal of a double

Many decimals round to one double: all those between the midpoints to its two neighbours, the
midpoints included when its rank is even. `Binary64.shortest` finds one with the fewest digits,
and of those with equally many the one nearest to the double. Two candidates at the same distance
are a matter of the format that asks, hence the `Tie`.
-/

namespace Stevedore.Binary64

/-- Which of two equally near shortest decimals is taken. -/
inductive Tie where
  /-- The one whose last digit is even. -/
  | even
  /-- The larger one. -/
  | up
  deriving DecidableEq, Repr

/-- A decimal number `digits · 10 ^ exponent`. -/
structure Scientific where
  /-- The digits as one whole number. -/
  digits : Nat
  /-- The power of ten that they count. -/
  exponent : Int
  deriving DecidableEq, Repr

/-- The number `n` without the factors of ten that it ends in, at most `fuel` of them, and how many
they are. -/
def stripZeros : Nat → Nat → Nat × Nat
  | 0, n => (n, 0)
  | fuel + 1, n =>
    if n ≠ 0 ∧ n % 10 = 0 then
      let (m, k) := stripZeros fuel (n / 10)
      (m, k + 1)
    else (n, 0)

/-- The same number with as few digits as possible. -/
def Scientific.trimmed (d : Scientific) : Scientific :=
  let (m, k) := stripZeros 20 d.digits
  ⟨m, d.exponent + k⟩

/-- The least `j` from `from` on, at most `fuel` further, with `bound ≤ n · 10 ^ j`. -/
def leadingPlace (n bound : Nat) : Nat → Nat → Nat
  | 0, j => j
  | fuel + 1, j => if bound ≤ n * Nat.pow 10 j then j else leadingPlace n bound fuel (j + 1)

/-- The power of ten of the first digit of a positive number of units. -/
def leadingExponent (units : Nat) : Int :=
  if one ≤ units then
    ((Nat.toDigits 10 (units / one)).length : Int) - 1
  else
    -(leadingPlace units one 330 1 : Int)

/-- The decimal on the grid of multiples of `10 ^ exponent` that rounds to the double of positive
rank `rank`, the nearest if there are two. -/
def onGrid? (tie : Tie) (rank : Nat) (exponent : Int) : Option Scientific :=
  let scale := Nat.pow 10 (-exponent).toNat
  let grid := one * Nat.pow 10 exponent.toNat
  let value := unitsOfRank rank * scale
  let low := (unitsOfRank (rank - 1) + unitsOfRank rank) * scale
  let high := (unitsOfRank rank + unitsOfRank (rank + 1)) * scale
  let hit (c : Nat) : Bool :=
    let twice := 2 * c * grid
    (low < twice && twice < high) || (rank % 2 == 0 && (twice == low || twice == high))
  let c := value / grid
  let rest := value % grid
  let upper : Bool :=
    if 2 * rest < grid then false
    else if grid < 2 * rest then true
    else match tie with
      | .even => c % 2 == 1
      | .up => true
  match hit c, hit (c + 1) with
  | true, true => some ⟨if upper then c + 1 else c, exponent⟩
  | true, false => some ⟨c, exponent⟩
  | false, true => some ⟨c + 1, exponent⟩
  | false, false => none

/-- The first decimal found on grids of finer and finer step, `fuel` grids at most. -/
def firstOnGrid (tie : Tie) (rank fuel : Nat) (exponent : Int) : Option Scientific :=
  (List.range fuel).findSome? fun k : Nat => onGrid? tie rank (exponent - k)

/-- The shortest decimal of the magnitude with a given rank. -/
def shortest (tie : Tie) (rank : Nat) : Scientific :=
  if rank = 0 then ⟨0, 0⟩
  else
    match firstOnGrid tie rank 20 (leadingExponent (unitsOfRank rank)) with
    | some d => d.trimmed
    | none => ⟨0, 0⟩

end Stevedore.Binary64
