import Stevedore.Binary64.Shortest
import Stevedore.Proofs.Rounding

/-!
# Shortest decimals are read back

The shortest decimal of a double is looked for on grids of finer and finer step. What is taken from
a grid lies between the midpoints to the neighbours of the double (`rounds_of_onGrid`), and one of
the grids is fine enough to have such a decimal (`isSome_firstOnGrid`). So the shortest decimal of a
double is rounded to that double again, with zeros at its end or without (`ofDecimal_shortest`).
-/

namespace Stevedore.Binary64

/-! ### Decimals as fractions of units -/

/-- The numerator of a decimal's value in units. -/
def Scientific.num (d : Scientific) : Nat := d.digits * 10 ^ d.exponent.toNat * one

/-- The denominator of a decimal's value in units. -/
def Scientific.den (d : Scientific) : Nat := 10 ^ (-d.exponent).toNat

theorem Scientific.den_pos (d : Scientific) : 0 < d.den :=
  Nat.pow_pos (by decide)

/-- A decimal does not change its value when zeros at its end are written as an exponent. -/
theorem Scientific.cross (m k : Nat) (e : Int) :
    (⟨m * 10 ^ k, e⟩ : Scientific).num * (⟨m, e + k⟩ : Scientific).den =
      (⟨m, e + k⟩ : Scientific).num * (⟨m * 10 ^ k, e⟩ : Scientific).den := by
  have hexponents : k + e.toNat + (-(e + k)).toNat = (e + k).toNat + (-e).toNat := by omega
  have hpowers : 10 ^ k * 10 ^ e.toNat * 10 ^ (-(e + k)).toNat =
      10 ^ (e + k).toNat * 10 ^ (-e).toNat := by
    rw [← pow_add, ← pow_add, ← pow_add, hexponents]
  calc m * 10 ^ k * 10 ^ e.toNat * one * 10 ^ (-(e + k)).toNat
      = m * (10 ^ k * 10 ^ e.toNat * 10 ^ (-(e + k)).toNat) * one := by ring
    _ = m * (10 ^ (e + k).toNat * 10 ^ (-e).toNat) * one := by rw [hpowers]
    _ = m * 10 ^ (e + k).toNat * one * 10 ^ (-e).toNat := by ring

/-- The decimal `d` lies around the double of positive rank `rank`. -/
def Rounds (rank : Nat) (d : Scientific) : Prop := Within rank d.num d.den

theorem rounds_shift {rank m k : Nat} {e : Int} :
    Rounds rank ⟨m * 10 ^ k, e⟩ ↔ Rounds rank ⟨m, e + k⟩ :=
  ⟨fun h => h.congr (Scientific.den_pos _) (Scientific.den_pos _) (Scientific.cross m k e),
    fun h => h.congr (Scientific.den_pos _) (Scientific.den_pos _) (Scientific.cross m k e).symm⟩

theorem Rounds.digits_pos {rank : Nat} {d : Scientific} (h : Rounds rank d) (hrank : 0 < rank) :
    0 < d.digits := by
  rw [Nat.pos_iff_ne_zero]
  intro hzero
  have hlow := h.low
  have hunits := unitsOfRank_pos hrank
  have hpos : 0 < (unitsOfRank (rank - 1) + unitsOfRank rank) * d.den :=
    Nat.mul_pos (by omega) d.den_pos
  rw [Scientific.num, hzero] at hlow
  omega

/-! ### What is found on a grid -/

theorem rounds_of_hit {rank c : Nat} {exponent : Int} {low twice high : Nat}
    (hlow : low = (unitsOfRank (rank - 1) + unitsOfRank rank) * 10 ^ (-exponent).toNat)
    (htwice : twice = 2 * c * (one * 10 ^ exponent.toNat))
    (hhigh : high = (unitsOfRank rank + unitsOfRank (rank + 1)) * 10 ^ (-exponent).toNat)
    (hit : ((decide (low < twice) && decide (twice < high)) ||
      (rank % 2 == 0 && (twice == low || twice == high))) = true) : Rounds rank ⟨c, exponent⟩ := by
  have hle : low ≤ high := by
    have hmono := unitsOfRank_strictMono.monotone (show rank - 1 ≤ rank + 1 by omega)
    rw [hlow, hhigh]
    exact Nat.mul_le_mul_right _ (by omega)
  have hnum : 2 * (⟨c, exponent⟩ : Scientific).num = twice := by
    rw [htwice, Scientific.num]
    ring
  simp only [Bool.or_eq_true, Bool.and_eq_true, decide_eq_true_eq, beq_iff_eq] at hit
  have hden : (⟨c, exponent⟩ : Scientific).den = 10 ^ (-exponent).toNat := rfl
  refine ⟨?_, ?_, fun hends => ?_⟩
  · rw [hnum, hden, ← hlow]
    omega
  · rw [hnum, hden, ← hhigh]
    omega
  · rw [hnum, hden, ← hlow, ← hhigh] at hends
    omega

theorem rounds_of_onGrid {tie : Tie} {rank : Nat} {exponent : Int} {d : Scientific}
    (h : onGrid? tie rank exponent = some d) : Rounds rank d := by
  have hpow (n : Nat) : Nat.pow 10 n = 10 ^ n := rfl
  have either {c : Nat} (hc : Rounds rank ⟨c, exponent⟩) (hc' : Rounds rank ⟨c + 1, exponent⟩)
      (upper : Bool) : Rounds rank ⟨if upper then c + 1 else c, exponent⟩ := by
    cases upper
    · exact hc
    · exact hc'
  unfold onGrid? at h
  simp only [hpow] at h
  split at h
  · next ht ht' =>
    rw [← Option.some.inj h]
    exact either (rounds_of_hit rfl rfl rfl ht) (rounds_of_hit rfl rfl rfl ht') _
  · next ht _ =>
    rw [← Option.some.inj h]
    exact rounds_of_hit rfl rfl rfl ht
  · next _ ht =>
    rw [← Option.some.inj h]
    exact rounds_of_hit rfl rfl rfl ht
  · cases h

/-- A grid whose step is at most half the distance to the double below has a decimal. -/
theorem isSome_onGrid? {rank : Nat} {exponent : Int} (tie : Tie)
    (h : unitsOfRank (rank - 1) * 10 ^ (-exponent).toNat + 2 * (one * 10 ^ exponent.toNat) ≤
      unitsOfRank rank * 10 ^ (-exponent).toNat) : (onGrid? tie rank exponent).isSome := by
  have hpow (n : Nat) : Nat.pow 10 n = 10 ^ n := rfl
  have hscale : 0 < 10 ^ (-exponent).toNat := Nat.pow_pos (by decide)
  have hgrid : 0 < one * 10 ^ exponent.toNat := Nat.mul_pos one_pos (Nat.pow_pos (by decide))
  have hstep := Nat.mul_lt_mul_of_pos_right (unitsOfRank_lt_succ rank) hscale
  unfold onGrid?
  simp only [hpow]
  split
  · rfl
  · rfl
  · rfl
  · next hmiss _ =>
    -- the multiple of the step just below the double is close enough
    rw [Nat.add_mul, Nat.add_mul] at hmiss
    generalize unitsOfRank rank * 10 ^ (-exponent).toNat = value at *
    generalize one * 10 ^ exponent.toNat = grid at *
    have hsplit := Nat.div_add_mod' value grid
    have hrest := Nat.mod_lt value hgrid
    rw [Nat.mul_assoc] at hmiss
    simp only [Bool.or_eq_false_iff, Bool.and_eq_false_iff, decide_eq_false_iff_not] at hmiss
    omega

/-! ### How fine the grids get -/

theorem le_mul_leadingPlace {n bound fuel j : Nat} (h : bound ≤ n * 10 ^ (j + fuel)) :
    bound ≤ n * 10 ^ leadingPlace n bound fuel j := by
  induction fuel generalizing j with
  | zero => exact h
  | succ fuel ih =>
    unfold leadingPlace
    split
    · next hfound => exact hfound
    · refine ih ?_
      rwa [Nat.add_right_comm]

/-- The first digit of the smallest double is found. -/
theorem one_le_pow : one ≤ 10 ^ (1 + 330) := by
  decide +kernel

theorem pow_length_toDigits_le {n : Nat} (hn : 0 < n) :
    10 ^ ((Nat.toDigits 10 n).length - 1) ≤ n := by
  by_cases hlen : (Nat.toDigits 10 n).length - 1 = 0
  · rw [hlen, pow_zero]
    exact hn
  · by_contra hlt
    have := (Nat.length_toDigits_le_iff (by decide) (Nat.pos_of_ne_zero hlen)).2
      (Nat.lt_of_not_ge hlt)
    omega

theorem lt_pow_length_toDigits (n : Nat) : n < 10 ^ (Nat.toDigits 10 n).length :=
  (Nat.length_toDigits_le_iff (by decide) Nat.length_toDigits_pos).1 le_rfl

/-- A positive number of units is not smaller than the power of ten of its first digit. -/
theorem pow_leadingExponent_le {units : Nat} (h : 0 < units) :
    one * 10 ^ (leadingExponent units).toNat ≤ units * 10 ^ (-leadingExponent units).toNat := by
  unfold leadingExponent
  split
  · next hone =>
    have hquotient : 0 < units / one := Nat.div_pos hone one_pos
    have hlen := Nat.length_toDigits_pos (b := 10) (n := units / one)
    have hexponent : (((Nat.toDigits 10 (units / one)).length : Int) - 1).toNat =
        (Nat.toDigits 10 (units / one)).length - 1 := by omega
    have hnone : (-(((Nat.toDigits 10 (units / one)).length : Int) - 1)).toNat = 0 := by omega
    rw [hexponent, hnone, pow_zero, Nat.mul_one]
    calc one * 10 ^ ((Nat.toDigits 10 (units / one)).length - 1) ≤ one * (units / one) :=
          Nat.mul_le_mul_left one (pow_length_toDigits_le hquotient)
      _ ≤ units := Nat.mul_div_le units one
  · have hplace : one ≤ units * 10 ^ leadingPlace units one 330 1 :=
      le_mul_leadingPlace (one_le_pow.trans (Nat.le_mul_of_pos_left _ h))
    have hnone : (-(leadingPlace units one 330 1 : Int)).toNat = 0 := by omega
    have hexponent : (- -(leadingPlace units one 330 1 : Int)).toNat =
        leadingPlace units one 330 1 := by omega
    rw [hnone, hexponent, pow_zero, Nat.mul_one]
    exact hplace

/-- The grid seventeen places behind the first digit is fine enough. -/
theorem isSome_firstOnGrid {rank : Nat} (tie : Tie) (h : 0 < rank) :
    (firstOnGrid tie rank 20 (leadingExponent (unitsOfRank rank))).isSome := by
  unfold firstOnGrid
  rw [List.findSome?_isSome_iff]
  refine ⟨17, List.mem_range.2 (by decide), isSome_onGrid? tie ?_⟩
  have hleading := pow_leadingExponent_le (unitsOfRank_pos h)
  have hstep := unitsOfRank_succ_le (rank - 1)
  rw [Nat.sub_add_cancel h] at hstep
  generalize leadingExponent (unitsOfRank rank) = e at *
  generalize unitsOfRank (rank - 1) = below at *
  generalize unitsOfRank rank = units at *
  -- in units of the seventeenth place
  have hshift : 10 ^ 17 * (one * 10 ^ (e - 17).toNat) ≤ units * 10 ^ (-(e - 17)).toNat := by
    refine Nat.le_of_mul_le_mul_right ?_ (show 0 < 10 ^ (-e).toNat from Nat.pow_pos (by decide))
    have hexponents : 17 + (e - 17).toNat + (-e).toNat = e.toNat + (-(e - 17)).toNat := by omega
    calc 10 ^ 17 * (one * 10 ^ (e - 17).toNat) * 10 ^ (-e).toNat
        = one * 10 ^ (17 + (e - 17).toNat + (-e).toNat) := by
          rw [pow_add, pow_add]
          ring
      _ = one * 10 ^ e.toNat * 10 ^ (-(e - 17)).toNat := by rw [hexponents, pow_add, Nat.mul_assoc]
      _ ≤ units * 10 ^ (-e).toNat * 10 ^ (-(e - 17)).toNat := Nat.mul_le_mul_right _ hleading
      _ = units * 10 ^ (-(e - 17)).toNat * 10 ^ (-e).toNat := Nat.mul_right_comm ..
  have hscaled : units * 10 ^ (-(e - 17)).toNat + 2 ^ 53 * (below * 10 ^ (-(e - 17)).toNat) ≤
      2 ^ 53 * (units * 10 ^ (-(e - 17)).toNat) := by
    rw [← Nat.mul_assoc, ← Nat.mul_assoc, ← Nat.add_mul]
    exact Nat.mul_le_mul_right _ hstep
  show below * 10 ^ (-(e - 17)).toNat + 2 * (one * 10 ^ (e - 17).toNat) ≤
    units * 10 ^ (-(e - 17)).toNat
  omega

/-! ### The shortest decimal -/

theorem stripZeros_value (fuel n : Nat) :
    n = (stripZeros fuel n).1 * 10 ^ (stripZeros fuel n).2 := by
  induction fuel generalizing n with
  | zero => simp [stripZeros]
  | succ fuel ih =>
    unfold stripZeros
    split
    · next h =>
      have hn := ih (n / 10)
      calc n = n / 10 * 10 := by omega
        _ = (stripZeros fuel (n / 10)).1 * 10 ^ (stripZeros fuel (n / 10)).2 * 10 := by rw [← hn]
        _ = (stripZeros fuel (n / 10)).1 * 10 ^ ((stripZeros fuel (n / 10)).2 + 1) := by
          rw [pow_succ, Nat.mul_assoc]
    · simp

/-- Zeros at the end of the digits may be dropped. -/
theorem Rounds.trimmed {rank : Nat} {d : Scientific} (h : Rounds rank d) :
    Rounds rank d.trimmed := by
  have hzeros : Rounds rank
      ⟨(stripZeros 20 d.digits).1 * 10 ^ (stripZeros 20 d.digits).2, d.exponent⟩ := by
    rw [← stripZeros_value]
    exact h
  exact rounds_shift.1 hzeros

/-- **The shortest decimal of a double lies around it.** -/
theorem rounds_shortest (tie : Tie) {rank : Nat} (h : 0 < rank) :
    Rounds rank (shortest tie rank) := by
  obtain ⟨d, hd⟩ := Option.isSome_iff_exists.1 (isSome_firstOnGrid tie h)
  unfold shortest
  rw [if_neg h.ne', hd]
  obtain ⟨k, -, hk⟩ := List.exists_of_findSome?_eq_some hd
  exact (rounds_of_onGrid hk).trimmed

/-! ### Reading it -/

/-- Powers of ten beyond every double, and beyond the inverse of every positive one. -/
theorem units_lt_pow {n : Nat} (h : 400 < n) :
    unitsOfRank rankLimit < one * 10 ^ n ∧ 2 * one < 10 ^ n := by
  obtain ⟨m, hm, hlarge, hsmall⟩ : ∃ m, m ≤ 400 ∧
      unitsOfRank rankLimit < one * 10 ^ m ∧ 2 * one < 10 ^ m :=
    ⟨400, le_rfl, by decide +kernel⟩
  have hpow : 10 ^ m ≤ 10 ^ n := Nat.pow_le_pow_right (by decide) (hm.trans h.le)
  exact ⟨hlarge.trans_le (Nat.mul_le_mul_left one hpow), hsmall.trans_le hpow⟩

/-- A decimal around a finite double is neither too large nor too small to be read. -/
theorem Rounds.exponent_bounds {rank : Nat} {d : Scientific} (h : Rounds rank d)
    (hrank : 0 < rank) (hlimit : rank < rankLimit) :
    d.exponent ≤ 400 ∧ -400 ≤ d.exponent + (Nat.toDigits 10 d.digits).length := by
  have hdigits := h.digits_pos hrank
  have hlow := h.low
  have hhigh := h.high
  unfold Scientific.num Scientific.den at hlow hhigh
  constructor
  · by_contra hexponent
    have hnone : (-d.exponent).toNat = 0 := by omega
    have hlarge := (units_lt_pow (show 400 < d.exponent.toNat by omega)).1
    have hthis := unitsOfRank_strictMono hlimit
    have hnext := unitsOfRank_strictMono.monotone (show rank + 1 ≤ rankLimit from hlimit)
    have hle : one * 10 ^ d.exponent.toNat ≤ d.digits * 10 ^ d.exponent.toNat * one := by
      rw [Nat.mul_comm one]
      exact Nat.mul_le_mul_right one (Nat.le_mul_of_pos_left _ hdigits)
    rw [hnone, pow_zero, Nat.mul_one] at hhigh
    omega
  · by_contra hexponent
    have hnone : d.exponent.toNat = 0 := by omega
    obtain ⟨j, hj, hbeyond⟩ : ∃ j,
        (-d.exponent).toNat = (Nat.toDigits 10 d.digits).length + j ∧ 400 < j :=
      ⟨(-d.exponent).toNat - (Nat.toDigits 10 d.digits).length, by omega, by omega⟩
    have hsmall := (units_lt_pow hbeyond).2
    have hlength := lt_pow_length_toDigits d.digits
    have hunits := unitsOfRank_pos hrank
    rw [hnone, pow_zero, Nat.mul_one, hj, pow_add] at hlow
    generalize 10 ^ (Nat.toDigits 10 d.digits).length = length at *
    have hle : length * 10 ^ j ≤ d.digits * (2 * one) :=
      calc length * 10 ^ j ≤ (unitsOfRank (rank - 1) + unitsOfRank rank) * (length * 10 ^ j) :=
            Nat.le_mul_of_pos_left _ (by omega)
        _ ≤ 2 * (d.digits * one) := hlow
        _ = d.digits * (2 * one) := by ring
    exact absurd (Nat.mul_lt_mul'' hlength hsmall) (Nat.not_lt.2 hle)

/-- **What lies around a double is read as this double.** -/
theorem Rounds.ofDecimal_eq {rank : Nat} {d : Scientific} (h : Rounds rank d) (hrank : 0 < rank)
    (hlimit : rank < rankLimit) (negative : Bool) :
    ofDecimal negative d.digits d.exponent = finite negative ⟨rank, hlimit⟩ := by
  obtain ⟨hlarge, hsmall⟩ := h.exponent_bounds hrank hlimit
  have hnearest : nearestRank (d.digits * Nat.pow 10 d.exponent.toNat * one)
      (Nat.pow 10 (-d.exponent).toNat) = rank := Within.nearestRank_eq h hrank d.den_pos
  unfold ofDecimal nearest
  rw [if_neg (h.digits_pos hrank).ne', if_neg (by omega), if_neg (by omega)]
  simp only [hnearest, hlimit, dite_true]

/-- **The shortest decimal of a double is read as this double**, also if zeros are written behind
it. -/
theorem ofDecimal_shortest (tie : Tie) (rank : Fin rankLimit) (negative : Bool) {digits k : Nat}
    {exponent : Int} (hdigits : digits = (shortest tie rank).digits * 10 ^ k)
    (hexponent : exponent + k = (shortest tie rank).exponent) :
    ofDecimal negative digits exponent = finite negative rank := by
  rcases Nat.eq_zero_or_pos rank.val with hzero | hrank
  · have hshortest : shortest tie rank = ⟨0, 0⟩ := by
      unfold shortest
      rw [if_pos hzero]
    rw [hdigits, hshortest, Nat.zero_mul]
    show zero negative = finite negative rank
    unfold zero
    congr 1
    exact Fin.ext hzero.symm
  · have hrounds : Rounds rank ⟨digits, exponent⟩ := by
      rw [hdigits, rounds_shift, hexponent]
      exact rounds_shortest tie hrank
    exact hrounds.ofDecimal_eq hrank rank.isLt negative

end Stevedore.Binary64
