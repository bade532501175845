import Mathlib.Tactic
import Stevedore.Binary64.Reader

/-!
# Rounding

The size of a double grows with its rank, by a step that doubles with every binade
(`exists_scaled`). A fraction lies between the sizes of two doubles in a row, and its nearest rank
is that of the nearer one (`exists_cut`). Whatever lies between the midpoints to the neighbours of
a double is therefore rounded to it, and so are the midpoints if its rank is even
(`Within.nearestRank_eq`).
-/

namespace Stevedore.Binary64

theorem binade_eq : binade = 2 ^ 52 := rfl

theorem binade_pos : 0 < binade := by rw [binade_eq]; positivity

theorem one_pos : 0 < one := by decide +kernel

/-! ### Sizes -/

theorem unitsOfRank_of_le {rank : Nat} (h : binade ≤ rank) :
    unitsOfRank rank = (binade + rank % binade) * 2 ^ (rank / binade - 1) := by
  unfold unitsOfRank
  rw [if_neg (by omega), Nat.shiftLeft_eq]

/-- The double of a rank, given by its significand and the binades above the first. -/
theorem unitsOfRank_scaled {m : Nat} (h : m < 2 * binade) (spare : Nat)
    (hm : spare ≠ 0 → binade ≤ m) : unitsOfRank (spare * binade + m) = m * 2 ^ spare := by
  have hb := binade_pos
  by_cases hlt : m < binade
  · have h0 : spare = 0 := by
      by_contra hne
      have hle := hm hne
      omega
    rw [h0, Nat.zero_mul, Nat.zero_add, pow_zero, Nat.mul_one]
    unfold unitsOfRank
    rw [if_pos hlt]
  · have hmod : (spare * binade + m) % binade = m - binade := by
      rw [Nat.mul_add_mod', Nat.mod_eq_sub_mod (by omega), Nat.mod_eq_of_lt (by omega)]
    have hdiv : (spare * binade + m) / binade = spare + 1 := by
      have hm1 : m / binade = 1 := Nat.div_eq_of_lt_le (by omega) (by omega)
      rw [Nat.mul_comm, Nat.mul_add_div hb, hm1]
    rw [unitsOfRank_of_le (by have := Nat.zero_le (spare * binade); omega), hmod, hdiv,
      Nat.add_sub_cancel, Nat.add_sub_cancel' (by omega)]

/-- The next double is one step larger. -/
theorem unitsOfRank_scaled_succ {m : Nat} (h : m < 2 * binade) (spare : Nat)
    (hm : spare ≠ 0 → binade ≤ m) :
    unitsOfRank (spare * binade + m + 1) = (m + 1) * 2 ^ spare := by
  by_cases hnext : m + 1 < 2 * binade
  · rw [Nat.add_assoc, unitsOfRank_scaled hnext spare fun h => by have := hm h; omega]
  · have hm' : m + 1 = 2 * binade := by omega
    rw [Nat.add_assoc, hm',
      show spare * binade + 2 * binade = (spare + 1) * binade + binade by ring,
      unitsOfRank_scaled (by have := binade_pos; omega) (spare + 1) fun _ => le_rfl]
    ring

/-- Every rank is a number of binades above the first and a significand, and so is its size. -/
theorem exists_scaled (rank : Nat) :
    ∃ spare m, rank = spare * binade + m ∧ m < 2 * binade ∧ (spare ≠ 0 → binade ≤ m) := by
  have hsplit := Nat.div_add_mod' rank binade
  have hmod := Nat.mod_lt rank binade_pos
  rcases hq : rank / binade with _ | q
  · refine ⟨0, rank % binade, ?_, by omega, fun h => absurd rfl h⟩
    rw [hq] at hsplit
    omega
  · refine ⟨q, binade + rank % binade, ?_, by omega, fun _ => by omega⟩
    rw [hq, Nat.succ_mul] at hsplit
    omega

theorem unitsOfRank_lt_succ (rank : Nat) : unitsOfRank rank < unitsOfRank (rank + 1) := by
  obtain ⟨spare, m, rfl, hm, hbig⟩ := exists_scaled rank
  rw [unitsOfRank_scaled hm spare hbig, unitsOfRank_scaled_succ hm spare hbig]
  exact Nat.mul_lt_mul_of_pos_right (Nat.lt_succ_self m) (Nat.two_pow_pos spare)

theorem unitsOfRank_strictMono : StrictMono unitsOfRank :=
  strictMono_nat_of_lt_succ unitsOfRank_lt_succ

theorem unitsOfRank_zero : unitsOfRank 0 = 0 := rfl

theorem unitsOfRank_pos {rank : Nat} (h : 0 < rank) : 0 < unitsOfRank rank :=
  unitsOfRank_zero ▸ unitsOfRank_strictMono h

/-- A double is at most 2⁵³ times as large as the step that leads to it. -/
theorem unitsOfRank_succ_le (rank : Nat) :
    unitsOfRank (rank + 1) + 2 ^ 53 * unitsOfRank rank ≤ 2 ^ 53 * unitsOfRank (rank + 1) := by
  obtain ⟨spare, m, rfl, hm, hbig⟩ := exists_scaled rank
  rw [unitsOfRank_scaled hm spare hbig, unitsOfRank_scaled_succ hm spare hbig]
  calc (m + 1) * 2 ^ spare + 2 ^ 53 * (m * 2 ^ spare)
      = (m + 1 + 2 ^ 53 * m) * 2 ^ spare := by ring
    _ ≤ (2 ^ 53 * (m + 1)) * 2 ^ spare :=
      Nat.mul_le_mul_right _ (by rw [binade_eq] at hm; omega)
    _ = 2 ^ 53 * ((m + 1) * 2 ^ spare) := Nat.mul_assoc ..

/-! ### The nearest rank -/

/-- `Cut num den below`: the fraction `num / den` lies between the double of rank `below` and the
next one, and its nearest rank is that of the nearer one of the two, the even one in the middle. -/
structure Cut (num den below : Nat) : Prop where
  low : unitsOfRank below * den ≤ num
  high : num < unitsOfRank (below + 1) * den
  down : 2 * num < (unitsOfRank below + unitsOfRank (below + 1)) * den →
    nearestRank num den = below
  up : (unitsOfRank below + unitsOfRank (below + 1)) * den < 2 * num →
    nearestRank num den = below + 1
  tie : 2 * num = (unitsOfRank below + unitsOfRank (below + 1)) * den →
    nearestRank num den = below + below % 2

/-- As many steps as a fraction has make up a significand. -/
theorem div_step_lt {num den spare : Nat} (hspare : (num / den).log2 - 52 = spare) :
    num / (den * 2 ^ spare) < 2 * binade ∧ (spare ≠ 0 → binade ≤ num / (den * 2 ^ spare)) := by
  have hpow := Nat.two_pow_pos spare
  rw [← Nat.div_div_eq_div_mul, Nat.div_lt_iff_lt_mul hpow, Nat.le_div_iff_mul_le hpow, binade_eq]
  constructor
  · calc num / den < 2 ^ ((num / den).log2 + 1) := Nat.lt_log2_self
      _ ≤ 2 ^ (1 + 52 + spare) := Nat.pow_le_pow_right (by decide) (by omega)
      _ = 2 * 2 ^ 52 * 2 ^ spare := by rw [pow_add, pow_add, pow_one]
  · intro hne
    have hq : num / den ≠ 0 := by
      intro h0
      rw [h0] at hspare
      exact hne (by rw [← hspare]; rfl)
    calc 2 ^ 52 * 2 ^ spare = 2 ^ (52 + spare) := (pow_add 2 52 spare).symm
      _ = 2 ^ (num / den).log2 := by congr 1; omega
      _ ≤ num / den := Nat.log2_self_le hq

theorem exists_cut (num : Nat) {den : Nat} (hden : 0 < den) : ∃ below, Cut num den below := by
  obtain ⟨spare, hspare⟩ : ∃ spare, (num / den).log2 - 52 = spare := ⟨_, rfl⟩
  obtain ⟨hshort, hfull⟩ := div_step_lt hspare
  have hsplit := Nat.div_add_mod' num (den * 2 ^ spare)
  have hrest := Nat.mod_lt num (show 0 < den * 2 ^ spare by positivity)
  have hrank : nearestRank num den =
      if 2 * (num % (den * 2 ^ spare)) < den * 2 ^ spare then
        spare * binade + num / (den * 2 ^ spare)
      else if den * 2 ^ spare < 2 * (num % (den * 2 ^ spare)) then
        spare * binade + num / (den * 2 ^ spare) + 1
      else spare * binade + num / (den * 2 ^ spare) +
        (spare * binade + num / (den * 2 ^ spare)) % 2 := by
    unfold nearestRank
    rw [hspare]
    rfl
  generalize num / (den * 2 ^ spare) = m at *
  generalize num % (den * 2 ^ spare) = rest at *
  have hbelow : unitsOfRank (spare * binade + m) * den = m * (den * 2 ^ spare) := by
    rw [unitsOfRank_scaled hshort spare hfull]
    ring
  have habove : unitsOfRank (spare * binade + m + 1) * den =
      m * (den * 2 ^ spare) + den * 2 ^ spare := by
    rw [unitsOfRank_scaled_succ hshort spare hfull]
    ring
  refine ⟨spare * binade + m, ?_, ?_, fun h => ?_, fun h => ?_, fun h => ?_⟩
  · omega
  · omega
  all_goals
    rw [Nat.add_mul, hbelow, habove] at h
    rw [hrank]
  · rw [if_pos (by omega)]
  · rw [if_neg (by omega), if_pos (by omega)]
  · rw [if_neg (by omega), if_neg (by omega)]

/-- A fraction is not rounded beyond a double that it does not exceed. -/
theorem nearestRank_le {num den rank : Nat} (hden : 0 < den) (h : num ≤ unitsOfRank rank * den) :
    nearestRank num den ≤ rank := by
  obtain ⟨below, hcut⟩ := exists_cut num hden
  have hle : below ≤ rank :=
    unitsOfRank_strictMono.le_iff_le.1 (Nat.le_of_mul_le_mul_right (hcut.low.trans h) hden)
  rcases hle.lt_or_eq with hlt | rfl
  · rcases lt_trichotomy (2 * num) ((unitsOfRank below + unitsOfRank (below + 1)) * den) with
      hdown | htie | hup
    · rw [hcut.down hdown]
      exact hle
    · rw [hcut.tie htie]
      omega
    · rw [hcut.up hup]
      exact hlt
  · have hstep := Nat.mul_lt_mul_of_pos_right (unitsOfRank_lt_succ below) hden
    rw [hcut.down (by rw [Nat.add_mul]; omega)]

/-- `Within rank num den`: the fraction `num / den` lies between the midpoints to the neighbours of
the double of positive rank `rank`, and on one of them only if the rank is even. -/
structure Within (rank num den : Nat) : Prop where
  low : (unitsOfRank (rank - 1) + unitsOfRank rank) * den ≤ 2 * num
  high : 2 * num ≤ (unitsOfRank rank + unitsOfRank (rank + 1)) * den
  tie : (unitsOfRank (rank - 1) + unitsOfRank rank) * den = 2 * num ∨
    2 * num = (unitsOfRank rank + unitsOfRank (rank + 1)) * den → rank % 2 = 0

/-- **What lies around a double is rounded to it.** -/
theorem Within.nearestRank_eq {rank num den : Nat} (h : Within rank num den) (hrank : 0 < rank)
    (hden : 0 < den) : nearestRank num den = rank := by
  obtain ⟨below, hcut⟩ := exists_cut num hden
  obtain ⟨rank, rfl⟩ := Nat.exists_eq_add_one.2 hrank
  obtain ⟨hlow, hhigh, htie⟩ := h
  simp only [Nat.add_sub_cancel, Nat.add_mul] at hlow hhigh htie
  have hmono {a b : Nat} (hab : a ≤ b) : unitsOfRank a * den ≤ unitsOfRank b * den :=
    Nat.mul_le_mul_right den (unitsOfRank_strictMono.monotone hab)
  have hstep (a : Nat) : unitsOfRank a * den < unitsOfRank (a + 1) * den :=
    Nat.mul_lt_mul_of_pos_right (unitsOfRank_lt_succ a) hden
  have hbelow := hcut.low
  have habove := hcut.high
  -- the double below the fraction is this one or the one before it
  obtain rfl | rfl : below = rank ∨ below = rank + 1 := by
    by_contra hother
    rcases Nat.lt_or_ge below rank with hlt | hge
    · have := hmono (show below + 1 ≤ rank by omega)
      have := hstep rank
      omega
    · have := hmono (show rank + 1 + 1 ≤ below by omega)
      have := hstep (rank + 1)
      omega
  · rcases hlow.lt_or_eq with hlt | heq
    · exact hcut.up (by rw [Nat.add_mul]; exact hlt)
    · have heven := htie (Or.inl heq)
      rw [hcut.tie (by rw [Nat.add_mul]; exact heq.symm)]
      omega
  · rcases hhigh.lt_or_eq with hlt | heq
    · exact hcut.down (by rw [Nat.add_mul]; exact hlt)
    · have heven := htie (Or.inr heq)
      rw [hcut.tie (by rw [Nat.add_mul]; exact heq)]
      omega

/-- Only the value of a fraction matters. -/
theorem Within.congr {rank num den num' den' : Nat} (h : Within rank num den) (hden : 0 < den)
    (hden' : 0 < den') (heq : num * den' = num' * den) : Within rank num' den' := by
  have hnum : 2 * num * den' = 2 * num' * den := by
    rw [Nat.mul_assoc, heq, ← Nat.mul_assoc]
  have hswap (a : Nat) : a * den * den' = a * den' * den := Nat.mul_right_comm a den den'
  refine ⟨?_, ?_, fun hends => h.tie ?_⟩
  · refine Nat.le_of_mul_le_mul_right ?_ hden
    rw [← hnum, ← hswap]
    exact Nat.mul_le_mul_right den' h.low
  · refine Nat.le_of_mul_le_mul_right ?_ hden
    rw [← hnum, ← hswap]
    exact Nat.mul_le_mul_right den' h.high
  · refine hends.imp (fun hlow => ?_) fun hhigh => ?_
    · refine Nat.eq_of_mul_eq_mul_right hden' ?_
      rw [hnum, hswap, hlow]
    · refine Nat.eq_of_mul_eq_mul_right hden' ?_
      rw [hnum, hswap, hhigh]

end Stevedore.Binary64
