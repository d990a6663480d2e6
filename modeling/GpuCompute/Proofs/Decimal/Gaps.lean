import GpuCompute.Proofs.Decimal.Intervals
import Mathlib.Algebra.Order.Ring.Abs
import Mathlib.Tactic.LinearCombination

/-!
# Decimals next to midpoints

Between two neighbouring values of the 32-bit format lies a midpoint, an odd multiple of half a
step. A decimal with as many digits as a value needs is such a midpoint, or differs from it by more
than `2 ^ -51` of it; there is one decimal that comes nearer (`apart_of_lt`).

In steps of the value's own scale, `d` steps of a power of ten are `d * (a / b)`, and the question
is how near this comes to an integer `m`. Two fractions on both sides of `a / b` that are neighbours
in the Farey sense answer it: every pair `(d, m)` is a combination of theirs, and where `d` is
smaller than the sum of their denominators it is a multiple of one of them or at least as far away
as both together (`Bracket.Encloses.multiple_or_apart`). For each of the 254 scales such fractions
are found by walking down from the integers around `a / b`, and what is needed of them is checked
(`gaps_certified`).
-/

namespace GpuCompute.Decimal

open Binary

/-! ## Fractions around a number -/

/-- Two fractions. -/
structure Bracket where
  lowNum : ℕ
  lowDen : ℕ
  highNum : ℕ
  highDen : ℕ

namespace Bracket

variable {B : Bracket} {a b d m : ℕ}

/-- How far the lower fraction is below `a / b`, as a multiple of `1 / (lowDen * b)`. -/
def below (B : Bracket) (a b : ℕ) : ℕ := B.lowDen * a - B.lowNum * b

/-- How far the higher fraction is above `a / b`, as a multiple of `1 / (highDen * b)`. -/
def above (B : Bracket) (a b : ℕ) : ℕ := B.highNum * b - B.highDen * a

/-- Whether the fractions are neighbours with `a / b` between them. -/
structure Encloses (B : Bracket) (a b : ℕ) : Prop where
  low : B.lowNum * b ≤ B.lowDen * a
  high : B.highDen * a ≤ B.highNum * b
  neighbours : B.highNum * B.lowDen = B.lowNum * B.highDen + 1

instance (B : Bracket) (a b : ℕ) : Decidable (B.Encloses a b) :=
  decidable_of_iff (B.lowNum * b ≤ B.lowDen * a ∧ B.highDen * a ≤ B.highNum * b ∧
      B.highNum * B.lowDen = B.lowNum * B.highDen + 1)
    ⟨fun h => ⟨h.1, h.2.1, h.2.2⟩, fun h => ⟨h.low, h.high, h.neighbours⟩⟩

theorem Encloses.cast_below (h : B.Encloses a b) :
    (B.below a b : ℤ) = B.lowDen * a - B.lowNum * b := by
  rw [below, Nat.cast_sub h.low]
  push_cast
  rfl

theorem Encloses.cast_above (h : B.Encloses a b) :
    (B.above a b : ℤ) = B.highNum * b - B.highDen * a := by
  rw [above, Nat.cast_sub h.high]
  push_cast
  rfl

/-- Every pair is a combination of neighbours, and its distance from `a / b` is that of theirs. -/
theorem Encloses.exists_combination (h : B.Encloses a b) (d m : ℕ) :
    ∃ i j : ℤ, (d : ℤ) = i * B.lowDen + j * B.highDen ∧
      (m : ℤ) = i * B.lowNum + j * B.highNum ∧
      (d : ℤ) * a - m * b = i * B.below a b - j * B.above a b := by
  have neighbours : (B.highNum : ℤ) * B.lowDen = B.lowNum * B.highDen + 1 := by
    exact_mod_cast h.neighbours
  refine ⟨B.highNum * d - B.highDen * m, B.lowDen * m - B.lowNum * d, ?_, ?_, ?_⟩
  · linear_combination (-(d : ℤ)) * neighbours
  · linear_combination (-(m : ℤ)) * neighbours
  · rw [h.cast_below, h.cast_above]
    linear_combination (-((d : ℤ) * a - m * b)) * neighbours

/-- A small pair is a multiple of one of the fractions, or as far from `a / b` as both together. -/
theorem Encloses.multiple_or_apart (h : B.Encloses a b) (pos : 0 < d) (small : d < B.lowDen + B.highDen) :
    (∃ i, 0 < i ∧ d = i * B.lowDen ∧ m = i * B.lowNum) ∨
    (∃ i, 0 < i ∧ d = i * B.highDen ∧ m = i * B.highNum) ∨
    ((B.below a b + B.above a b : ℕ) : ℤ) ≤ |(d : ℤ) * a - m * b| := by
  obtain ⟨i, j, hd, hm, gap⟩ := h.exists_combination d m
  have pos' : (0 : ℤ) < d := by exact_mod_cast pos
  have small' : (d : ℤ) < B.lowDen + B.highDen := by exact_mod_cast small
  have low : (0 : ℤ) ≤ B.lowDen := Int.natCast_nonneg _
  have high : (0 : ℤ) ≤ B.highDen := Int.natCast_nonneg _
  have below' : (0 : ℤ) ≤ B.below a b := Int.natCast_nonneg _
  have above' : (0 : ℤ) ≤ B.above a b := Int.natCast_nonneg _
  -- A multiple of one fraction, by a natural number.
  have multiple {k : ℤ} {x y : ℕ} (hk : 0 < k) (h : (x : ℤ) = k * y) : x = k.toNat * y := by
    have same : (x : ℤ) = (k.toNat * y : ℕ) := by
      rw [h, Nat.cast_mul, Int.toNat_of_nonneg hk.le]
    exact_mod_cast same
  push_cast
  rw [gap]
  obtain hi' | hi' := le_or_gt i 0
  · have hj' : 0 < j := by
      by_contra h
      have := mul_nonpos_of_nonpos_of_nonneg hi' low
      have := mul_nonpos_of_nonpos_of_nonneg (not_lt.1 h) high
      omega
    obtain hi' | rfl := hi'.lt_or_eq
    · refine .inr (.inr ?_)
      have := le_mul_of_one_le_left below' (show 1 ≤ -i by omega)
      have := le_mul_of_one_le_left above' (show 1 ≤ j by omega)
      rw [abs_sub_comm]
      refine le_trans ?_ (le_abs_self _)
      linarith
    · rw [zero_mul, zero_add] at hd hm
      exact .inr (.inl ⟨j.toNat, by omega, multiple hj' hd, multiple hj' hm⟩)
  · have hj' : j ≤ 0 := by
      by_contra h
      have := le_mul_of_one_le_left low (show 1 ≤ i by omega)
      have := le_mul_of_one_le_left high (show 1 ≤ j by omega)
      omega
    obtain hj' | rfl := hj'.lt_or_eq
    · refine .inr (.inr (le_trans ?_ (le_abs_self _)))
      have := le_mul_of_one_le_left below' (show 1 ≤ i by omega)
      have := le_mul_of_one_le_left above' (show 1 ≤ -j by omega)
      linarith
    · rw [zero_mul, add_zero] at hd hm
      exact .inl ⟨i.toNat, by omega, multiple hi' hd, multiple hi' hm⟩

/-! ## Pairs that are apart -/

/-- Whether the multiples of a fraction are no pairs with an odd `m` that come near to `a / b`
without being equal, or only the hard pair is. -/
def Clear (hard : ℕ × ℕ) (a b num den gap : ℕ) : Prop :=
  num % 2 = 0 ∨ gap = 0 ∨ num * b ≤ gap * 2 ^ 51 ∨ (den, num) = hard ∧ 2 ^ 25 * b ≤ 2 * den * a

instance (hard : ℕ × ℕ) (a b num den gap : ℕ) : Decidable (Clear hard a b num den gap) :=
  inferInstanceAs (Decidable (_ ∨ _ ∨ _ ∨ _ ∧ _))

/-- Whether two fractions show that small pairs are apart from `a / b`. -/
structure Separates (B : Bracket) (hard : ℕ × ℕ) (a b : ℕ) : Prop where
  encloses : B.Encloses a b
  reach : 2 ^ 25 * b ≤ (B.lowDen + B.highDen) * a
  wide : 2 ^ 25 * b ≤ (B.below a b + B.above a b) * 2 ^ 51
  low : Clear hard a b B.lowNum B.lowDen (B.below a b)
  high : Clear hard a b B.highNum B.highDen (B.above a b)

instance (B : Bracket) (hard : ℕ × ℕ) (a b : ℕ) : Decidable (B.Separates hard a b) :=
  decidable_of_iff (B.Encloses a b ∧ 2 ^ 25 * b ≤ (B.lowDen + B.highDen) * a ∧
      2 ^ 25 * b ≤ (B.below a b + B.above a b) * 2 ^ 51 ∧
      Clear hard a b B.lowNum B.lowDen (B.below a b) ∧
      Clear hard a b B.highNum B.highDen (B.above a b))
    ⟨fun h => ⟨h.1, h.2.1, h.2.2.1, h.2.2.2.1, h.2.2.2.2⟩,
      fun h => ⟨h.encloses, h.reach, h.wide, h.low, h.high⟩⟩

theorem Clear.apart_of_odd {hard : ℕ × ℕ} {num den gap i : ℕ} (h : Clear hard a b num den gap)
    (hi : 0 < i) (odd : (i * num) % 2 = 1) (small : i * den * a < 2 ^ 25 * b) :
    gap = 0 ∨ i * num * b ≤ i * gap * 2 ^ 51 ∨ (i * den, i * num) = hard := by
  obtain even | exact | apart | ⟨hard, large⟩ := h
  · rw [Nat.mul_mod, even, Nat.mul_zero] at odd
    cases odd
  · exact .inl exact
  · rw [Nat.mul_assoc, Nat.mul_assoc]
    exact .inr (.inl (Nat.mul_le_mul_left i apart))
  · obtain rfl : i = 1 := by
      by_contra ne
      have : 2 * den * a ≤ i * den * a := by
        have : 2 ≤ i := by omega
        gcongr
      omega
    simp only [Nat.one_mul]
    exact .inr (.inr hard)

/-- A small pair with an odd `m` is equal to `a / b`, or apart from it, or the hard pair. -/
theorem Separates.apart_of_odd {hard : ℕ × ℕ} (h : B.Separates hard a b) (pos : 0 < d)
    (small : d * a < 2 ^ 25 * b) (odd : m % 2 = 1) (lt : m < 2 ^ 25) :
    d * a = m * b ∨ ((m * b : ℕ) : ℤ) ≤ |(d : ℤ) * a - m * b| * 2 ^ 51 ∨ (d, m) = hard := by
  have small' : d < B.lowDen + B.highDen :=
    Nat.lt_of_mul_lt_mul_right (small.trans_le h.reach)
  have low := h.encloses.low
  have high := h.encloses.high
  obtain ⟨i, hi, rfl, rfl⟩ | ⟨i, hi, rfl, rfl⟩ | far := h.encloses.multiple_or_apart pos small' (m := m)
  · obtain exact | apart | hard := h.low.apart_of_odd hi odd small
    · refine .inl ?_
      rw [Nat.mul_assoc, Nat.mul_assoc, Nat.le_antisymm (Nat.sub_eq_zero_iff_le.1 exact) low]
    · refine .inr (.inl ?_)
      have gap : ((i * B.lowDen : ℕ) : ℤ) * a - (i * B.lowNum : ℕ) * b = (i * B.below a b : ℕ) := by
        push_cast
        rw [h.encloses.cast_below]
        ring
      rw [gap, abs_of_nonneg (Int.natCast_nonneg _)]
      exact_mod_cast apart
    · exact .inr (.inr hard)
  · obtain exact | apart | hard := h.high.apart_of_odd hi odd small
    · refine .inl ?_
      rw [Nat.mul_assoc, Nat.mul_assoc, Nat.le_antisymm high (Nat.sub_eq_zero_iff_le.1 exact)]
    · refine .inr (.inl ?_)
      have gap : ((i * B.highDen : ℕ) : ℤ) * a - (i * B.highNum : ℕ) * b =
          -(i * B.above a b : ℕ) := by
        push_cast
        rw [h.encloses.cast_above]
        ring
      rw [gap, abs_neg, abs_of_nonneg (Int.natCast_nonneg _)]
      exact_mod_cast apart
    · exact .inr (.inr hard)
  · refine .inr (.inl ?_)
    calc ((m * b : ℕ) : ℤ) ≤ (2 ^ 25 * b : ℕ) := by gcongr
      _ ≤ ((B.below a b + B.above a b) * 2 ^ 51 : ℕ) := by exact_mod_cast h.wide
      _ = ((B.below a b + B.above a b : ℕ) : ℤ) * 2 ^ 51 := by push_cast; ring
      _ ≤ |(d : ℤ) * a - m * b| * 2 ^ 51 := by gcongr

/-! ## Finding the fractions -/

/-- How often `gap'` fits into `gap`, up to a bound. -/
def steps (gap gap' bound : ℕ) : ℕ := if gap' = 0 then bound else min (gap / gap') bound

/-- Brings the fraction that is farther away nearer, by as many steps of the other one as leave
`a / b` between them, until the denominators together exceed a limit. -/
def narrow (a b limit : ℕ) : (fuel : ℕ) → Bracket → Bracket
  | 0, B => B
  | fuel + 1, B =>
    if limit < B.lowDen + B.highDen then B
    else if B.above a b ≤ B.below a b then
      let k := steps (B.below a b) (B.above a b)
        ((limit - B.lowDen - B.highDen) / B.highDen + 1)
      narrow a b limit fuel
        { B with lowNum := B.lowNum + k * B.highNum, lowDen := B.lowDen + k * B.highDen }
    else
      let k := steps (B.above a b) (B.below a b)
        ((limit - B.lowDen - B.highDen) / B.lowDen + 1)
      narrow a b limit fuel
        { B with highNum := B.highNum + k * B.lowNum, highDen := B.highDen + k * B.lowDen }

/-- Fractions around `a / b`, beginning with integers. -/
def around (a b : ℕ) : Bracket := narrow a b (2 ^ 25 * b / a) 60 ⟨a / b, 1, a / b + 1, 1⟩

end Bracket

/-! ## The scales of the 32-bit format -/

/-- The exponent of the first power of ten that is not less than `2 ^ q`. -/
def coarse (q : ℤ) : ℤ := -(-q * 30103 / 100000)

/-- The only pair that is not apart, for the scale that it belongs to. -/
def hardPair (q : ℤ) : ℕ × ℕ := if q = -107 then (7038531, 22841339) else (0, 0)

/-- The scales of the 32-bit format. Half a step is the quotient of `inSteps 1 (q - 1)`. -/
theorem gaps_certified : ∀ i : Fin 254,
    let steps := inSteps 1 (i - 149 - 1) (coarse (i - 149))
    (Bracket.around steps.2 steps.1).Separates (hardPair (i - 149)) steps.2 steps.1 ∧
      2 * steps.1 ≤ steps.2 ∧ 128 * steps.2 ≤ 2540 * steps.1 := by
  decide +kernel

variable {q : ℤ}

theorem certified_of_mem (hq : -149 ≤ q) (hq' : q ≤ 104) :
    let steps := inSteps 1 (q - 1) (coarse q)
    (∃ B : Bracket, B.Separates (hardPair q) steps.2 steps.1) ∧
      2 * steps.1 ≤ steps.2 ∧ 128 * steps.2 ≤ 2540 * steps.1 := by
  obtain ⟨i, rfl⟩ : ∃ i : Fin 254, (i : ℤ) - 149 = q := ⟨⟨(q + 149).toNat, by omega⟩, by
    dsimp only
    omega⟩
  have h := gaps_certified i
  exact ⟨⟨_, h.1⟩, h.2⟩

/-- The power of ten is not less than the power of two, and the next smaller one is. -/
theorem coarse_bounds (hq : -149 ≤ q) (hq' : q ≤ 104) :
    (2 : ℚ) ^ q ≤ 10 ^ coarse q ∧ (10 : ℚ) ^ (coarse q - 1) ≤ 127 / 128 * 2 ^ q := by
  obtain ⟨-, low, high⟩ := certified_of_mem hq hq'
  have pos : (0 : ℚ) < (inSteps 1 (q - 1) (coarse q)).2 := by exact_mod_cast inSteps_pos _ _ _
  have ten : (0 : ℚ) < 10 ^ coarse q := by positivity
  have quotient := inSteps_div 1 (q - 1) (coarse q)
  rw [Nat.cast_one, one_mul, two_zpow_sub_one, div_eq_div_iff pos.ne' ten.ne']
    at quotient
  have low' : 2 * ((inSteps 1 (q - 1) (coarse q)).1 : ℚ) ≤ (inSteps 1 (q - 1) (coarse q)).2 := by
    exact_mod_cast low
  have high' : 128 * ((inSteps 1 (q - 1) (coarse q)).2 : ℚ) ≤
      2540 * (inSteps 1 (q - 1) (coarse q)).1 := by exact_mod_cast high
  constructor
  · refine le_of_mul_le_mul_right ?_ pos
    nlinarith
  · rw [zpow_sub₀ (by norm_num), zpow_one]
    refine le_of_mul_le_mul_right ?_ pos
    nlinarith

/-- A decimal that is as coarse as the scale and less than a power of two is equal to a midpoint or
apart from it, or is the hard one. -/
theorem apart_of_lt (hq : -149 ≤ q) (hq' : q ≤ 104) {d m : ℕ} (pos : 0 < d)
    (small : (d * 10 ^ coarse q : ℚ) < 2 ^ 24 * 2 ^ q) (odd : m % 2 = 1) (lt : m < 2 ^ 25) :
    (d * 10 ^ coarse q : ℚ) = m * (2 : ℚ) ^ (q - 1) ∨
    (m * (2 : ℚ) ^ (q - 1) / 2 ^ 51 : ℚ) ≤ |(d : ℚ) * 10 ^ coarse q - m * 2 ^ (q - 1)| ∨
    (d, m) = hardPair q := by
  obtain ⟨⟨B, separates⟩, -⟩ := certified_of_mem hq hq'
  have stepsPos : (0 : ℚ) < (inSteps 1 (q - 1) (coarse q)).2 := by exact_mod_cast inSteps_pos _ _ _
  have ten : (0 : ℚ) < 10 ^ coarse q := by positivity
  have quotient := inSteps_div 1 (q - 1) (coarse q)
  rw [Nat.cast_one, one_mul] at quotient
  generalize (inSteps 1 (q - 1) (coarse q)).1 = b, (inSteps 1 (q - 1) (coarse q)).2 = a
    at separates stepsPos quotient
  -- Everything in steps of the power of ten.
  have half : (2 : ℚ) ^ (q - 1) = b / a * 10 ^ coarse q := by
    rw [quotient, div_mul_cancel₀ _ ten.ne']
  have twice : (2 : ℚ) ^ q = 2 * 2 ^ (q - 1) := by
    rw [two_zpow_sub_one]
    ring
  have difference : (d * 10 ^ coarse q - m * 2 ^ (q - 1) : ℚ) =
      (d * a - m * b) / a * 10 ^ coarse q := by
    rw [half]
    field_simp
  have small' : d * a < 2 ^ 25 * b := by
    rw [twice, half] at small
    have : (d : ℚ) * a < 2 ^ 25 * b := by
      have := lt_of_mul_lt_mul_right
        (show (d : ℚ) * 10 ^ coarse q < 2 ^ 25 * (b / a) * 10 ^ coarse q by linarith) ten.le
      rwa [← mul_div_assoc, lt_div_iff₀ stepsPos] at this
    exact_mod_cast this
  obtain equal | apart | hard := separates.apart_of_odd pos small' odd lt
  · refine .inl (sub_eq_zero.1 ?_)
    have equal' : (d : ℚ) * a = m * b := by exact_mod_cast equal
    rw [difference, equal', sub_self, zero_div, zero_mul]
  · refine .inr (.inl ?_)
    have apart' : (m : ℚ) * b ≤ |(d : ℚ) * a - m * b| * 2 ^ 51 := by exact_mod_cast apart
    rw [difference, abs_mul, abs_div, abs_of_pos ten, abs_of_pos stepsPos, half,
      div_le_iff₀ (by positivity)]
    calc (m : ℚ) * (b / a * 10 ^ coarse q) = m * b / a * 10 ^ coarse q := by ring
      _ ≤ |(d : ℚ) * a - m * b| * 2 ^ 51 / a * 10 ^ coarse q := by gcongr
      _ = |(d : ℚ) * a - m * b| / a * 10 ^ coarse q * 2 ^ 51 := by ring
  · exact .inr (.inr hard)

end GpuCompute.Decimal
