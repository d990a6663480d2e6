import GpuCompute.Proofs.Decimal.Shortest
import Mathlib.Algebra.Ring.Parity

/-!
# Shortest decimals and the ends of intervals

The shortest decimal of a value lies in the interval of the value, but how it is read back is
rounded, and near an end the result may lie on the other side. A decimal is settled at an end if it
is too far away for that, or is the end itself and exact when it is read, or is the one decimal for
which this has to be computed (`Settled`). Every shortest decimal is settled at both ends of its
interval (`shortest_settled`).
-/

namespace GpuCompute.Decimal

open Binary

/-- Why a decimal that is read is on the side of an end on which it should be. -/
inductive Settled (d : Decimal) (v : ℚ) : Prop
  /-- It is far enough from the end. -/
  | apart (far : v / 2 ^ 51 ≤ |d.val - v|)
  /-- It is the end, with few enough digits to be read as it is. -/
  | tie {m : ℕ} {j : ℤ} (few : m < 2 ^ 25) (least : -150 ≤ j) (most : j ≤ 103)
    (value : v = m * 2 ^ j) (equal : d.val = v) (whole : 0 ≤ d.exponent) (small : d.exponent ≤ 10)
  /-- It is next to the end `22841339 * 2 ^ -108`. -/
  | hard (digits : d.digits = 7038531) (exponent : d.exponent = -32)
    (value : v = 22841339 * 2 ^ (-108 : ℤ))

/-- A bound of decimals: few enough digits for an exact integer, and an exponent in the range of
exact powers and somewhat above. -/
structure Short (d : Decimal) : Prop where
  pos : 0 < d.digits
  digits : d.digits < 2 ^ 40
  least : -60 ≤ d.exponent
  most : d.exponent ≤ 60

instance (d : Decimal) : Decidable (Short d) :=
  decidable_of_iff (0 < d.digits ∧ d.digits < 2 ^ 40 ∧ -60 ≤ d.exponent ∧ d.exponent ≤ 60)
    ⟨fun h => ⟨h.1, h.2.1, h.2.2.1, h.2.2.2⟩, fun h => ⟨h.pos, h.digits, h.least, h.most⟩⟩

/-- A short decimal that lies in an interval and is settled at both ends. -/
structure Interval.Settles (i : Interval) (d : Decimal) : Prop where
  inside : i.Contains d.val
  bottom : Settled d i.bottom
  top : Settled d i.top
  short : Short d

variable {d : Decimal} {q : ℤ} {m : ℕ}

/-! ## Ties -/

/-- A decimal that is a midpoint, cleared of denominators. -/
theorem digits_of_tie (tie : d.val = m * 2 ^ q) :
    d.digits * 10 ^ d.exponent.toNat * 2 ^ (-q).toNat =
      m * 2 ^ q.toNat * 10 ^ (-d.exponent).toNat := by
  rw [val, ← toNat_pow_div (by norm_num) d.exponent, ← toNat_pow_div two_ne_zero q,
    ← mul_div_assoc, ← mul_div_assoc, div_eq_div_iff (by positivity) (by positivity)] at tie
  exact_mod_cast tie

/-- A midpoint is no decimal with a negative exponent, unless the decimal's grid is finer than the
steps of the midpoint's value. -/
theorem exponent_nonneg_of_tie (odd : Odd m) (tie : d.val = m * 2 ^ (q - 1))
    (fine : (2 : ℚ) ^ q ≤ 10 ^ d.exponent) : 0 ≤ d.exponent := by
  by_contra negative
  have exponents : q < d.exponent := by
    refine two_zpow_lt_iff.1 (fine.trans_lt ?_)
    have fives : (5 : ℚ) ^ d.exponent < 1 := zpow_lt_one_of_neg₀ (by norm_num) (not_le.1 negative)
    calc (10 : ℚ) ^ d.exponent = 2 ^ d.exponent * 5 ^ d.exponent := by
          rw [← mul_zpow]
          norm_num
      _ < 2 ^ d.exponent * 1 := by
          have := two_zpow_pos d.exponent
          gcongr
      _ = 2 ^ d.exponent := mul_one _
  -- There are more factors of two on the left than on the right.
  have cleared := digits_of_tie tie
  obtain ⟨n, hn⟩ : ∃ n, (-(q - 1)).toNat = (-d.exponent).toNat + (n + 1) :=
    ⟨(d.exponent - q).toNat, by omega⟩
  rw [Int.toNat_of_nonpos (by omega : d.exponent ≤ 0), Int.toNat_of_nonpos (by omega : q - 1 ≤ 0),
    hn, pow_zero, mul_one, pow_zero, mul_one, show 10 = 2 * 5 from rfl, mul_pow, pow_add,
    mul_left_comm, mul_left_comm m] at cleared
  have rest := Nat.eq_of_mul_eq_mul_left (Nat.two_pow_pos _) cleared
  have five : Odd (m * 5 ^ (-d.exponent).toNat) := odd.mul (Odd.pow (by decide))
  rw [← rest, pow_succ, ← mul_assoc] at five
  exact Nat.not_even_iff_odd.2 five (even_two.mul_left _)

/-- A midpoint that is a decimal is divisible by the power of five. -/
theorem exponent_le_of_tie (pos : 0 < m) (few : m < 2 ^ 25) (tie : d.val = m * 2 ^ q) :
    d.exponent ≤ 10 := by
  by_contra large
  have cleared := digits_of_tie tie
  rw [Int.toNat_of_nonpos (by omega : -d.exponent ≤ 0), pow_zero, mul_one] at cleared
  have divides : 5 ^ d.exponent.toNat ∣ m * 2 ^ q.toNat := by
    rw [← cleared, show 10 = 5 * 2 from rfl, mul_pow, ← mul_assoc, mul_right_comm d.digits]
    exact ⟨d.digits * 2 ^ d.exponent.toNat * 2 ^ (-q).toNat, by ring⟩
  have divides' : 5 ^ d.exponent.toNat ∣ m :=
    (Nat.Coprime.pow _ _ (by decide)).dvd_of_dvd_mul_right divides
  have le := Nat.le_of_dvd pos divides'
  have : 5 ^ 11 ≤ 5 ^ d.exponent.toNat := Nat.pow_le_pow_right (by decide) (by omega)
  omega

/-! ## Values with steps of one width -/

/-- A decimal on a coarse grid is settled at a midpoint. -/
theorem settled_of_coarse (hq : -149 ≤ q) (hq' : q ≤ 104) (grid : coarse q ≤ d.exponent)
    (pos : 0 < d.digits) (small : d.val < 2 ^ 24 * 2 ^ q) (odd : Odd m) (few : m < 2 ^ 25) :
    Settled d (m * 2 ^ (q - 1)) := by
  have fine := (coarse_bounds hq hq').1
  obtain ⟨n, hn⟩ : ∃ n : ℕ, d.exponent = coarse q + n := ⟨(d.exponent - coarse q).toNat, by omega⟩
  have rescaled : d.val = (d.digits * 10 ^ n : ℕ) * 10 ^ coarse q := by
    rw [val, hn, zpow_add₀ (by norm_num), zpow_natCast]
    push_cast
    ring
  have pos' : 0 < d.digits * 10 ^ n := Nat.mul_pos pos (Nat.pow_pos (by decide))
  rw [rescaled] at small
  obtain equal | apart | hard := apart_of_lt hq hq' pos' small (Nat.odd_iff.1 odd) few
  · rw [← rescaled] at equal
    have grid' : (2 : ℚ) ^ q ≤ 10 ^ d.exponent :=
      fine.trans (zpow_le_zpow_right₀ (by norm_num) grid)
    exact .tie few (by omega) (by omega) rfl equal (exponent_nonneg_of_tie odd equal grid')
      (exponent_le_of_tie odd.pos few equal)
  · rw [← rescaled] at apart
    exact .apart apart
  · unfold hardPair at hard
    split at hard
    · next scale =>
      obtain ⟨digits, rfl⟩ := Prod.mk.inj hard
      have zero : n = 0 := by
        by_contra h
        have : 10 ∣ d.digits * 10 ^ n := Dvd.dvd.mul_left (dvd_pow_self 10 h) _
        rw [digits] at this
        exact absurd this (by decide)
      rw [zero, pow_zero, mul_one] at digits
      subst scale
      refine .hard digits ?_ ?_
      · rw [hn, zero]
        decide
      · norm_num
    · obtain ⟨digits, -⟩ := Prod.mk.inj hard
      omega

/-- A decimal on a coarse grid, or the one next to a value on a finer grid, is settled at the
midpoints beside the value. -/
theorem settled_of_grid {x : Scaled} (hq : -149 ≤ x.exponent) (hq' : x.exponent ≤ 104)
    (grid : coarse x.exponent ≤ d.exponent ∨ d = nearestOn x (coarse x.exponent - 1))
    (pos : 0 < d.digits) (small : d.val < 2 ^ 24 * 2 ^ x.exponent) (odd : Odd m)
    (few : m < 2 ^ 25) (beside : |(m : ℚ) - 2 * x.significand| = 1) :
    Settled d (m * 2 ^ (x.exponent - 1)) := by
  obtain coarser | rfl := grid
  · exact settled_of_coarse hq hq' coarser pos small odd few
  -- The decimal is near to the value, and the midpoint is half a step away from it.
  have near := abs_nearestOn_sub_le x (coarse x.exponent - 1)
  have fine := (coarse_bounds hq hq').2
  have unit := two_zpow_pos x.exponent
  have few' : (m : ℚ) ≤ 2 ^ 25 := by exact_mod_cast few.le
  have bound : (m : ℚ) * 2 ^ (x.exponent - 1) ≤ 2 ^ 24 * 2 ^ x.exponent := by
    calc (m : ℚ) * 2 ^ (x.exponent - 1) ≤ 2 ^ 25 * 2 ^ (x.exponent - 1) := by gcongr
      _ = 2 ^ 24 * 2 ^ x.exponent := by
          rw [two_zpow_sub_one]
          ring
  have step : |(m * 2 ^ (x.exponent - 1) : ℚ) - x.val| = 2 ^ x.exponent / 2 := by
    have apart : (m * 2 ^ (x.exponent - 1) : ℚ) - x.val =
        (m - 2 * x.significand) * (2 ^ x.exponent / 2) := by
      rw [two_zpow_sub_one, Scaled.val]
      ring
    rw [apart, abs_mul, beside, one_mul, abs_of_pos (by positivity)]
  have triangle := abs_sub_le x.val (nearestOn x (coarse x.exponent - 1)).val
    (m * 2 ^ (x.exponent - 1))
  rw [abs_sub_comm x.val, abs_sub_comm x.val, step] at triangle
  refine .apart ?_
  rw [div_le_iff₀ (by norm_num)]
  linarith

/-- A decimal on a grid that is not much finer than the steps of values has few digits. -/
theorem short_of_grid (hq : -149 ≤ q) (hq' : q ≤ 104) (grid : coarse q - 1 ≤ d.exponent)
    (most : d.exponent < coarse q + 19) (pos : 0 < d.val) (small : d.val < 2 ^ 24 * 2 ^ q) :
    Short d := by
  have unit : (0 : ℚ) < 10 ^ d.exponent := by positivity
  have digits : 0 < d.digits := by
    have : (0 : ℚ) < d.digits := pos_of_mul_pos_left pos unit.le
    exact_mod_cast this
  have few : d.digits < 2 ^ 24 * 10 := by
    have : (d.digits : ℚ) < 2 ^ 24 * 10 := by
      refine lt_of_mul_lt_mul_right ?_ unit.le
      calc (d.digits : ℚ) * 10 ^ d.exponent < 2 ^ 24 * 2 ^ q := small
        _ ≤ 2 ^ 24 * 10 ^ coarse q := by
            gcongr
            exact (coarse_bounds hq hq').1
        _ = 2 ^ 24 * 10 * (10 : ℚ) ^ (coarse q - 1) := by
            rw [zpow_sub₀ (by norm_num), zpow_one]
            ring
        _ ≤ 2 ^ 24 * 10 * 10 ^ d.exponent := by
            gcongr
            norm_num
    exact_mod_cast this
  unfold coarse at grid most
  exact ⟨digits, few.trans (by decide), by omega, by omega⟩

/-! ## Powers of two -/

/-- Whether a decimal lies in an interval and is far from both ends. -/
def Interval.Surrounds (i : Interval) (d : Decimal) : Prop :=
  let low := inSteps (i.low * (2 ^ 51 + 1)) i.quarter d.exponent
  let high := inSteps (i.high * (2 ^ 51 - 1)) i.quarter d.exponent
  low.1 ≤ d.digits * 2 ^ 51 * low.2 ∧ d.digits * 2 ^ 51 * high.2 ≤ high.1

instance (i : Interval) (d : Decimal) : Decidable (i.Surrounds d) :=
  inferInstanceAs (Decidable (_ ∧ _))

theorem Interval.Surrounds.far_from_ends {i : Interval} (h : i.Surrounds d) :
    i.bottom / 2 ^ 51 ≤ d.val - i.bottom ∧ i.top / 2 ^ 51 ≤ i.top - d.val := by
  have low := inSteps_le_iff.1 h.1
  have high := le_inSteps_iff.1 h.2
  push_cast at low high
  unfold val bottom top
  constructor
  · linarith
  · linarith

/-- The values of the 32-bit format that are a power of two, and whose interval is smaller
therefore, have a shortest decimal that is far from both ends. -/
theorem powers_surround : ∀ i : Fin 253,
    (Interval.of single (((i : ℕ) + 2) * 2 ^ 23)).Surrounds
        (shortest single (((i : ℕ) + 2) * 2 ^ 23)) ∧
      Short (shortest single (((i : ℕ) + 2) * 2 ^ 23)) := by
  decide +kernel

variable {code : ℕ}

theorem surrounds_of_narrow (finite : code < single.infinity)
    (narrow : Interval.Narrow single code) :
    (Interval.of single code).Surrounds (shortest single code) ∧ Short (shortest single code) := by
  obtain ⟨i, rfl⟩ : ∃ i : Fin 253, ((i : ℕ) + 2) * 2 ^ 23 = code := by
    obtain ⟨power, normal⟩ := narrow
    have recode := single.codeAt_value code
    rw [Format.codeAt, power, single_leastExponent, single_fractionBits] at recode
    rw [single_leastExponent] at normal
    rw [single_infinity] at finite
    exact ⟨⟨((single.value code).exponent + 148).toNat, by omega⟩, by dsimp only; omega⟩
  exact powers_surround i

theorem settled_of_narrow (finite : code < single.infinity) (narrow : Interval.Narrow single code) :
    (Interval.of single code).Settles (shortest single code) := by
  obtain ⟨surrounds, short⟩ := surrounds_of_narrow finite narrow
  have sig : 0 < (single.value code).significand := by
    rw [narrow.1]
    exact Nat.two_pow_pos _
  have bottom := Interval.bottom_pos sig
  have top := Interval.top_pos single code
  obtain ⟨low, high⟩ := surrounds.far_from_ends
  have low' : 0 < (Interval.of single code).bottom / 2 ^ 51 := by positivity
  have high' : 0 < (Interval.of single code).top / 2 ^ 51 := by positivity
  refine ⟨Interval.contains_of_lt (by linarith) (by linarith), .apart ?_, .apart ?_, short⟩
  · exact low.trans (le_abs_self _)
  · rw [abs_sub_comm]
    exact high.trans (le_abs_self _)

/-! ## All values -/

theorem settled_of_wide (finite : code < single.infinity) (pos : 0 < code)
    (wide : ¬ Interval.Narrow single code) :
    (Interval.of single code).Settles (shortest single code) := by
  obtain ⟨hq, hq', lt⟩ := single_value finite
  obtain ⟨inside, most, grid⟩ := shortest_of_wide finite pos wide
  have mem := inside.bottom_le_le_top
  have sig := significand_pos pos
  have bottomPos := Interval.bottom_pos sig
  have bottom := Interval.bottom_of wide sig
  have top := Interval.top_of single code
  generalize single.value code = x at *
  have one : 1 ≤ 2 * x.significand := by omega
  have full : (x.significand : ℚ) + 1 ≤ 2 ^ 24 := by exact_mod_cast lt
  have unit := two_zpow_pos x.exponent
  -- The ends are midpoints.
  have bottom' : (Interval.of single code).bottom =
      (2 * x.significand - 1 : ℕ) * 2 ^ (x.exponent - 1) := by
    rw [bottom, two_zpow_sub_one]
    push_cast [one]
    ring
  have top' : (Interval.of single code).top =
      (2 * x.significand + 1 : ℕ) * 2 ^ (x.exponent - 1) := by
    rw [top, two_zpow_sub_one]
    push_cast
    ring
  have topLt : (Interval.of single code).top < 2 ^ 24 * 2 ^ x.exponent := by
    rw [top]
    gcongr
    linarith
  have small := mem.2.trans_lt topLt
  have fine : coarse x.exponent - 1 ≤ (shortest single code).exponent := by
    obtain coarser | nearest := grid
    · omega
    · rw [nearest]
      exact le_rfl
  have short := short_of_grid hq hq' fine most (bottomPos.trans_le mem.1) small
  refine ⟨inside, ?_, ?_, short⟩
  · rw [bottom']
    refine settled_of_grid hq hq' grid short.pos small ⟨x.significand - 1, by omega⟩ (by omega) ?_
    push_cast [one]
    norm_num
  · rw [top']
    refine settled_of_grid hq hq' grid short.pos small ⟨x.significand, rfl⟩ (by omega) ?_
    push_cast
    norm_num

/-- The shortest decimal of a value is settled at the ends of the value's interval. -/
theorem shortest_settled (finite : code < single.infinity) (pos : 0 < code) :
    (Interval.of single code).Settles (shortest single code) := by
  by_cases narrow : Interval.Narrow single code
  · exact settled_of_narrow finite narrow
  · exact settled_of_wide finite pos narrow

end GpuCompute.Decimal
