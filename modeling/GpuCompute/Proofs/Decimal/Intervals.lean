import GpuCompute.Decimal.Shortest
import GpuCompute.Proofs.Rounding
import Mathlib.Order.Compare

/-!
# The numbers that round to a value

An interval of `Interval.of` as a set of numbers (`Interval.Contains`): it holds a decimal exactly
when it contains the number that the decimal is, and what it contains is rounded to its value.
-/

namespace GpuCompute

open Binary

namespace Decimal

/-- The number that a decimal is. -/
def val (d : Decimal) : ℚ := d.digits * 10 ^ d.exponent

variable {a : ℕ} {q e : ℤ}

theorem inSteps_pos (a : ℕ) (q e : ℤ) : 0 < (inSteps a q e).2 :=
  Nat.mul_pos (Nat.two_pow_pos _) (Nat.pow_pos (by decide))

/-- The quotient is `a * 2 ^ q` in steps of `10 ^ e`. -/
theorem inSteps_div (a : ℕ) (q e : ℤ) :
    ((inSteps a q e).1 : ℚ) / (inSteps a q e).2 = a * 2 ^ q / 10 ^ e := by
  have ten : (10 : ℚ) ≠ 0 := by norm_num
  simp only [inSteps, Nat.pow_eq]
  rw [← toNat_pow_div two_ne_zero q, ← toNat_pow_div ten e]
  push_cast
  field_simp

theorem inSteps_le_iff {n : ℕ} :
    (inSteps a q e).1 ≤ n * (inSteps a q e).2 ↔ (a * 2 ^ q : ℚ) ≤ n * 10 ^ e := by
  have pos : (0 : ℚ) < (inSteps a q e).2 := by exact_mod_cast inSteps_pos a q e
  rw [← div_le_iff₀ (by positivity), ← inSteps_div, div_le_iff₀ pos]
  exact_mod_cast Iff.rfl

theorem le_inSteps_iff {n : ℕ} :
    n * (inSteps a q e).2 ≤ (inSteps a q e).1 ↔ (n * 10 ^ e : ℚ) ≤ a * 2 ^ q := by
  have pos : (0 : ℚ) < (inSteps a q e).2 := by exact_mod_cast inSteps_pos a q e
  rw [← le_div_iff₀ (by positivity), ← inSteps_div, le_div_iff₀ pos]
  exact_mod_cast Iff.rfl

namespace Interval

variable {i : Interval} {f : Format} {code : ℕ} {v y : ℚ}

/-- The lower end. -/
def bottom (i : Interval) : ℚ := i.low * 2 ^ i.quarter

/-- The upper end. -/
def top (i : Interval) : ℚ := i.high * 2 ^ i.quarter

/-- Whether a number lies in the interval. -/
def Contains (i : Interval) (v : ℚ) : Prop :=
  if i.closed then i.bottom ≤ v ∧ v ≤ i.top else i.bottom < v ∧ v < i.top

theorem holds_iff {d : Decimal} : i.holds d = true ↔ i.Contains d.val := by
  unfold holds Contains
  split
  · rw [Bool.and_eq_true, decide_eq_true_iff, decide_eq_true_iff, inSteps_le_iff, le_inSteps_iff]
    exact Iff.rfl
  · rw [Bool.and_eq_true, decide_eq_true_iff, decide_eq_true_iff, ← not_le, ← not_le,
      le_inSteps_iff, inSteps_le_iff, not_le, not_le]
    exact Iff.rfl

theorem Contains.bottom_le_le_top (h : i.Contains v) : i.bottom ≤ v ∧ v ≤ i.top := by
  unfold Contains at h
  split at h
  · exact h
  · exact ⟨h.1.le, h.2.le⟩

theorem contains_of_lt (low : i.bottom < v) (high : v < i.top) : i.Contains v := by
  unfold Contains
  split
  · exact ⟨low.le, high.le⟩
  · exact ⟨low, high⟩

/-- Whether a number lies in the interval is told by its order to the ends. -/
theorem contains_iff_of_cmp (low : cmp y i.bottom = cmp v i.bottom)
    (high : cmp y i.top = cmp v i.top) : i.Contains y ↔ i.Contains v := by
  unfold Contains
  have low' : cmp i.bottom y = cmp i.bottom v := by rw [← cmp_swap y, low, cmp_swap]
  rw [le_iff_le_of_cmp_eq_cmp low', le_iff_le_of_cmp_eq_cmp high, lt_iff_lt_of_cmp_eq_cmp low',
    lt_iff_lt_of_cmp_eq_cmp high]

/-! ## The ends of the interval of a value -/

theorem two_zpow_sub_two (q : ℤ) : (2 : ℚ) ^ (q - 2) = 2 ^ q / 4 := by
  rw [zpow_sub₀ two_ne_zero]
  norm_num

theorem top_of (f : Format) (code : ℕ) :
    (Interval.of f code).top =
      ((f.value code).significand + 1 / 2) * 2 ^ (f.value code).exponent := by
  simp only [top, Interval.of, two_zpow_sub_two]
  push_cast
  ring

/-- Whether the step below a value is half as wide as the one above. -/
def Narrow (f : Format) (code : ℕ) : Prop :=
  (f.value code).significand = 2 ^ f.fractionBits ∧ f.leastExponent < (f.value code).exponent

theorem bottom_of_narrow (h : Narrow f code) :
    (Interval.of f code).bottom =
      ((f.value code).significand - 1 / 4) * 2 ^ (f.value code).exponent := by
  have pos : 1 ≤ 4 * (f.value code).significand := by
    rw [h.1]
    have := Nat.two_pow_pos f.fractionBits
    omega
  simp only [bottom, Interval.of, Nat.pow_eq, two_zpow_sub_two, if_pos (show _ ∧ _ from h)]
  push_cast [pos]
  ring

theorem bottom_of (h : ¬ Narrow f code) (pos : 0 < (f.value code).significand) :
    (Interval.of f code).bottom =
      ((f.value code).significand - 1 / 2) * 2 ^ (f.value code).exponent := by
  have two : 2 ≤ 4 * (f.value code).significand := by omega
  simp only [bottom, Interval.of, Nat.pow_eq, two_zpow_sub_two, if_neg (show ¬ (_ ∧ _) from h)]
  push_cast [two]
  ring

theorem top_pos (f : Format) (code : ℕ) : 0 < (Interval.of f code).top := by
  rw [top_of]
  exact mul_pos (by positivity) (two_zpow_pos _)

theorem bottom_pos (pos : 0 < (f.value code).significand) : 0 < (Interval.of f code).bottom := by
  have one : (1 : ℚ) ≤ (f.value code).significand := by exact_mod_cast pos
  by_cases narrow : Narrow f code
  · rw [bottom_of_narrow narrow]
    exact mul_pos (by linarith) (two_zpow_pos _)
  · rw [bottom_of narrow pos]
    exact mul_pos (by linarith) (two_zpow_pos _)

/-! ## Rounding -/

/-- The value is the nearest integer in its own scale. -/
theorem Contains.isNearest (pos : 0 < (f.value code).significand)
    (h : (Interval.of f code).Contains v) :
    IsNearest (v / 2 ^ (f.value code).exponent) (f.value code).significand := by
  have unit := two_zpow_pos (f.value code).exponent
  have low : ((f.value code).significand - 1 / 2) * 2 ^ (f.value code).exponent ≤
      (Interval.of f code).bottom := by
    by_cases narrow : Narrow f code
    · rw [bottom_of_narrow narrow]
      gcongr
      norm_num
    · rw [bottom_of narrow pos]
  have high := top_of f code
  unfold Contains at h
  split at h
  · next closed =>
    have even : Even (f.value code).significand := Nat.even_iff.2 (of_decide_eq_true closed)
    refine ⟨abs_le.2 ⟨?_, ?_⟩, fun _ => even⟩
    · have := (le_div_iff₀ unit).2 (low.trans h.1)
      linarith
    · have := (div_le_iff₀ unit).2 (h.2.trans_eq high)
      linarith
  · have above := (lt_div_iff₀ unit).2 (low.trans_lt h.1)
    have below := (div_lt_iff₀ unit).2 (h.2.trans_eq high)
    have near : |v / 2 ^ (f.value code).exponent - (f.value code).significand| < 1 / 2 :=
      abs_lt.2 ⟨by linarith, by linarith⟩
    exact ⟨near.le, fun tie => absurd tie near.ne⟩

/-- A number in the interval has at most the value's exponent. -/
theorem Contains.exponent_le {e : ℤ} (h : (Interval.of f code).Contains v)
    (scales : f.Scales v e) : e ≤ (f.value code).exponent := by
  have canonical := f.isCanonical_value code
  have high := h.bottom_le_le_top.2
  rw [top_of] at high
  generalize f.value code = x at canonical high
  refine scales.le_of_lt canonical.least (high.trans_lt ?_)
  have lt : (x.significand : ℚ) + 1 ≤ 2 ^ (f.fractionBits + 1) := by exact_mod_cast canonical.lt
  have unit := two_zpow_pos x.exponent
  calc (x.significand + 1 / 2 : ℚ) * 2 ^ x.exponent
      < 2 ^ (f.fractionBits + 1) * 2 ^ x.exponent := by gcongr; linarith
    _ = 2 ^ (x.exponent + f.fractionBits + 1) := by
        rw [← two_zpow_natCast, ← two_zpow_add]
        push_cast
        ring_nf

/-- Only below a power of two does the interval reach numbers with a smaller exponent. -/
theorem Contains.narrow {e : ℤ} (pos : 0 < (f.value code).significand)
    (h : (Interval.of f code).Contains v) (scales : f.Scales v e)
    (lt : e < (f.value code).exponent) : Narrow f code := by
  by_contra wide
  have canonical := f.isCanonical_value code
  have low := h.bottom_le_le_top.1
  rw [bottom_of wide pos] at low
  unfold Narrow at wide
  generalize f.value code = x at canonical low wide lt
  have least : f.leastExponent < x.exponent := scales.least.trans_lt lt
  have full : 2 ^ f.fractionBits ≤ x.significand := canonical.full.resolve_left least.ne'
  have more : 2 ^ f.fractionBits < x.significand :=
    Nat.lt_of_le_of_ne full fun equal => wide ⟨equal.symm, least⟩
  have more' : (2 : ℚ) ^ f.fractionBits + 1 ≤ x.significand := by exact_mod_cast more
  have high : v < 2 ^ f.fractionBits * 2 ^ x.exponent := by
    rw [← two_zpow_natCast, ← two_zpow_add]
    exact scales.lt.trans_le (zpow_le_zpow_right₀ one_le_two (by omega))
  have := lt_of_mul_lt_mul_right (low.trans_lt high) (two_zpow_pos x.exponent).le
  linarith

/-- A number that is at most a quarter of a step below a power of two, and has a smaller exponent, is
rounded to the power of two in the next finer scale. -/
theorem isNearest_below_power {e q : ℤ} (scales : f.Scales v e) (lt : e < q)
    (low : (2 ^ f.fractionBits - 1 / 4) * 2 ^ q ≤ v) :
    e = q - 1 ∧ IsNearest (v / 2 ^ e) (2 ^ (f.fractionBits + 1)) := by
  have unit := two_zpow_pos q
  have one : (1 : ℚ) ≤ 2 ^ f.fractionBits := one_le_pow₀ one_le_two
  have reach : (2 : ℚ) ^ (q + f.fractionBits - 1) < 2 ^ (e + f.fractionBits + 1) := by
    calc (2 : ℚ) ^ (q + f.fractionBits - 1) = 2 ^ f.fractionBits / 2 * 2 ^ q := by
          rw [show q + (f.fractionBits : ℤ) - 1 = f.fractionBits + q - 1 by ring,
            two_zpow_sub_one, two_zpow_add, two_zpow_natCast]
          ring
      _ < (2 ^ f.fractionBits - 1 / 4) * 2 ^ q := by gcongr; linarith
      _ ≤ v := low
      _ < 2 ^ (e + f.fractionBits + 1) := scales.lt
  obtain rfl : e = q - 1 := by
    have := two_zpow_lt_iff.1 reach
    omega
  refine ⟨rfl, ?_, fun _ => Nat.even_pow.2 ⟨even_two, Nat.succ_ne_zero _⟩⟩
  have twice : v / 2 ^ q = v / 2 ^ (q - 1) / 2 := by
    rw [two_zpow_sub_one]
    field_simp
  have low' := (le_div_iff₀ unit).2 low
  rw [twice] at low'
  have high := scales.div_lt
  rw [pow_succ] at high
  push_cast
  rw [pow_succ]
  exact abs_le.2 ⟨by linarith, by linarith⟩

/-- What lies in the interval of a finite value is rounded to it. -/
theorem rounds_of_contains {code' : ℕ} (rounds : f.Rounds v code') (finite : code < f.infinity)
    (pos : 0 < (f.value code).significand) (h : (Interval.of f code).Contains v) :
    code' = code := by
  obtain ⟨e, s, scales, nearest, rfl⟩ := rounds
  have recode := f.codeAt_value code
  suffices same : f.codeAt e s = code by rw [same, min_eq_left finite.le]
  obtain rfl | lt := eq_or_lt_of_le (h.exponent_le scales)
  · rw [nearest.unique (h.isNearest pos), recode]
  · have narrow := h.narrow pos scales lt
    have low := h.bottom_le_le_top.1
    rw [bottom_of_narrow narrow, narrow.1] at low
    push_cast at low
    obtain ⟨below, next⟩ := isNearest_below_power scales lt low
    rw [nearest.unique next, f.codeAt_succ scales.least, below, sub_add_cancel, ← narrow.1, recode]

end Interval

end Decimal

end GpuCompute
