import GpuCompute.Binary
import Mathlib.Algebra.Order.Field.Power
import Mathlib.Tactic.FieldSimp
import Mathlib.Tactic.Linarith
import Mathlib.Tactic.Positivity
import Mathlib.Tactic.Ring

/-!
# Rounding to a binary format

What `Format.round` makes of the number that a quotient is. The number is scaled by a power of two,
so that the fraction's bits suffice (`Format.Scales`), and the nearest integer is taken
(`IsNearest`). A number with so few bits stays as it is (`Format.Rounds.val_eq`), and any other number
that is not too small is changed by a small part of itself (`Format.Rounds.abs_sub_le`).
-/

namespace GpuCompute.Binary

/-! ## Powers -/

/-- A power as a quotient of two that are natural. -/
theorem toNat_pow_div {b : ℚ} (hb : b ≠ 0) (e : ℤ) : b ^ e.toNat / b ^ (-e).toNat = b ^ e := by
  rw [← zpow_natCast, ← zpow_natCast, ← zpow_sub₀ hb]
  congr 1
  omega

theorem two_zpow_pos (e : ℤ) : (0 : ℚ) < 2 ^ e := zpow_pos two_pos e

theorem two_zpow_add (a b : ℤ) : (2 : ℚ) ^ (a + b) = 2 ^ a * 2 ^ b := zpow_add₀ two_ne_zero a b

theorem two_zpow_sub_one (e : ℤ) : (2 : ℚ) ^ (e - 1) = 2 ^ e / 2 := by
  rw [zpow_sub₀ two_ne_zero, zpow_one]

theorem two_zpow_natCast (n : ℕ) : (2 : ℚ) ^ (n : ℤ) = 2 ^ n := zpow_natCast 2 n

theorem two_zpow_lt_iff {a b : ℤ} : (2 : ℚ) ^ a < 2 ^ b ↔ a < b :=
  zpow_lt_zpow_iff_right₀ one_lt_two

/-- What the lengths in bits say about a quotient. -/
theorem div_mem_of_log2 {num den : ℕ} (hn : 0 < num) (hd : 0 < den) :
    (2 : ℚ) ^ ((num.log2 : ℤ) - den.log2 - 1) ≤ num / den ∧
      (num / den : ℚ) < 2 ^ ((num.log2 : ℤ) - den.log2 + 1) := by
  have pos : (0 : ℚ) < den := by exact_mod_cast hd
  have numLow : (2 : ℚ) ^ num.log2 ≤ num := by exact_mod_cast Nat.log2_self_le hn.ne'
  have numHigh : (num : ℚ) < 2 ^ (num.log2 + 1) := by exact_mod_cast Nat.lt_log2_self
  have denLow : (2 : ℚ) ^ den.log2 ≤ den := by exact_mod_cast Nat.log2_self_le hd.ne'
  have denHigh : (den : ℚ) < 2 ^ (den.log2 + 1) := by exact_mod_cast Nat.lt_log2_self
  rw [le_div_iff₀ pos, div_lt_iff₀ pos]
  constructor
  · calc (2 : ℚ) ^ ((num.log2 : ℤ) - den.log2 - 1) * den
        ≤ 2 ^ ((num.log2 : ℤ) - den.log2 - 1) * 2 ^ (den.log2 + 1) := by gcongr
      _ = 2 ^ num.log2 := by
          rw [← two_zpow_natCast, ← two_zpow_natCast, ← two_zpow_add]
          congr 1
          push_cast
          ring
      _ ≤ num := numLow
  · calc (num : ℚ) < 2 ^ (num.log2 + 1) := numHigh
      _ = 2 ^ ((num.log2 : ℤ) - den.log2 + 1) * 2 ^ den.log2 := by
          rw [← two_zpow_natCast, ← two_zpow_natCast, ← two_zpow_add]
          congr 1
          push_cast
          ring
      _ ≤ 2 ^ ((num.log2 : ℤ) - den.log2 + 1) * den := by gcongr

/-! ## Nearest integers -/

/-- `n` is the nearest integer to `a`; a tie goes to the even neighbour. -/
structure IsNearest (a : ℚ) (n : ℕ) : Prop where
  near : |a - n| ≤ 1 / 2
  tie : |a - n| = 1 / 2 → Even n

/-- There is one nearest integer. -/
theorem IsNearest.unique {a : ℚ} {m n : ℕ} (hm : IsNearest a m) (hn : IsNearest a n) : m = n := by
  wlog le : m ≤ n generalizing m n
  · exact (this hn hm (Nat.le_of_not_le le)).symm
  by_contra ne
  have apart : (m : ℚ) + 1 ≤ n := by exact_mod_cast Nat.lt_of_le_of_ne le ne
  have hm' := abs_le.1 hm.near
  have hn' := abs_le.1 hn.near
  -- Two integers this near are neighbours, at half a step each.
  have below : a - m = 1 / 2 := by linarith
  have above : a - n = -(1 / 2) := by linarith
  have even := hm.tie (by rw [below, abs_of_pos (by norm_num)])
  have even' := hn.tie (by rw [above, abs_neg, abs_of_pos (by norm_num)])
  have next : n = m + 1 := by
    have : (n : ℚ) = m + 1 := by linarith
    exact_mod_cast this
  rw [next] at even'
  exact (Nat.even_add_one.1 even') even

theorem isNearest_natCast (n : ℕ) : IsNearest n n where
  near := by rw [sub_self, abs_zero]; norm_num
  tie h := by rw [sub_self, abs_zero] at h; norm_num at h

theorem isNearest_roundHalfEven (num : ℕ) {den : ℕ} (hd : 0 < den) :
    IsNearest (num / den) (roundHalfEven num den) := by
  have pos : (0 : ℚ) < den := by exact_mod_cast hd
  have split : (num : ℚ) / den = (num / den : ℕ) + (num % den : ℕ) / (den : ℚ) := by
    field_simp
    exact_mod_cast (Nat.div_add_mod num den).symm
  have rest : ((num % den : ℕ) : ℚ) < den := by exact_mod_cast Nat.mod_lt num hd
  rw [split, roundHalfEven]
  generalize num / den = q, num % den = r at rest ⊢
  by_cases up : den < 2 * r ∨ 2 * r = den ∧ q % 2 = 1
  · have half : (den : ℚ) ≤ 2 * r := by exact_mod_cast (show den ≤ 2 * r by omega)
    have step : (q : ℚ) + r / den - (q + 1 : ℕ) = -((den - r) / den) := by
      push_cast
      field_simp
      ring
    rw [if_pos up]
    constructor
    · rw [step, abs_neg, abs_of_nonneg (div_nonneg (by linarith) pos.le), div_le_iff₀ pos]
      linarith
    · intro tie
      rw [step, abs_neg, abs_of_nonneg (div_nonneg (by linarith) pos.le), div_eq_iff pos.ne'] at tie
      have equal : 2 * r = den := by
        have : (2 : ℚ) * r = den := by linarith
        exact_mod_cast this
      rw [Nat.even_add_one, Nat.not_even_iff]
      omega
  · have half : 2 * (r : ℚ) ≤ den := by exact_mod_cast (show 2 * r ≤ den by omega)
    have step : (q : ℚ) + r / den - q = r / den := by ring
    rw [if_neg up]
    constructor
    · rw [step, abs_of_nonneg (by positivity), div_le_iff₀ pos]
      linarith
    · intro tie
      rw [step, abs_of_nonneg (by positivity), div_eq_iff pos.ne'] at tie
      have equal : 2 * r = den := by
        have : (2 : ℚ) * r = den := by linarith
        exact_mod_cast this
      rw [Nat.even_iff]
      omega

/-! ## Constants -/

theorem single_fractionBits : single.fractionBits = 23 := rfl

theorem single_leastExponent : single.leastExponent = -149 := rfl

theorem single_infinity : single.infinity = 255 * 2 ^ 23 := rfl

theorem double_exponentBits : double.exponentBits = 11 := rfl

theorem double_leastExponent : double.leastExponent = -1074 := rfl

/-! ## Codes -/

/-- The number that a scaled value is. -/
def Scaled.val (x : Scaled) : ℚ := x.significand * 2 ^ x.exponent

namespace Format

variable (f : Format)

/-- The code of `significand * 2 ^ exponent`, if the significand has as many bits as it should. -/
def codeAt (exponent : ℤ) (significand : ℕ) : ℕ :=
  (exponent - f.leastExponent).toNat * 2 ^ f.fractionBits + significand

/-- Whether a significand has as many bits as one of this exponent should. -/
structure IsCanonical (exponent : ℤ) (significand : ℕ) : Prop where
  least : f.leastExponent ≤ exponent
  full : exponent = f.leastExponent ∨ 2 ^ f.fractionBits ≤ significand
  lt : significand < 2 ^ (f.fractionBits + 1)

/-- The significand and the exponent are those of the code. -/
theorem isCanonical_value (code : ℕ) :
    f.IsCanonical (f.value code).exponent (f.value code).significand := by
  have fraction : code % 2 ^ f.fractionBits < 2 ^ f.fractionBits :=
    Nat.mod_lt _ (Nat.two_pow_pos _)
  unfold value
  simp only [Nat.pow_eq]
  generalize code / 2 ^ f.fractionBits = field, code % 2 ^ f.fractionBits = rest at fraction ⊢
  have wide : 2 ^ f.fractionBits + rest < 2 ^ (f.fractionBits + 1) := by
    rw [Nat.pow_succ]
    omega
  split
  · exact ⟨le_rfl, .inl rfl, Nat.lt_of_le_of_lt (Nat.le_add_left _ _) wide⟩
  · exact ⟨by dsimp only; omega, .inr (Nat.le_add_right _ _), wide⟩

theorem codeAt_value (code : ℕ) :
    f.codeAt (f.value code).exponent (f.value code).significand = code := by
  have whole := Nat.div_add_mod' code (2 ^ f.fractionBits)
  unfold value codeAt
  simp only [Nat.pow_eq]
  generalize code / 2 ^ f.fractionBits = field, code % 2 ^ f.fractionBits = rest at whole ⊢
  split
  · next zero =>
    rw [zero, Nat.zero_mul] at whole
    rwa [sub_self, Int.toNat_zero, Nat.zero_mul]
  · next nonzero =>
    have step : (f.leastExponent + field - 1 - f.leastExponent).toNat + 1 = field := by omega
    rwa [← Nat.add_assoc, ← Nat.succ_mul, Nat.succ_eq_add_one, step]

/-- What has as many bits as it should is coded as it is. -/
theorem value_codeAt {e : ℤ} {s : ℕ} (h : f.IsCanonical e s) : f.value (f.codeAt e s) = ⟨s, e⟩ := by
  have pos := Nat.two_pow_pos f.fractionBits
  have bound := h.lt
  rw [Nat.pow_succ] at bound
  unfold value codeAt
  simp only [Nat.pow_eq]
  rw [Nat.add_comm, Nat.add_mul_div_right _ _ pos, Nat.add_mul_mod_self_right]
  obtain small | large := Nat.lt_or_ge s (2 ^ f.fractionBits)
  · have exponent : e = f.leastExponent := h.full.resolve_right (Nat.not_le.2 small)
    rw [exponent, sub_self, Nat.div_eq_of_lt small, Nat.mod_eq_of_lt small]
    exact if_pos rfl
  · have one : s / 2 ^ f.fractionBits = 1 := Nat.div_eq_of_lt_le (by omega) (by omega)
    have rest : s % 2 ^ f.fractionBits = s - 2 ^ f.fractionBits := by
      rw [Nat.mod_eq_sub, one, Nat.mul_one]
    have least := h.least
    rw [one, rest, if_neg (by omega)]
    congr 1 <;> omega

/-- The power of two above the significands of an exponent is coded as the least significand of the
next exponent. -/
theorem codeAt_succ {e : ℤ} (least : f.leastExponent ≤ e) :
    f.codeAt e (2 ^ (f.fractionBits + 1)) = f.codeAt (e + 1) (2 ^ f.fractionBits) := by
  have step : (e + 1 - f.leastExponent).toNat = (e - f.leastExponent).toNat + 1 := by omega
  rw [codeAt, codeAt, step, Nat.pow_succ]
  ring

/-- A significand may also be the power of two above those that have as many bits as they should. -/
theorem val_value_codeAt {e : ℤ} {s : ℕ} (least : f.leastExponent ≤ e)
    (full : e = f.leastExponent ∨ 2 ^ f.fractionBits ≤ s) (le : s ≤ 2 ^ (f.fractionBits + 1)) :
    (f.value (f.codeAt e s)).val = s * 2 ^ e := by
  obtain lt | rfl := Nat.lt_or_eq_of_le le
  · rw [f.value_codeAt ⟨least, full, lt⟩, Scaled.val]
  · have canonical : f.IsCanonical (e + 1) (2 ^ f.fractionBits) :=
      ⟨by omega, .inr le_rfl, Nat.pow_lt_pow_succ (by decide)⟩
    rw [f.codeAt_succ least, f.value_codeAt canonical, Scaled.val]
    push_cast
    rw [two_zpow_add, pow_succ, zpow_one]
    ring

/-! ## Scaling -/

/-- The exponent with which a number has as many bits before the point as the fraction has, and one
more; numbers that are too small for that have the least exponent. -/
structure Scales (v : ℚ) (e : ℤ) : Prop where
  least : f.leastExponent ≤ e
  lt : v < 2 ^ (e + f.fractionBits + 1)
  reach : e = f.leastExponent ∨ 2 ^ (e + f.fractionBits) ≤ v

variable {f}

theorem Scales.div_lt {v : ℚ} {e : ℤ} (h : f.Scales v e) :
    v / 2 ^ e < 2 ^ (f.fractionBits + 1) := by
  rw [div_lt_iff₀ (two_zpow_pos e), ← two_zpow_natCast, ← two_zpow_add]
  have bound := h.lt
  push_cast
  rwa [show (f.fractionBits : ℤ) + 1 + e = e + f.fractionBits + 1 by ring]

theorem Scales.le_div {v : ℚ} {e : ℤ} (h : 2 ^ (e + f.fractionBits) ≤ v) :
    2 ^ f.fractionBits ≤ v / 2 ^ e := by
  rwa [le_div_iff₀ (two_zpow_pos e), ← two_zpow_natCast, ← two_zpow_add, add_comm]

/-- Whether a positive number has this code after it was rounded: it is scaled, and the nearest
integer is taken. -/
def Rounds (f : Format) (v : ℚ) (code : ℕ) : Prop :=
  ∃ (e : ℤ) (s : ℕ), f.Scales v e ∧ IsNearest (v / 2 ^ e) s ∧
    code = min (f.codeAt e s) f.infinity

theorem rounds_round (f : Format) {num den : ℕ} (hn : 0 < num) (hd : 0 < den) :
    f.Rounds (num / den) (f.round num den) := by
  have scaled (g : ℤ) : ((num * 2 ^ (-g).toNat : ℕ) : ℚ) / (den * 2 ^ g.toNat : ℕ) =
      num / den / 2 ^ g := by
    rw [← toNat_pow_div two_ne_zero g]
    push_cast
    field_simp
  obtain ⟨low, high⟩ := div_mem_of_log2 hn hd
  rw [round, if_neg hn.ne']
  simp only [Nat.pow_eq]
  set guess : ℤ := num.log2 - den.log2 - f.fractionBits with hg
  have below : num * 2 ^ (-guess).toNat < den * 2 ^ guess.toNat * 2 ^ f.fractionBits ↔
      (num / den : ℚ) < 2 ^ (guess + f.fractionBits) := by
    rw [two_zpow_add, mul_comm ((2 : ℚ) ^ guess), ← div_lt_iff₀ (two_zpow_pos guess),
      two_zpow_natCast, ← scaled,
      div_lt_iff₀ (by exact_mod_cast Nat.mul_pos hd (Nat.two_pow_pos _)), mul_comm (_ ^ _)]
    exact_mod_cast Iff.rfl
  -- The guess is right or one too large.
  obtain ⟨g, found, hlow, hhigh⟩ : ∃ g : ℤ,
      (if num * 2 ^ (-guess).toNat < den * 2 ^ guess.toNat * 2 ^ f.fractionBits then guess - 1
        else guess) = g ∧ (2 : ℚ) ^ (g + f.fractionBits) ≤ num / den ∧
      (num / den : ℚ) < 2 ^ (g + f.fractionBits + 1) := by
    by_cases small : num * 2 ^ (-guess).toNat < den * 2 ^ guess.toNat * 2 ^ f.fractionBits
    · refine ⟨guess - 1, if_pos small, ?_, ?_⟩
      · rwa [show guess - 1 + f.fractionBits = (num.log2 : ℤ) - den.log2 - 1 by omega]
      · rw [show guess - 1 + f.fractionBits + 1 = guess + f.fractionBits by omega]
        exact below.1 small
    · refine ⟨guess, if_neg small, not_lt.1 fun h => small (below.2 h), ?_⟩
      rwa [show guess + f.fractionBits + 1 = (num.log2 : ℤ) - den.log2 + 1 by omega]
  rw [found]
  refine ⟨max g f.leastExponent, _, ⟨le_max_right _ _, ?_, ?_⟩, ?_, rfl⟩
  · refine hhigh.trans_le (zpow_le_zpow_right₀ one_le_two ?_)
    have := le_max_left g f.leastExponent
    omega
  · obtain le | le := le_total g f.leastExponent
    · exact .inl (max_eq_right le)
    · rw [max_eq_left le]
      exact .inr hlow
  · rw [← scaled]
    exact isNearest_roundHalfEven _ (Nat.mul_pos hd (Nat.two_pow_pos _))

theorem rounds_ofScaled (f : Format) {x : Scaled} (h : 0 < x.significand) :
    f.Rounds x.val (f.ofScaled x) := by
  have rounded := f.rounds_round (Nat.mul_pos h (Nat.two_pow_pos x.exponent.toNat))
    (Nat.two_pow_pos (-x.exponent).toNat)
  push_cast at rounded
  rwa [mul_div_assoc, toNat_pow_div two_ne_zero] at rounded

theorem rounds_mul (f : Format) {a b : ℕ} (ha : 0 < (f.value a).significand)
    (hb : 0 < (f.value b).significand) :
    f.Rounds ((f.value a).val * (f.value b).val) (f.mul a b) := by
  have rounded := f.rounds_ofScaled (x := ⟨_, (f.value a).exponent + (f.value b).exponent⟩)
    (Nat.mul_pos ha hb)
  rw [Scaled.val] at rounded
  push_cast at rounded
  rwa [two_zpow_add, mul_mul_mul_comm] at rounded

theorem rounds_div (f : Format) {a b : ℕ} (ha : 0 < (f.value a).significand)
    (hb : 0 < (f.value b).significand) :
    f.Rounds ((f.value a).val / (f.value b).val) (f.div a b) := by
  have rounded := f.rounds_round
    (Nat.mul_pos ha (Nat.two_pow_pos ((f.value a).exponent - (f.value b).exponent).toNat))
    (Nat.mul_pos hb (Nat.two_pow_pos (-((f.value a).exponent - (f.value b).exponent)).toNat))
  push_cast at rounded
  rwa [mul_div_mul_comm, toNat_pow_div two_ne_zero, zpow_sub₀ two_ne_zero, ← mul_div_mul_comm]
    at rounded

/-- The nearest integer has as many bits as it should, or is the power of two above. -/
theorem Scales.significand_bounds {v : ℚ} {e : ℤ} {s : ℕ} (h : f.Scales v e)
    (nearest : IsNearest (v / 2 ^ e) s) :
    (e = f.leastExponent ∨ 2 ^ f.fractionBits ≤ s) ∧ s ≤ 2 ^ (f.fractionBits + 1) := by
  have near := abs_le.1 nearest.near
  constructor
  · refine h.reach.imp_right fun reach => Nat.lt_add_one_iff.1 ?_
    have le := Scales.le_div reach
    have : ((2 ^ f.fractionBits : ℕ) : ℚ) < (s + 1 : ℕ) := by
      push_cast
      linarith
    exact_mod_cast this
  · have lt := h.div_lt
    refine Nat.lt_add_one_iff.1 ?_
    have : (s : ℚ) < (2 ^ (f.fractionBits + 1) + 1 : ℕ) := by
      push_cast
      linarith
    exact_mod_cast this

/-- The exponent of a number is at most one with which it has as many bits as it should. -/
theorem Scales.le_of_lt {v : ℚ} {e k : ℤ} (h : f.Scales v e) (least : f.leastExponent ≤ k)
    (lt : v < 2 ^ (k + f.fractionBits + 1)) : e ≤ k := by
  obtain rfl | reach := h.reach
  · exact least
  · have := two_zpow_lt_iff.1 (reach.trans_lt lt)
    omega

/-- A bound of codes by their exponent. -/
theorem codeAt_lt_infinity {e : ℤ} {s : ℕ} (le : s ≤ 2 ^ (f.fractionBits + 1))
    (h : e + 3 < f.leastExponent + (2 ^ f.exponentBits : ℕ)) (least : f.leastExponent ≤ e) :
    f.codeAt e s < f.infinity := by
  have field : (e - f.leastExponent).toNat + 2 < 2 ^ f.exponentBits - 1 := by
    generalize 2 ^ f.exponentBits = p at h ⊢
    omega
  rw [Nat.pow_succ] at le
  calc f.codeAt e s ≤ ((e - f.leastExponent).toNat + 2) * 2 ^ f.fractionBits := by
        rw [codeAt, Nat.add_mul]
        omega
    _ < f.infinity := Nat.mul_lt_mul_of_pos_right field (Nat.two_pow_pos _)

/-! ## What rounding does -/

namespace Rounds

variable {v : ℚ} {code : ℕ}

/-- A number below a power of two that the format holds is rounded to a nearest finite value. -/
theorem exists_scale (h : f.Rounds v code) {k : ℤ} (least : f.leastExponent ≤ k)
    (lt : v < 2 ^ (k + f.fractionBits + 1))
    (small : k + 3 < f.leastExponent + (2 ^ f.exponentBits : ℕ)) :
    code < f.infinity ∧ ∃ (e : ℤ) (s : ℕ), e ≤ k ∧ f.Scales v e ∧ IsNearest (v / 2 ^ e) s ∧
      (f.value code).val = s * 2 ^ e := by
  obtain ⟨e, s, scales, nearest, rfl⟩ := h
  have le := scales.le_of_lt least lt
  obtain ⟨full, bound⟩ := scales.significand_bounds nearest
  have finite := codeAt_lt_infinity bound (by omega) scales.least
  rw [min_eq_left finite.le]
  exact ⟨finite, e, s, le, scales, nearest, f.val_value_codeAt scales.least full bound⟩

/-- A number with few enough bits stays as it is. -/
theorem val_eq (h : f.Rounds v code) {m : ℕ} {j : ℤ} (hm : m < 2 ^ (f.fractionBits + 1))
    (least : f.leastExponent ≤ j)
    (small : j + 3 < f.leastExponent + (2 ^ f.exponentBits : ℕ)) (hv : v = m * 2 ^ j) :
    code < f.infinity ∧ (f.value code).val = v := by
  have lt : v < 2 ^ (j + f.fractionBits + 1) := by
    rw [hv, show j + f.fractionBits + 1 = ((f.fractionBits + 1 : ℕ) : ℤ) + j by push_cast; ring,
      two_zpow_add, two_zpow_natCast]
    have : (m : ℚ) < 2 ^ (f.fractionBits + 1) := by exact_mod_cast hm
    have := two_zpow_pos j
    gcongr
  obtain ⟨finite, e, s, le, -, nearest, value⟩ := h.exists_scale least lt small
  -- Scaled by the number's own exponent, it is an integer.
  have whole : v / 2 ^ e = (m * 2 ^ (j - e).toNat : ℕ) := by
    have step : ((j - e).toNat : ℤ) = j - e := by omega
    push_cast
    rw [← two_zpow_natCast, step, hv, mul_div_assoc, ← zpow_sub₀ two_ne_zero]
  have same : s = m * 2 ^ (j - e).toNat := by
    rw [whole] at nearest
    exact nearest.unique (isNearest_natCast _)
  refine ⟨finite, ?_⟩
  rw [value, same, ← whole, div_mul_cancel₀ _ (two_zpow_pos e).ne']

/-- A number that is not too small is changed by at most half a unit of its last place. -/
theorem abs_sub_le (h : f.Rounds v code) {k : ℤ} (reach : 2 ^ (f.leastExponent + f.fractionBits) ≤ v)
    (least : f.leastExponent ≤ k) (lt : v < 2 ^ (k + f.fractionBits + 1))
    (small : k + 3 < f.leastExponent + (2 ^ f.exponentBits : ℕ)) :
    code < f.infinity ∧ |(f.value code).val - v| ≤ v / 2 ^ (f.fractionBits + 1) := by
  obtain ⟨finite, e, s, -, scales, nearest, value⟩ := h.exists_scale least lt small
  have full : 2 ^ (e + f.fractionBits) ≤ v := by
    obtain rfl | full := scales.reach
    · exact reach
    · exact full
  have pos := two_zpow_pos e
  refine ⟨finite, ?_⟩
  calc |(f.value code).val - v| = |v / 2 ^ e - s| * 2 ^ e := by
        rw [value, ← abs_neg, ← abs_of_pos pos, ← abs_mul, abs_of_pos pos, sub_mul,
          div_mul_cancel₀ _ pos.ne', neg_sub]
    _ ≤ 1 / 2 * 2 ^ e := by gcongr; exact nearest.near
    _ = 2 ^ (e + f.fractionBits) / 2 ^ (f.fractionBits + 1) := by
        rw [two_zpow_add, two_zpow_natCast, pow_succ]
        field_simp
    _ ≤ v / 2 ^ (f.fractionBits + 1) := by gcongr

end Rounds

end Format

end GpuCompute.Binary
