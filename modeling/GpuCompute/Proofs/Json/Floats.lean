import GpuCompute.Json.Number
import GpuCompute.Proofs.Decimal.Settling

/-!
# Decimals read as floats

A decimal is read by two roundings, one of the power of ten and one of the product or quotient.
The result is near to the number that the decimal is (`toFloat?_near`), and is this number where it
has few enough bits and the power of ten is exact (`toFloat?_exact`). So a shortest decimal of a
32-bit value, read as a 64-bit float and rounded, gives the value again
(`toFloat?_shortest`).
-/

namespace GpuCompute.Json

open Binary Decimal

variable {a b n y : ℕ} {v : ℚ} {D : ℕ} {K : ℤ}

/-! ## The 64-bit format -/

/-- The number that a code of the 64-bit format stands for. -/
def size (code : ℕ) : ℚ := (double.value code).val

theorem significand_pos_of_size (h : 0 < size a) : 0 < (double.value a).significand := by
  by_contra zero
  rw [size, Scaled.val, Nat.eq_zero_of_not_pos zero, Nat.cast_zero, zero_mul] at h
  exact lt_irrefl _ h

/-- What rounding does to numbers of a size that decimals with few digits have. -/
theorem near_of_rounds (h : double.Rounds v y) (low : 1 / 2 ^ 255 ≤ v) (high : v ≤ 2 ^ 255) :
    y < double.infinity ∧ |size y - v| ≤ v / 2 ^ 53 := by
  refine h.abs_sub_le (k := 300) (low.trans' ?_) (by decide) (high.trans_lt ?_) (by decide)
  · rw [one_div, ← zpow_natCast, ← zpow_neg]
    exact zpow_le_zpow_right₀ one_le_two (by decide)
  · rw [← zpow_natCast]
    exact zpow_lt_zpow_right₀ one_lt_two (by decide)

theorem exact_of_rounds {m : ℕ} {j : ℤ} (h : double.Rounds v y) (few : m < 2 ^ 53)
    (least : -1074 ≤ j) (most : j ≤ 300) (value : v = m * 2 ^ j) :
    y < double.infinity ∧ size y = v :=
  h.val_eq few least (by
    rw [double_leastExponent, double_exponentBits]
    omega) value

/-! ## Significands and powers of ten -/

/-- An integer that is small enough stays as it is. -/
theorem size_round (pos : 0 < n) (lt : n < 2 ^ 53) : size (double.round n 1) = n := by
  have rounds := double.rounds_round pos Nat.one_pos
  rw [Nat.cast_one, div_one] at rounds
  exact (exact_of_rounds rounds lt (j := 0) (by decide) (by decide) (by simp)).2

theorem rounds_powerOfTen (n : ℕ) : double.Rounds (10 ^ n) (powerOfTen n) := by
  have rounds := double.rounds_round (Nat.pow_pos (n := n) (show 0 < 10 by decide)) Nat.one_pos
  rw [Nat.cast_one, div_one] at rounds
  exact_mod_cast rounds

theorem ten_pow_bounds (le : n ≤ 60) : (1 : ℚ) ≤ 10 ^ n ∧ (10 : ℚ) ^ n ≤ 2 ^ 200 :=
  ⟨one_le_pow₀ (by norm_num), (pow_le_pow_right₀ (by norm_num) le).trans (by norm_num)⟩

theorem powerOfTen_near (le : n ≤ 60) : |size (powerOfTen n) - 10 ^ n| ≤ 10 ^ n / 2 ^ 53 := by
  obtain ⟨low, high⟩ := ten_pow_bounds le
  exact (near_of_rounds (rounds_powerOfTen n) (low.trans' (by norm_num))
    (high.trans (by norm_num))).2

theorem powerOfTen_exact (le : n ≤ 22) : size (powerOfTen n) = 10 ^ n := by
  have few : 5 ^ n < 2 ^ 53 :=
    Nat.lt_of_le_of_lt (Nat.pow_le_pow_right (by decide) le) (by decide)
  refine (exact_of_rounds (rounds_powerOfTen n) few (j := n) (by omega) (by omega) ?_).2
  rw [zpow_natCast]
  push_cast
  rw [← mul_pow]
  norm_num

theorem size_powerOfTen_bounds (le : n ≤ 60) :
    1 / 2 ≤ size (powerOfTen n) ∧ size (powerOfTen n) ≤ 2 ^ 201 := by
  have near := abs_le.1 (powerOfTen_near le)
  obtain ⟨low, high⟩ := ten_pow_bounds le
  constructor
  · linarith
  · linarith

/-! ## Products and quotients -/

theorem product_bounds (one : 1 ≤ v) (few : v ≤ 2 ^ 53) (le : n ≤ 60) :
    1 / 2 ^ 255 ≤ v * size (powerOfTen n) ∧ v * size (powerOfTen n) ≤ 2 ^ 255 := by
  obtain ⟨low, high⟩ := size_powerOfTen_bounds le
  constructor
  · calc (1 : ℚ) / 2 ^ 255 ≤ 1 * (1 / 2) := by norm_num
      _ ≤ v * size (powerOfTen n) := by gcongr
  · calc v * size (powerOfTen n) ≤ 2 ^ 53 * 2 ^ 201 := by gcongr
      _ ≤ 2 ^ 255 := by norm_num

theorem quotient_bounds (one : 1 ≤ v) (few : v ≤ 2 ^ 53) (le : n ≤ 60) :
    1 / 2 ^ 255 ≤ v / size (powerOfTen n) ∧ v / size (powerOfTen n) ≤ 2 ^ 255 := by
  obtain ⟨low, high⟩ := size_powerOfTen_bounds le
  have pos : 0 < size (powerOfTen n) := low.trans_lt' (by norm_num)
  constructor
  · calc (1 : ℚ) / 2 ^ 255 ≤ 1 / 2 ^ 201 := by norm_num
      _ ≤ v / size (powerOfTen n) := by gcongr
  · calc v / size (powerOfTen n) ≤ 2 ^ 53 / (1 / 2) := by gcongr
      _ ≤ 2 ^ 255 := by norm_num

/-- What the rounding of the power changes in a product. -/
theorem abs_mul_powerOfTen_sub_le (nonneg : 0 ≤ v) (le : n ≤ 60) :
    |v * size (powerOfTen n) - v * 10 ^ n| ≤ v * 10 ^ n / 2 ^ 53 := by
  rw [← mul_sub, abs_mul, abs_of_nonneg nonneg, mul_div_assoc]
  exact mul_le_mul_of_nonneg_left (powerOfTen_near le) nonneg

/-- What the rounding of the power changes in a quotient. -/
theorem abs_div_powerOfTen_sub_le (nonneg : 0 ≤ v) (le : n ≤ 60) :
    |v / size (powerOfTen n) - v / 10 ^ n| ≤ v / size (powerOfTen n) / 2 ^ 53 := by
  have power : (0 : ℚ) < 10 ^ n := by positivity
  have pos : 0 < size (powerOfTen n) := (size_powerOfTen_bounds le).1.trans_lt' (by norm_num)
  have difference : v / size (powerOfTen n) - v / 10 ^ n =
      v / size (powerOfTen n) * ((10 ^ n - size (powerOfTen n)) / 10 ^ n) := by field_simp
  have near : |(10 ^ n - size (powerOfTen n)) / 10 ^ n| ≤ 1 / 2 ^ 53 := by
    rw [abs_div, abs_of_pos power, abs_sub_comm, div_le_iff₀ power]
    linarith [powerOfTen_near le]
  rw [difference, abs_mul, abs_of_nonneg (by positivity), div_eq_mul_one_div _ (2 ^ 53)]
  exact mul_le_mul_of_nonneg_left near (by positivity)

theorem toFloat?_negative (neg : K < 0) (least : -60 ≤ K) :
    toFloat? D K = some (double.div (double.round D 1) (powerOfTen (-K).toNat)) := by
  have le : (-K).toNat ≤ largestPower := by
    rw [largestPower]
    omega
  rw [toFloat?, if_pos neg, divideByPower, if_pos le]

theorem toFloat?_nonneg (nonneg : 0 ≤ K) (most : K ≤ 60)
    (finite : double.mul (double.round D 1) (powerOfTen K.toNat) < double.infinity) :
    toFloat? D K = some (double.mul (double.round D 1) (powerOfTen K.toNat)) := by
  have le : K ≤ largestPower := by
    rw [largestPower]
    omega
  rw [toFloat?, if_neg (not_lt.2 nonneg), if_pos le]
  exact if_neg finite.ne

/-- The float is the rounded product or quotient with the rounded power of ten. -/
theorem toFloat?_rounds (pos : 0 < D) (lt : D < 2 ^ 53) (least : -60 ≤ K) (most : K ≤ 60) :
    ∃ y, toFloat? D K = some y ∧
      (K < 0 ∧ double.Rounds (D / size (powerOfTen (-K).toNat)) y ∨
        0 ≤ K ∧ double.Rounds (D * size (powerOfTen K.toNat)) y) := by
  have digits := size_round pos lt
  have one : (1 : ℚ) ≤ D := by exact_mod_cast pos
  have lt' : (D : ℚ) < 2 ^ 53 := by exact_mod_cast lt
  have digitsPos : 0 < (double.value (double.round D 1)).significand :=
    significand_pos_of_size (by linarith)
  have powerPos {n : ℕ} (le : n ≤ 60) : 0 < (double.value (powerOfTen n)).significand :=
    significand_pos_of_size ((size_powerOfTen_bounds le).1.trans_lt' (by norm_num))
  obtain neg | nonneg := lt_or_ge K 0
  · have rounds := double.rounds_div digitsPos (powerPos (n := (-K).toNat) (by omega))
    change double.Rounds (size _ / size _) _ at rounds
    rw [digits] at rounds
    exact ⟨_, toFloat?_negative neg least, .inl ⟨neg, rounds⟩⟩
  · have le : K.toNat ≤ 60 := by omega
    have rounds := double.rounds_mul digitsPos (powerPos le)
    change double.Rounds (size _ * size _) _ at rounds
    rw [digits] at rounds
    have bounds := product_bounds one lt'.le le
    exact ⟨_, toFloat?_nonneg nonneg most (near_of_rounds rounds bounds.1 bounds.2).1,
      .inr ⟨nonneg, rounds⟩⟩

/-- Two roundings change a number by at most three units of `2 ^ -53`. -/
theorem toFloat?_near (pos : 0 < D) (lt : D < 2 ^ 53) (least : -60 ≤ K) (most : K ≤ 60) :
    ∃ y, toFloat? D K = some y ∧
      |size y - (D * 10 ^ K : ℚ)| ≤ 3 * (D * 10 ^ K : ℚ) / 2 ^ 53 := by
  have one : (1 : ℚ) ≤ D := by exact_mod_cast pos
  have lt' : (D : ℚ) < 2 ^ 53 := by exact_mod_cast lt
  obtain ⟨y, read, ⟨neg, rounds⟩ | ⟨nonneg, rounds⟩⟩ := toFloat?_rounds pos lt least most
  · have le : (-K).toNat ≤ 60 := by omega
    have power : (10 : ℚ) ^ K = (10 ^ (-K).toNat)⁻¹ := by
      rw [← zpow_natCast, Int.toNat_of_nonneg (by omega), zpow_neg, inv_inv]
    have bounds := quotient_bounds one lt'.le le
    have near := (near_of_rounds rounds bounds.1 bounds.2).2
    have changed := abs_le.1 (abs_div_powerOfTen_sub_le (by linarith : (0 : ℚ) ≤ D) le)
    have near' := abs_le.1 near
    rw [power, ← div_eq_mul_inv]
    exact ⟨y, read, abs_le.2 ⟨by linarith, by linarith⟩⟩
  · have le : K.toNat ≤ 60 := by omega
    have power : (10 : ℚ) ^ K = 10 ^ K.toNat := by
      rw [← zpow_natCast, Int.toNat_of_nonneg nonneg]
    have bounds := product_bounds one lt'.le le
    have near' := abs_le.1 (near_of_rounds rounds bounds.1 bounds.2).2
    have changed := abs_le.1 (abs_mul_powerOfTen_sub_le (by linarith : (0 : ℚ) ≤ D) le)
    rw [power]
    exact ⟨y, read, abs_le.2 ⟨by linarith, by linarith⟩⟩

/-- A number with few enough bits is read as it is, if the power of ten is exact. -/
theorem toFloat?_exact {m : ℕ} {j : ℤ} (pos : 0 < D) (lt : D < 2 ^ 53) (least : -22 ≤ K)
    (most : K ≤ 22) (few : m < 2 ^ 53) (least' : -1074 ≤ j) (most' : j ≤ 300)
    (value : (D * 10 ^ K : ℚ) = m * (2 : ℚ) ^ j) :
    ∃ y, toFloat? D K = some y ∧ size y = (D * 10 ^ K : ℚ) := by
  obtain ⟨y, read, ⟨neg, rounds⟩ | ⟨nonneg, rounds⟩⟩ :=
    toFloat?_rounds pos lt (least.trans' (by decide)) (most.trans (by decide))
  · have power : (10 : ℚ) ^ (-K).toNat = 10 ^ (-K) := by
      rw [← zpow_natCast, Int.toNat_of_nonneg (by omega)]
    rw [powerOfTen_exact (by omega), power, zpow_neg, div_inv_eq_mul] at rounds
    exact ⟨y, read, (exact_of_rounds rounds few least' most' value).2⟩
  · have power : (10 : ℚ) ^ K.toNat = 10 ^ K := by
      rw [← zpow_natCast, Int.toNat_of_nonneg nonneg]
    rw [powerOfTen_exact (by omega), power] at rounds
    exact ⟨y, read, (exact_of_rounds rounds few least' most' value).2⟩

/-! ## Shortest decimals -/

/-- What a decimal is read as: its digits with its exponent, or, when it is written with a point and
a zero, an integer of tenths. -/
inductive ReadAs (d : Decimal) : ℕ → ℤ → Prop
  | digits : ReadAs d d.digits d.exponent
  | tenths (whole : 0 ≤ d.exponent) (small : d.digits * 10 ^ (d.exponent + 1).toNat < 2 ^ 53) :
    ReadAs d (d.digits * 10 ^ (d.exponent + 1).toNat) (-1)

variable {d : Decimal}

theorem ReadAs.val_eq (h : ReadAs d D K) : (D * 10 ^ K : ℚ) = d.val := by
  cases h with
  | digits => rfl
  | tenths whole small =>
    have split : (10 : ℚ) ^ (d.exponent + 1).toNat = 10 ^ d.exponent * 10 := by
      rw [← zpow_natCast, Int.toNat_of_nonneg (by omega), zpow_add_one₀ (by norm_num)]
    rw [Decimal.val]
    push_cast
    rw [split, zpow_neg_one]
    field_simp

theorem ReadAs.bounds (h : ReadAs d D K) (short : Short d) :
    0 < D ∧ D < 2 ^ 53 ∧ -60 ≤ K ∧ K ≤ 60 := by
  cases h with
  | digits => exact ⟨short.pos, short.digits.trans (by decide), short.least, short.most⟩
  | tenths whole small =>
    exact ⟨Nat.mul_pos short.pos (Nat.pow_pos (by decide)), small, by decide, by decide⟩

theorem ReadAs.exponent_bounds (h : ReadAs d D K) (whole : 0 ≤ d.exponent)
    (small : d.exponent ≤ 10) : -22 ≤ K ∧ K ≤ 22 := by
  cases h with
  | digits => exact ⟨by omega, by omega⟩
  | tenths => decide

/-- Two numbers this near are on the same side of one that is farther away. -/
theorem cmp_of_near {x e : ℚ} (pos : 0 < e) (near : |x - v| ≤ 3 * v / 2 ^ 53)
    (far : e / 2 ^ 51 ≤ |v - e|) : cmp x e = cmp v e := by
  have near' := abs_le.1 near
  have gap : 0 < e / 2 ^ 51 := by positivity
  obtain below | above := lt_or_ge v e
  · rw [abs_of_neg (by linarith)] at far
    have same : x < e := by linarith
    rw [(cmp_eq_lt_iff _ _).2 below, (cmp_eq_lt_iff _ _).2 same]
  · rw [abs_of_nonneg (by linarith)] at far
    have above' : e < v := by linarith
    have same : e < x := by linarith
    rw [(cmp_eq_gt_iff _ _).2 above', (cmp_eq_gt_iff _ _).2 same]

/-- The hard decimal and the float as which it is read are below the end. -/
theorem toFloat?_hard : ∃ y, toFloat? 7038531 (-32) = some y ∧
    cmp (size y) (22841339 * 2 ^ (-108 : ℤ)) = .lt ∧
      cmp (7038531 * 10 ^ (-32 : ℤ) : ℚ) (22841339 * 2 ^ (-108 : ℤ)) = .lt := by
  have float : double.div (double.round 7038531 1) (powerOfTen 32) = 4230507875723640831 := by
    decide +kernel
  have value : double.value 4230507875723640831 = ⟨6131425250115583, -136⟩ := by rfl
  refine ⟨_, toFloat?_negative (by decide) (by decide), ?_, ?_⟩
  · rw [cmp_eq_lt_iff, show (-(-32 : ℤ)).toNat = 32 from rfl, float, size, value, Scaled.val]
    norm_num
  · rw [cmp_eq_lt_iff]
    norm_num

/-- What a settled decimal is read as lies on the decimal's side of the end. -/
theorem cmp_of_settled {e : ℚ} (h : ReadAs d D K) (short : Short d) (pos : 0 < e)
    (settled : Settled d e) (read : toFloat? D K = some y) : cmp (size y) e = cmp d.val e := by
  obtain ⟨positive, few, least, most⟩ := h.bounds short
  cases settled with
  | apart far =>
    obtain ⟨y', read', near⟩ := toFloat?_near positive few least most
    cases read.symm.trans read'
    rw [h.val_eq] at near
    exact cmp_of_near pos near far
  | @tie m j bits least' most' value equal whole small =>
    obtain ⟨low, high⟩ := h.exponent_bounds whole small
    obtain ⟨y', read', exact⟩ := toFloat?_exact positive few low high (bits.trans (by decide))
      (by omega : -1074 ≤ j) (by omega) (by rw [h.val_eq, equal, value])
    cases read.symm.trans read'
    rw [exact, h.val_eq]
  | hard digits exponent value =>
    cases h with
    | digits =>
      obtain ⟨y', read', below, below'⟩ := toFloat?_hard
      rw [digits, exponent] at read
      cases read.symm.trans read'
      rw [Decimal.val, digits, exponent, value, below]
      exact below'.symm
    | tenths whole _ => omega

/-- **A shortest decimal is read back.** Read as a 64-bit float and rounded to the 32-bit format, the
shortest decimal of a value gives this value. -/
theorem toFloat?_shortest {code : ℕ} (finite : code < single.infinity) (pos : 0 < code)
    (h : ReadAs (shortest single code) D K) :
    ∃ y, toFloat? D K = some y ∧ single.ofScaled (double.value y) = code := by
  obtain ⟨inside, bottom, top, short⟩ := shortest_settled finite pos
  obtain ⟨positive, few, least, most⟩ := h.bounds short
  obtain ⟨y, read, near⟩ := toFloat?_near positive few least most
  have sig := significand_pos pos
  have same := (Interval.contains_iff_of_cmp
    (cmp_of_settled h short (Interval.bottom_pos sig) bottom read)
    (cmp_of_settled h short (Interval.top_pos single code) top read)).2 inside
  have sizePos : 0 < size y := by
    have := (Interval.bottom_pos sig).trans_le inside.bottom_le_le_top.1
    rw [h.val_eq] at near
    linarith [(abs_le.1 near).1]
  have rounds := single.rounds_ofScaled (significand_pos_of_size sizePos)
  exact ⟨y, read, Interval.rounds_of_contains rounds finite sig same⟩

end GpuCompute.Json
