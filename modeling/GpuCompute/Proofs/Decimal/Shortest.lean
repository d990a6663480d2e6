import GpuCompute.Proofs.Decimal.Gaps

/-!
# The shortest decimal of a value

The search for a shortest decimal ends on a grid that is about as fine as the value's own steps, and
what it finds lies in the value's interval (`shortest_of_wide`), unless the value is a power of two,
whose interval is smaller.
-/

namespace GpuCompute.Decimal

open Binary

/-! ## The search -/

variable {i : Interval} {x : Scaled} {e k : ℤ} {d : Decimal}

/-- The neighbour of `x` on a grid that is nearer to it. -/
def nearestOn (x : Scaled) (e : ℤ) : Decimal :=
  ⟨roundHalfEven (inSteps x.significand x.exponent e).1 (inSteps x.significand x.exponent e).2, e⟩

/-- The nearer neighbour is at most half a step away. -/
theorem abs_nearestOn_sub_le (x : Scaled) (e : ℤ) : |(nearestOn x e).val - x.val| ≤ 10 ^ e / 2 := by
  have near := (isNearest_roundHalfEven (inSteps x.significand x.exponent e).1
    (inSteps_pos x.significand x.exponent e)).near
  have ten : (0 : ℚ) < 10 ^ e := by positivity
  rw [inSteps_div] at near
  have scaled : x.val - (nearestOn x e).val =
      (x.significand * 2 ^ x.exponent / 10 ^ e - (nearestOn x e).digits) * 10 ^ e := by
    rw [sub_mul, div_mul_cancel₀ _ ten.ne']
    rfl
  rw [abs_sub_comm, scaled, abs_mul, abs_of_pos ten, mul_comm, div_eq_mul_one_div (10 ^ e)]
  exact mul_le_mul_of_nonneg_left near ten.le

theorem onGrid?_eq (i : Interval) (x : Scaled) (e : ℤ) : ∃ other : ℕ, onGrid? i x e =
    if i.holds (nearestOn x e) then some (nearestOn x e)
    else if i.holds ⟨other, e⟩ then some ⟨other, e⟩
    else none := ⟨_, rfl⟩

theorem onGrid?_of_nearest (h : i.Contains (nearestOn x e).val) :
    onGrid? i x e = some (nearestOn x e) := by
  obtain ⟨other, grid⟩ := onGrid?_eq i x e
  rw [grid, if_pos (Interval.holds_iff.2 h)]

theorem contains_of_onGrid? (h : onGrid? i x e = some d) : i.Contains d.val ∧ d.exponent = e := by
  obtain ⟨other, grid⟩ := onGrid?_eq i x e
  rw [grid] at h
  split at h
  · next holds =>
    cases h
    exact ⟨Interval.holds_iff.1 holds, rfl⟩
  · split at h
    · next holds =>
      cases h
      exact ⟨Interval.holds_iff.1 holds, rfl⟩
    · cases h

/-- A search that reaches a grid with a hit ends there or on a coarser grid. -/
theorem search_of_hit {hit : Decimal} (found : onGrid? i x k = some hit) {grids : ℕ}
    (le : k ≤ e) (lt : e < k + grids) :
    ∃ d, search i x grids e = some d ∧ onGrid? i x d.exponent = some d ∧ k ≤ d.exponent ∧
      d.exponent ≤ e := by
  induction grids generalizing e with
  | zero => omega
  | succ grids ih =>
    unfold search
    split
    · next d here =>
      obtain rfl := (contains_of_onGrid? here).2
      exact ⟨d, rfl, here, le, le_rfl⟩
    · next none =>
      have further : e ≠ k := by
        rintro rfl
        cases none.symm.trans found
      obtain ⟨d, same, hit, above, below⟩ := ih (e := e - 1) (by omega) (by omega)
      exact ⟨d, same, hit, above, by omega⟩

/-! ## Values of the 32-bit format -/

variable {code : ℕ}

/-- The scale and the significand of a finite value. -/
theorem single_value (finite : code < single.infinity) :
    -149 ≤ (single.value code).exponent ∧ (single.value code).exponent ≤ 104 ∧
      (single.value code).significand < 2 ^ 24 := by
  have recode := single.codeAt_value code
  obtain ⟨least, full, lt⟩ := single.isCanonical_value code
  rw [Format.codeAt] at recode
  rw [single_leastExponent] at recode least full
  rw [single_fractionBits] at recode full lt
  rw [single_infinity] at finite
  refine ⟨least, ?_, lt⟩
  obtain equal | full := full <;> omega

theorem significand_pos (pos : 0 < code) : 0 < (single.value code).significand := by
  have canonical := single.isCanonical_value code
  have recode := single.codeAt_value code
  rw [Format.codeAt] at recode
  obtain equal | full := canonical.full
  · rw [equal, sub_self, Int.toNat_zero, Nat.zero_mul, Nat.zero_add] at recode
    omega
  · exact Nat.lt_of_lt_of_le (Nat.two_pow_pos _) full

/-- The exponent of the first grid that is searched. -/
def topGrid (x : Scaled) : ℤ := (x.significand.log2 + x.exponent + 1) * 30103 / 100000 + 1

theorem shortest_eq (h : 0 < (single.value code).significand) :
    shortest single code =
      (search (.of single code) (single.value code) 20 (topGrid (single.value code))).getD
        (exact (single.value code)) := by
  unfold shortest
  exact if_neg h.ne'

theorem topGrid_bounds (lt : x.significand < 2 ^ 24) :
    coarse x.exponent - 1 ≤ topGrid x ∧ topGrid x < coarse x.exponent - 1 + 20 := by
  have log : x.significand.log2 ≤ 23 := by
    by_cases h : x.significand = 0
    · rw [h]
      decide
    · exact Nat.lt_succ_iff.1 ((Nat.log2_lt h).2 lt)
  unfold topGrid coarse
  omega

/-- The decimal nearest to a value on the first grid that is finer than the value's steps lies well
inside its interval. -/
theorem contains_nearestOn (finite : code < single.infinity) (pos : 0 < code)
    (wide : ¬ Interval.Narrow single code) :
    (Interval.of single code).Contains
      (nearestOn (single.value code) (coarse (single.value code).exponent - 1)).val := by
  obtain ⟨low, high, -⟩ := single_value finite
  have near := abs_le.1
    (abs_nearestOn_sub_le (single.value code) (coarse (single.value code).exponent - 1))
  have fine := (coarse_bounds low high).2
  have unit := two_zpow_pos (single.value code).exponent
  rw [Scaled.val] at near
  refine Interval.contains_of_lt ?_ ?_
  · rw [Interval.bottom_of wide (significand_pos pos)]
    linarith
  · rw [Interval.top_of]
    linarith

/-- What the shortest decimal of a value is, unless the value is a power of two: it lies in the
value's interval, on a grid that is coarser than the value's steps, or is the decimal nearest to the
value on the next finer grid. -/
theorem shortest_of_wide (finite : code < single.infinity) (pos : 0 < code)
    (wide : ¬ Interval.Narrow single code) :
    (Interval.of single code).Contains (shortest single code).val ∧
    (shortest single code).exponent < coarse (single.value code).exponent + 19 ∧
    (coarse (single.value code).exponent ≤ (shortest single code).exponent ∨
      shortest single code =
        nearestOn (single.value code) (coarse (single.value code).exponent - 1)) := by
  obtain ⟨-, -, lt⟩ := single_value finite
  obtain ⟨le, few⟩ := topGrid_bounds lt
  have hit := onGrid?_of_nearest (contains_nearestOn finite pos wide)
  obtain ⟨d, found, here, above, below⟩ := search_of_hit hit le few
  rw [shortest_eq (significand_pos pos), found, Option.getD_some]
  refine ⟨(contains_of_onGrid? here).1, by omega, ?_⟩
  obtain lt | equal := lt_or_eq_of_le above
  · exact .inl (by omega)
  · rw [← equal, hit] at here
    exact .inr (Option.some.inj here).symm

end GpuCompute.Decimal
