import GpuCompute.Proofs.Json.Floats
import GpuCompute.Proofs.Json.Writing

/-!
# Written decimals

How a decimal is written and read again: the notation chooses where the point stands and whether
there is an exponent, and in each form the digits and the exponent are read that the decimal has
(`readNumber_write`). So a finite 32-bit float is read as it was (`reads_writeSingle`).
-/

namespace GpuCompute.Json

open Binary Decimal

variable (negative : Bool) {t rest : List Char} {c : Char} {n D : ℕ} {e K : ℤ} {d : Decimal}

/-! ## Fractions and exponents -/

/-- A fraction is read up to what is neither a digit nor the letter of an exponent. -/
theorem readFraction_digits (nonempty : t ≠ []) (ht : ∀ c ∈ t, IsDigit c)
    (below : Nat.ofDigitChars 10 t n < UInt64.size) (ends : Ends rest) :
    readFraction negative n e (t ++ rest) =
      finishReal negative (Nat.ofDigitChars 10 t n) (e - t.length) rest := by
  have length : t.length ≠ 0 := fun h => nonempty (List.length_eq_zero_iff.1 h)
  rw [readFraction, takeDigits_append ht below ends.noDigit]
  dsimp only
  rw [if_neg (fun h => length h.1), dropDigits_eq_self ends.noDigit]
  split
  · exact absurd rfl (ends.of_mem_head rfl).2.2.1
  · exact absurd rfl (ends.of_mem_head rfl).2.2.2
  · rfl

theorem readFraction_exponent (nonempty : t ≠ []) (ht : ∀ c ∈ t, IsDigit c)
    (below : Nat.ofDigitChars 10 t n < UInt64.size) (rest : List Char) :
    readFraction negative n e (t ++ 'e' :: rest) =
      readExponent negative (Nat.ofDigitChars 10 t n) (e - t.length) rest := by
  have length : t.length ≠ 0 := fun h => nonempty (List.length_eq_zero_iff.1 h)
  rw [readFraction, takeDigits_append ht below rfl]
  dsimp only
  rw [if_neg (fun h => length h.1)]
  rfl

/-- The digits of an exponent that is small enough. -/
theorem readExponentDigits_append {down : Bool} {k : ℕ} (small : k < 2 ^ 31) (ends : Ends rest) :
    readExponentDigits negative down n e (digitsOf k ++ rest) =
      finishReal negative n (if down then e - k else e + k) rest := by
  have digits := isDigit_toDigits k
  have value := Nat.ofDigitChars_ten_toDigits (n := k)
  unfold digitsOf
  cases h : Nat.toDigits 10 k with
  | nil => exact absurd h Nat.toDigits_ne_nil
  | cons c t =>
    rw [h] at digits value
    rw [Nat.ofDigitChars_cons, Nat.mul_zero, Nat.zero_add] at value
    rw [List.cons_append, readExponentDigits, digitValue?_of_isDigit (digits c List.mem_cons_self)]
    dsimp only
    rw [takeDigits_append (fun d hd => digits d (.tail _ hd)) (value ▸ small) ends.noDigit, value]
    dsimp only
    rw [ends.noDigit, if_neg Bool.false_ne_true]

/-- A signed exponent. -/
theorem readExponent_append {k : ℤ} (small : k.natAbs < 2 ^ 31) (ends : Ends rest) :
    readExponent negative n e ((if k < 0 then '-' else '+') :: (digitsOf k.natAbs ++ rest)) =
      finishReal negative n (e + k) rest := by
  split
  · next neg =>
    change readExponentDigits negative true n e _ = _
    rw [readExponentDigits_append negative small ends, if_pos rfl]
    congr 1
    omega
  · next nonneg =>
    change readExponentDigits negative false n e _ = _
    rw [readExponentDigits_append negative small ends, if_neg Bool.false_ne_true]
    congr 1
    omega

/-! ## Digits -/

/-- The digits of a positive number, first and rest. -/
theorem exists_digitsOf_eq (pos : 0 < n) : ∃ c t, digitsOf n = c :: t ∧ IsDigit c ∧ c ≠ '0' ∧
    (∀ d ∈ t, IsDigit d) := by
  have digits := isDigit_toDigits n
  have head := head_toDigits pos
  unfold digitsOf
  cases h : Nat.toDigits 10 n with
  | nil => exact absurd h Nat.toDigits_ne_nil
  | cons c t =>
    rw [h] at digits head
    exact ⟨c, t, rfl, digits c List.mem_cons_self, head c rfl, fun d hd => digits d (.tail _ hd)⟩

theorem lt_ten_pow_length (n : ℕ) : n < 10 ^ (digitsOf n).length :=
  (Nat.length_toDigits_le_iff (by decide) Nat.length_toDigits_pos).1 le_rfl

theorem ofDigitChars_digitsOf (n : ℕ) : Nat.ofDigitChars 10 (digitsOf n) 0 = n :=
  Nat.ofDigitChars_ten_toDigits

/-- A positive number and zeros after it. -/
theorem ofDigitChars_zeros (n k : ℕ) :
    Nat.ofDigitChars 10 (digitsOf n ++ zeros k) 0 = n * 10 ^ k := by
  rw [Nat.ofDigitChars_append, ofDigitChars_digitsOf, zeros, Nat.ofDigitChars_replicate_zero,
    Nat.mul_comm]

theorem isDigit_zeros (k : ℕ) : ∀ c ∈ zeros k, IsDigit c := by
  intro c hc
  rw [List.eq_of_mem_replicate hc]
  rfl

theorem isDigit_append {s : List Char} (hs : ∀ c ∈ s, IsDigit c) (ht : ∀ c ∈ t, IsDigit c) :
    ∀ c ∈ s ++ t, IsDigit c := fun c hc => (List.mem_append.1 hc).elim (hs c) (ht c)

/-! ## The forms of a number -/

/-- Zeros between the point and the digits. -/
theorem readNumber_small (fits : n < UInt64.size) (k : ℕ) (ends : Ends rest) :
    readNumber negative ('0' :: '.' :: zeros k ++ digitsOf n ++ rest) =
      finishReal negative n (-k - (digitsOf n).length) rest := by
  have value : Nat.ofDigitChars 10 (zeros k ++ digitsOf n) 0 = n := by
    rw [Nat.ofDigitChars_append, zeros, Nat.ofDigitChars_replicate_zero, Nat.mul_zero,
      ofDigitChars_digitsOf]
  have nonempty : zeros k ++ digitsOf n ≠ [] := by
    rw [Ne, List.append_eq_nil_iff]
    exact fun h => Nat.toDigits_ne_nil h.2
  have read := readFraction_digits negative (e := 0) nonempty
    (isDigit_append (isDigit_zeros k) (isDigit_toDigits n)) (value ▸ fits) ends
  rw [List.cons_append, List.cons_append, List.cons_append, List.cons_append,
    readNumber_zero negative rfl]
  refine read.trans ?_
  rw [value, List.length_append, zeros, List.length_replicate]
  congr 1
  push_cast
  ring

/-- Digits with zeros after them, and a zero after the point. -/
theorem readNumber_whole (pos : 0 < n) {k : ℕ} (fits : n * 10 ^ (k + 1) < UInt64.size)
    (ends : Ends rest) :
    readNumber negative (digitsOf n ++ zeros k ++ ['.', '0'] ++ rest) =
      finishReal negative (n * 10 ^ (k + 1)) (-1) rest := by
  obtain ⟨c, t, digits, hc, positive, ht⟩ := exists_digitsOf_eq pos
  have value := ofDigitChars_zeros n k
  rw [digits, List.cons_append] at value
  have tenth : Nat.ofDigitChars 10 ['0'] (n * 10 ^ k) = n * 10 ^ (k + 1) := by
    rw [pow_succ, ← mul_assoc, mul_comm _ 10]
    rfl
  have le : n * 10 ^ k ≤ n * 10 ^ (k + 1) :=
    Nat.mul_le_mul_left n (Nat.pow_le_pow_right (by decide) (Nat.le_succ k))
  have zero : ∀ c ∈ ['0'], IsDigit c := isDigit_zeros 1
  rw [digits, List.cons_append, List.append_assoc, List.cons_append,
    readNumber_digits negative hc positive (isDigit_append ht (isDigit_zeros k))
      (value ▸ Nat.lt_of_le_of_lt le fits) rfl, value]
  refine (readFraction_digits negative (List.cons_ne_nil _ _) zero (tenth ▸ fits) ends).trans ?_
  rw [tenth]
  rfl

/-- Digits on both sides of the point. -/
theorem readNumber_split (pos : 0 < n) (fits : n < UInt64.size) {k : ℕ} (before : 0 < k)
    (after : k < (digitsOf n).length) (ends : Ends rest) :
    readNumber negative ((digitsOf n).take k ++ '.' :: (digitsOf n).drop k ++ rest) =
      finishReal negative n (k - (digitsOf n).length) rest := by
  obtain ⟨c, t, digits, hc, positive, ht⟩ := exists_digitsOf_eq pos
  obtain ⟨k, rfl⟩ : ∃ j, k = j + 1 := ⟨k - 1, by omega⟩
  have value := ofDigitChars_digitsOf n
  rw [digits] at value after ⊢
  rw [← List.take_append_drop (k + 1) (c :: t), Nat.ofDigitChars_append] at value
  rw [List.take_succ_cons, List.drop_succ_cons] at value ⊢
  have le := le_ofDigitChars (t.drop k) (Nat.ofDigitChars 10 (c :: t.take k) 0)
  have nonempty : t.drop k ≠ [] := by
    rw [Ne, List.drop_eq_nil_iff]
    simp only [List.length_cons] at after
    omega
  rw [List.cons_append, List.cons_append, List.append_assoc, List.cons_append,
    readNumber_digits negative hc positive (fun c hc => ht c (List.mem_of_mem_take hc))
      (by omega) rfl]
  refine (readFraction_digits negative nonempty (fun c hc => ht c (List.mem_of_mem_drop hc))
    (value ▸ fits) ends).trans ?_
  rw [value, List.length_drop, List.length_cons]
  simp only [List.length_cons] at after
  congr 1
  push_cast [show k ≤ t.length by omega]
  ring

/-- One digit before the point, and an exponent. -/
theorem readNumber_scientific (pos : 0 < n) (fits : n < UInt64.size) {k : ℤ}
    (small : k.natAbs < 2 ^ 31) (ends : Ends rest) :
    readNumber negative ((digitsOf n).take 1 ++
        (if ((digitsOf n).drop 1).isEmpty then [] else '.' :: (digitsOf n).drop 1) ++
        'e' :: (if k < 0 then '-' else '+') :: digitsOf k.natAbs ++ rest) =
      finishReal negative n (k + 1 - (digitsOf n).length) rest := by
  obtain ⟨c, t, digits, hc, positive, ht⟩ := exists_digitsOf_eq pos
  have value := ofDigitChars_digitsOf n
  rw [digits] at value ⊢
  simp only [List.take_succ_cons, List.take_zero, List.drop_succ_cons, List.drop_zero,
    List.cons_append, List.nil_append, List.append_assoc, List.length_cons]
  cases t with
  | nil =>
    refine (readNumber_digits negative hc positive (List.forall_mem_nil _) (value ▸ fits)
      rfl).trans ?_
    rw [value]
    refine (readExponent_append negative small ends).trans ?_
    congr 1
    simp
  | cons d t =>
    have first : Nat.ofDigitChars 10 (d :: t) (Nat.ofDigitChars 10 [c] 0) = n := by
      rw [← Nat.ofDigitChars_append]
      exact value
    have le := le_ofDigitChars (d :: t) (Nat.ofDigitChars 10 [c] 0)
    have fraction := readFraction_exponent negative (e := 0) (List.cons_ne_nil d t) ht
      (first ▸ fits) ((if k < 0 then '-' else '+') :: (digitsOf k.natAbs ++ rest))
    refine (readNumber_digits negative hc positive (List.forall_mem_nil _) (by omega) rfl).trans ?_
    refine fraction.trans ?_
    rw [first, readExponent_append negative small ends, List.length_cons]
    congr 1
    push_cast
    ring

/-! ## Notations -/

/-- **What a notation writes is read.** The digits of a short decimal are read with its exponent, or
tenths if it was written with a zero after the point. -/
theorem readNumber_write (short : Short d) (ends : Ends rest) :
    ∃ D K, ReadAs d D K ∧
      readNumber negative (Layout.single.write d ++ rest) = finishReal negative D K rest := by
  have fits : d.digits < UInt64.size := short.digits.trans (by decide)
  have least := short.least
  have most := short.most
  have length : 0 < (digitsOf d.digits).length := Nat.length_toDigits_pos
  have wide := lt_ten_pow_length d.digits
  have length' : (digitsOf d.digits).length ≤ 13 :=
    (Nat.length_toDigits_le_iff (by decide) (by decide)).2 (short.digits.trans (by decide))
  unfold Layout.write
  dsimp only
  obtain ⟨lead, hlead⟩ : ∃ lead : ℤ, (digitsOf d.digits).length - 1 + d.exponent = lead := ⟨_, rfl⟩
  rw [hlead]
  split
  · next positional =>
    split
    · refine ⟨_, _, .digits, (readNumber_small negative fits _ ends).trans ?_⟩
      congr 1
      omega
    · have greatest : lead ≤ 12 := positional.2
      split
      · next whole =>
        have zeros : (d.exponent + 1).toNat = (lead + 1).toNat - (digitsOf d.digits).length + 1 := by
          omega
        have small : d.digits * 10 ^ (d.exponent + 1).toNat < 10 ^ 14 := by
          calc d.digits * 10 ^ (d.exponent + 1).toNat
              < 10 ^ (digitsOf d.digits).length * 10 ^ (d.exponent + 1).toNat := by gcongr
            _ = 10 ^ ((digitsOf d.digits).length + (d.exponent + 1).toNat) := (pow_add _ _ _).symm
            _ ≤ 10 ^ 14 := Nat.pow_le_pow_right (by decide) (by omega)
        refine ⟨_, _, .tenths (by omega) (small.trans (by decide)), ?_⟩
        rw [zeros] at small ⊢
        exact readNumber_whole negative short.pos (small.trans (by decide)) ends
      · refine ⟨_, _, .digits, (readNumber_split negative short.pos fits (by omega) (by omega)
          ends).trans ?_⟩
        congr 1
        omega
  · refine ⟨_, _, .digits, (readNumber_scientific negative short.pos fits (by omega) ends).trans ?_⟩
    congr 1
    omega

/-! ## Floats of 32 bits -/

/-- The code of the size of a 32-bit float. -/
def sizeCode (bits : UInt32) : ℕ := bits.toNat % single.signWeight

/-- Whether a 32-bit float is neither infinite nor a NaN. -/
def IsFinite (bits : UInt32) : Prop := sizeCode bits < single.infinity

instance (bits : UInt32) : Decidable (IsFinite bits) :=
  inferInstanceAs (Decidable (_ < _))

theorem toFloat?_zero : toFloat? 0 (-1) = some 0 := by
  rw [toFloat?_negative (by decide) (by decide)]
  decide +kernel

theorem readNumber_head {negative : Bool} {p : Number × List Char}
    (h : readNumber negative t = .ok p) :
    ∃ c s, t = c :: s ∧ IsDigit c := by
  cases t with
  | nil => cases h
  | cons c s =>
    refine ⟨c, s, rfl, ?_⟩
    rw [IsDigit]
    cases digit : digitValue? c with
    | none =>
      simp only [readNumber, digit] at h
      cases h
    | some _ => rfl

/-- The shortest decimal of a finite value is read as a float that is rounded to this value. -/
theorem readNumber_shortest {code : ℕ} (finite : code < single.infinity) (ends : Ends rest) :
    ∃ y, readNumber negative (Layout.single.write (shortest single code) ++ rest) =
      .ok (.real negative y, rest) ∧ single.ofScaled (double.value y) = code := by
  obtain rfl | pos := Nat.eq_zero_or_pos code
  · have read := readFraction_digits negative (n := 0) (e := 0)
      (List.cons_ne_nil '0' []) (isDigit_zeros 1) (by decide) ends
    refine ⟨0, ?_, by decide +kernel⟩
    change readNumber negative ('0' :: '.' :: '0' :: rest) = _
    rw [readNumber_zero negative rfl]
    refine read.trans ?_
    change finishReal negative 0 (-1) rest = _
    rw [finishReal, toFloat?_zero]
  · have short := (shortest_settled finite pos).short
    obtain ⟨D, K, readAs, read⟩ := readNumber_write negative short ends
    obtain ⟨y, float, same⟩ := toFloat?_shortest finite pos readAs
    refine ⟨y, ?_, same⟩
    rw [read, finishReal, float]

/-- A float is its sign and the code of its size. -/
theorem toSingle_eq {bits : UInt32} {y : ℕ} (h : single.ofScaled (double.value y) = sizeCode bits) :
    (Number.real (single.signWeight ≤ bits.toNat) y).toSingle = bits := by
  have lt := bits.toNat_lt
  have weight : single.signWeight = 2 ^ 31 := rfl
  apply UInt32.toNat.inj
  simp only [Number.toSingle, h, sizeCode, decide_eq_true_eq, weight]
  split <;> rw [UInt32.toNat_ofNat'] <;> omega

/-- **A finite float is read as it was written.** -/
theorem reads_writeSingle {bits : UInt32} (finite : IsFinite bits) :
    Reads readSingle bits (writeSingle bits) := by
  have written : writeSingle bits =
      Decimal.write single .single (single.signWeight ≤ bits.toNat) (sizeCode bits) :=
    if_pos finite
  rw [written, Decimal.write]
  have nil : Ends [] := fun c hc => by cases hc
  obtain ⟨_, start, -⟩ := readNumber_shortest false finite nil
  obtain ⟨c, s, head, digit⟩ := readNumber_head start
  rw [List.append_nil] at head
  split
  · next negative =>
    refine ⟨⟨'-', _, rfl, rfl, by decide⟩, fun {b rest} hb ends => ?_⟩
    obtain ⟨y, read, same⟩ := readNumber_shortest true finite ends
    rw [List.cons_append, readSingle, readNumeric_minus (skipBlank_append_cons hb rfl _), read]
    have value := toSingle_eq same
    rw [negative] at value
    simp only [Except.bind, Except.map, value]
  · next positive =>
    rw [head]
    refine ⟨⟨c, s, rfl, digit.not_isBlank, by rintro rfl; cases digit⟩, fun {b rest} hb ends => ?_⟩
    obtain ⟨y, read, same⟩ := readNumber_shortest false finite ends
    rw [head, List.cons_append] at read
    rw [List.cons_append, readSingle,
      readNumeric_digit (skipBlank_append_cons hb digit.not_isBlank _) digit, read]
    have value := toSingle_eq same
    rw [Bool.not_eq_true] at positive
    rw [positive] at value
    simp only [Except.bind, Except.map, value]

/-! ## What is read -/

theorem round_le_infinity (f : Format) (num den : ℕ) : f.round num den ≤ f.infinity := by
  unfold Format.round
  split
  · exact Nat.zero_le _
  · exact min_le_right _ _

/-- No number is read as a NaN. -/
theorem sizeCode_toSingle_le (n : Number) : sizeCode n.toSingle ≤ single.infinity := by
  have weight : single.signWeight = 2 ^ 31 := rfl
  have infinity := single_infinity
  have plain {k : ℕ} (h : k ≤ single.infinity) : sizeCode (UInt32.ofNat k) ≤ single.infinity := by
    rw [sizeCode, UInt32.toNat_ofNat', weight]
    omega
  have signed {k : ℕ} (h : k ≤ single.infinity) :
      sizeCode (UInt32.ofNat (single.signWeight + k)) ≤ single.infinity := by
    rw [sizeCode, UInt32.toNat_ofNat', weight]
    omega
  cases n with
  | natural k => exact plain (round_le_infinity _ _ _)
  | negative k => exact signed (round_le_infinity _ _ _)
  | real minus code =>
    have size : single.ofScaled (double.value code) ≤ single.infinity := round_le_infinity _ _ _
    simp only [Number.toSingle]
    split
    · exact signed size
    · exact plain size

end GpuCompute.Json
