import GpuCompute.Json.Scan
import GpuCompute.Decimal.Layout

/-!
# Numbers of JSON

An integer that fits in 64 bits is read exactly. Any other number becomes a 64-bit float: the digits
are kept as an integer as long as it fits in 64 bits, what they lose is made up by the exponent, and
the integer, rounded, is multiplied or divided by the rounded power of ten. `skipNumber` only checks
the form.
-/

namespace GpuCompute.Json

open GpuCompute.Binary

/-- A number as it was read. -/
inductive Number
  /-- An integer that is not negative and less than `2 ^ 64`. -/
  | natural (n : Nat)
  /-- The integer `-n`, with `n` from 1 to `2 ^ 63`. -/
  | negative (n : Nat)
  /-- A float, by sign and the code of its size in the 64-bit format. -/
  | real (negative : Bool) (code : Nat)

/-- What a number is called where it was not expected. -/
def Number.found : Number → Found
  | .natural n => .integer n
  | .negative n => .integer (-n)
  | .real minus code => .real (String.ofList (Decimal.write double .double minus code))

/-! ## Powers of ten -/

/-- The largest power of ten by which a float is multiplied or divided at once. -/
def largestPower : Nat := 308

/-- The float nearest to a power of ten. -/
def powerOfTen (n : Nat) : Nat := double.round (Nat.pow 10 n) 1

/-- `code / 10 ^ n`, rounded after each step. -/
def divideByPower (code n : Nat) : Nat :=
  if n ≤ largestPower then double.div code (powerOfTen n)
  else if code = 0 then 0
  else divideByPower (double.div code (powerOfTen largestPower)) (n - largestPower)
termination_by n
decreasing_by simp only [largestPower] at *; omega

/-- `significand * 10 ^ exponent` as a float, if it is finite. -/
def toFloat? (significand : Nat) (exponent : Int) : Option Nat :=
  let code := double.round significand 1
  if exponent < 0 then some (divideByPower code (-exponent).toNat)
  else if exponent ≤ largestPower then
    let product := double.mul code (powerOfTen exponent.toNat)
    if product = double.infinity then none else some product
  else if code = 0 then some 0
  else none

/-! ## Reading -/

/-- The value of a decimal digit. -/
def digitValue? (c : Char) : Option Nat :=
  if '0' ≤ c ∧ c ≤ '9' then some (c.toNat - '0'.toNat) else none

/-- Whether a text starts with a decimal digit. -/
def startsWithDigit : List Char → Bool
  | [] => false
  | c :: _ => (digitValue? c).isSome

/-- The text after its leading digits. -/
def dropDigits (s : List Char) : List Char := s.dropWhile fun c => (digitValue? c).isSome

/-- How many digits a text starts with. -/
def countDigits (s : List Char) : Nat := (s.takeWhile fun c => (digitValue? c).isSome).length

/-- Takes digits into `value` as long as it stays below `limit`. The result is the new value, how
many digits were taken, and the text after them. -/
def takeDigits (limit : Nat) (value : Nat) : List Char → Nat × Nat × List Char
  | [] => (value, 0, [])
  | c :: s =>
    match digitValue? c with
    | none => (value, 0, c :: s)
    | some d =>
      if value * 10 + d < limit then
        let (result, taken, rest) := takeDigits limit (value * 10 + d) s
        (result, taken + 1, rest)
      else (value, 0, c :: s)

/-- The float `significand * 10 ^ exponent` with a sign, and the text after it. -/
def finishReal (negative : Bool) (significand : Nat) (exponent : Int) (rest : List Char) :
    Except ReadError (Number × List Char) :=
  match toFloat? significand exponent with
  | some code => .ok (.real negative code, rest)
  | none => .error .numberOutOfRange

/-- Reads an exponent's digits. One of `2 ^ 31` or more makes the number zero or out of range. -/
def readExponentDigits (negative down : Bool) (significand : Nat) (exponent : Int) :
    List Char → Except ReadError (Number × List Char)
  | [] => .error (.unfinished .value)
  | c :: s =>
    match digitValue? c with
    | none => .error .invalidNumber
    | some d =>
      let (value, _, rest) := takeDigits (Nat.pow 2 31) d s
      if startsWithDigit rest then
        if significand ≠ 0 ∧ !down then .error .numberOutOfRange
        else .ok (.real negative 0, dropDigits rest)
      else finishReal negative significand (if down then exponent - value else exponent + value) rest

/-- Reads an exponent after its letter. -/
def readExponent (negative : Bool) (significand : Nat) (exponent : Int) (s : List Char) :
    Except ReadError (Number × List Char) :=
  match s with
  | '+' :: s => readExponentDigits negative false significand exponent s
  | '-' :: s => readExponentDigits negative true significand exponent s
  | s => readExponentDigits negative false significand exponent s

/-- Reads a fraction after its point. Digits that no longer fit are left out. -/
def readFraction (negative : Bool) (significand : Nat) (exponent : Int) (s : List Char) :
    Except ReadError (Number × List Char) :=
  let (value, taken, rest) := takeDigits UInt64.size significand s
  if taken = 0 ∧ !startsWithDigit rest then
    if rest.isEmpty then .error (.unfinished .value) else .error .invalidNumber
  else
    match dropDigits rest with
    | 'e' :: rest | 'E' :: rest => readExponent negative value (exponent - taken) rest
    | rest => finishReal negative value (exponent - taken) rest

/-- An integer with a sign. Zero with a minus sign, and what 64 bits do not hold with a sign, is a
float. -/
def signed (negative : Bool) (value : Nat) : Number :=
  if !negative then .natural value
  else if value = 0 ∨ Nat.pow 2 63 < value then .real true (double.round value 1)
  else .negative value

/-- Reads what may follow the integer part of a number, of which the last `dropped` digits did not
fit into `value`. -/
def readAfterInteger (negative : Bool) (value dropped : Nat) (s : List Char) :
    Except ReadError (Number × List Char) :=
  match s with
  | '.' :: s => readFraction negative value dropped s
  | 'e' :: s | 'E' :: s => readExponent negative value dropped s
  | s => if dropped = 0 then .ok (signed negative value, s) else finishReal negative value dropped s

/-- Reads a number after its sign. -/
def readNumber (negative : Bool) : List Char → Except ReadError (Number × List Char)
  | [] => .error (.unfinished .value)
  | c :: s =>
    match digitValue? c with
    | none => .error .invalidNumber
    | some 0 =>
      if startsWithDigit s then .error .invalidNumber else readAfterInteger negative 0 0 s
    | some d =>
      let (value, _, rest) := takeDigits UInt64.size d s
      readAfterInteger negative value (countDigits rest) (dropDigits rest)

/-! ## Skipping -/

/-- Skips an exponent, if there is one. -/
def skipExponent (s : List Char) : Except ReadError (List Char) :=
  match s with
  | 'e' :: s | 'E' :: s =>
    let digits :=
      match s with
      | '+' :: s | '-' :: s => s
      | s => s
    if startsWithDigit digits then .ok (dropDigits digits) else .error .invalidNumber
  | s => .ok s

/-- Skips a fraction and an exponent, if there are any. -/
def skipFraction (s : List Char) : Except ReadError (List Char) :=
  match s with
  | '.' :: s => if startsWithDigit s then skipExponent (dropDigits s) else .error .invalidNumber
  | s => skipExponent s

/-- Skips a number whose sign, if any, was taken. -/
def skipNumber : List Char → Except ReadError (List Char)
  | [] => .error .invalidNumber
  | c :: s =>
    match digitValue? c with
    | none => .error .invalidNumber
    | some 0 => if startsWithDigit s then .error .invalidNumber else skipFraction s
    | some _ => skipFraction (dropDigits s)

theorem length_dropDigits_le (s : List Char) : (dropDigits s).length ≤ s.length :=
  (List.dropWhile_sublist _).length_le

theorem length_skipExponent_le {s r : List Char} (h : skipExponent s = .ok r) :
    r.length ≤ s.length := by
  have key : ∀ {t digits : List Char}, digits.length ≤ t.length →
      (if startsWithDigit digits then Except.ok (dropDigits digits)
        else .error ReadError.invalidNumber) = .ok r → r.length ≤ t.length + 1 := by
    intro t digits hle h
    split at h
    · simp only [Except.ok.injEq] at h
      subst h
      exact Nat.le_trans (length_dropDigits_le digits) (Nat.le_trans hle (Nat.le_succ _))
    · simp at h
  have sign : ∀ t : List Char,
      (match t with | '+' :: s | '-' :: s => s | s => s).length ≤ t.length := by
    intro t
    split <;> simp
  unfold skipExponent at h
  split at h
  · exact key (sign _) h
  · exact key (sign _) h
  · simp only [Except.ok.injEq] at h
    simp [h]

theorem length_skipFraction_le {s r : List Char} (h : skipFraction s = .ok r) :
    r.length ≤ s.length := by
  unfold skipFraction at h
  split at h
  · split at h
    · have := length_skipExponent_le h
      have := length_dropDigits_le ‹List Char›
      simp only [List.length_cons]
      omega
    · simp at h
  · exact length_skipExponent_le h

theorem length_skipNumber_lt {s r : List Char} (h : skipNumber s = .ok r) :
    r.length < s.length := by
  unfold skipNumber at h
  split at h
  · simp at h
  · next c s =>
    simp only [List.length_cons]
    split at h
    · simp at h
    · split at h
      · simp at h
      · exact Nat.lt_succ_of_le (length_skipFraction_le h)
    · exact Nat.lt_succ_of_le (Nat.le_trans (length_skipFraction_le h) (length_dropDigits_le s))

end GpuCompute.Json
