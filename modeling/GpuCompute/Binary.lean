/-!
# Binary floating-point numbers

Exact arithmetic on the values of a binary interchange format. A value that is not negative is kept
as its code: the bits of exponent and fraction read as one natural number. Codes are ordered as the
values they stand for, and the code of infinity is the least that stands for no finite value.
`Format.round` takes the code of the value nearest to a quotient; products and quotients of values
are rounded by it.
-/

namespace GpuCompute.Binary

/-- A binary format: how many bits hold the fraction and how many the exponent. -/
structure Format where
  fractionBits : Nat
  exponentBits : Nat

/-- The format with 32 bits. -/
def single : Format := ⟨23, 8⟩

/-- The format with 64 bits. -/
def double : Format := ⟨52, 11⟩

/-- The nearest integer to a quotient; a tie goes to the even neighbour. -/
def roundHalfEven (num den : Nat) : Nat :=
  let q := num / den
  let r := num % den
  if den < 2 * r ∨ (2 * r = den ∧ q % 2 = 1) then q + 1 else q

/-- A value `significand * 2 ^ exponent`. -/
structure Scaled where
  significand : Nat
  exponent : Int

namespace Format

/-- The exponent of the smallest steps between values. -/
def leastExponent (f : Format) : Int := 2 - Nat.pow 2 (f.exponentBits - 1) - f.fractionBits

/-- The code of infinity. -/
def infinity (f : Format) : Nat := (Nat.pow 2 f.exponentBits - 1) * Nat.pow 2 f.fractionBits

/-- The sign bit's weight. -/
def signWeight (f : Format) : Nat := Nat.pow 2 (f.exponentBits + f.fractionBits)

/-- The value that a finite code stands for. -/
def value (f : Format) (code : Nat) : Scaled :=
  let field := code / Nat.pow 2 f.fractionBits
  let fraction := code % Nat.pow 2 f.fractionBits
  if field = 0 then ⟨fraction, f.leastExponent⟩
  else ⟨Nat.pow 2 f.fractionBits + fraction, f.leastExponent + field - 1⟩

/-- The code of the value nearest to `num / den`; a tie goes to the even neighbour, and what is too
large to `infinity`. -/
def round (f : Format) (num den : Nat) : Nat :=
  if num = 0 then 0
  else
    let guess : Int := num.log2 - den.log2 - f.fractionBits
    let low := num * Nat.pow 2 (-guess).toNat <
      den * Nat.pow 2 guess.toNat * Nat.pow 2 f.fractionBits
    let exponent := max (if low then guess - 1 else guess) f.leastExponent
    let significand :=
      roundHalfEven (num * Nat.pow 2 (-exponent).toNat) (den * Nat.pow 2 exponent.toNat)
    min ((exponent - f.leastExponent).toNat * Nat.pow 2 f.fractionBits + significand) f.infinity

/-- The code nearest to `x`. -/
def ofScaled (f : Format) (x : Scaled) : Nat :=
  f.round (x.significand * Nat.pow 2 x.exponent.toNat) (Nat.pow 2 (-x.exponent).toNat)

/-- The rounded product of two finite values. -/
def mul (f : Format) (a b : Nat) : Nat :=
  let x := f.value a
  let y := f.value b
  f.ofScaled ⟨x.significand * y.significand, x.exponent + y.exponent⟩

/-- The rounded quotient of two finite values, the divisor not zero. -/
def div (f : Format) (a b : Nat) : Nat :=
  let x := f.value a
  let y := f.value b
  let e := x.exponent - y.exponent
  f.round (x.significand * Nat.pow 2 e.toNat) (y.significand * Nat.pow 2 (-e).toNat)

end Format

end GpuCompute.Binary
