import GpuCompute.Binary

/-!
# Shortest decimals

The decimal with the fewest digits among those that round to a given binary value; of two with as
few digits the one nearer to the value, and of two as near the even one. The search takes decimal
grids from coarse to fine and tests the value's two neighbours on each: if any point of a grid
rounds to the value, one of these does.
-/

namespace GpuCompute

open GpuCompute.Binary

/-- The number `digits * 10 ^ exponent`. -/
structure Decimal where
  digits : Nat
  exponent : Int

namespace Decimal

/-- `a * 2 ^ q` in steps of `10 ^ e`, as numerator and denominator. -/
def inSteps (a : Nat) (q e : Int) : Nat × Nat :=
  (a * Nat.pow 2 q.toNat * Nat.pow 10 (-e).toNat, Nat.pow 2 (-q).toNat * Nat.pow 10 e.toNat)

/-- The numbers that round to a value: those between two ends, which are quarters of the value's
step and belong to the interval when the significand is even. -/
structure Interval where
  low : Nat
  high : Nat
  /-- The exponent of the quarter steps in which the ends are counted. -/
  quarter : Int
  closed : Bool

/-- The interval of a finite value; below a power of two the step is half as wide. -/
def Interval.of (f : Format) (code : Nat) : Interval :=
  let x := f.value code
  let narrow := x.significand = Nat.pow 2 f.fractionBits ∧ f.leastExponent < x.exponent
  { low := 4 * x.significand - (if narrow then 1 else 2)
    high := 4 * x.significand + 2
    quarter := x.exponent - 2
    closed := x.significand % 2 = 0 }

/-- Whether `d` lies in the interval. -/
def Interval.holds (i : Interval) (d : Decimal) : Bool :=
  let low := inSteps i.low i.quarter d.exponent
  let high := inSteps i.high i.quarter d.exponent
  if i.closed then low.1 ≤ d.digits * low.2 && d.digits * high.2 ≤ high.1
  else low.1 < d.digits * low.2 && d.digits * high.2 < high.1

/-- The neighbour of `x` on the grid of `10 ^ e` that lies in the interval: if both do the nearer
one, if both are as near the even one. -/
def onGrid? (i : Interval) (x : Scaled) (e : Int) : Option Decimal :=
  let steps := inSteps x.significand x.exponent e
  let below := steps.1 / steps.2
  let nearest := roundHalfEven steps.1 steps.2
  let other := if nearest = below then below + 1 else below
  if i.holds ⟨nearest, e⟩ then some ⟨nearest, e⟩
  else if i.holds ⟨other, e⟩ then some ⟨other, e⟩
  else none

/-- The first hit on the grids of `10 ^ e`, `10 ^ (e - 1)`, and so on. -/
def search (i : Interval) (x : Scaled) : (grids : Nat) → (e : Int) → Option Decimal
  | 0, _ => none
  | grids + 1, e =>
    match onGrid? i x e with
    | some d => some d
    | none => search i x grids (e - 1)

/-- The value itself as a decimal. -/
def exact (x : Scaled) : Decimal :=
  ⟨x.significand * Nat.pow 2 x.exponent.toNat * Nat.pow 5 (-x.exponent).toNat, min x.exponent 0⟩

/-- The shortest decimal of a finite value. Seventeen digits tell all values of both formats apart,
so the grids tested suffice. -/
def shortest (f : Format) (code : Nat) : Decimal :=
  let x := f.value code
  if x.significand = 0 then ⟨0, 0⟩
  else
    let top : Int := (x.significand.log2 + x.exponent + 1) * 30103 / 100000 + 1
    (search (.of f code) x 20 top).getD (exact x)

end Decimal

end GpuCompute
