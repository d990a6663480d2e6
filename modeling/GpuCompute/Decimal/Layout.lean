import GpuCompute.Decimal.Shortest

/-!
# Decimal notation

How a shortest decimal is written: by positions when its exponent lies in a given range, otherwise
with one digit before the point and a signed exponent. Numbers written by positions show at least
one digit on each side of the point.
-/

namespace GpuCompute.Decimal

open GpuCompute.Binary

/-- The exponents (of the leading digit) for which a number is written by positions. -/
structure Layout where
  least : Int
  greatest : Int

/-- The notation of numbers with 32 bits. -/
def Layout.single : Layout := ⟨-6, 12⟩

/-- The notation of numbers with 64 bits. -/
def Layout.double : Layout := ⟨-5, 15⟩

/-- The digits of a number in base ten. -/
def digitsOf (n : Nat) : List Char := Nat.toDigits 10 n

/-- `n` zeros. -/
def zeros (n : Nat) : List Char := List.replicate n '0'

/-- A decimal in a notation. -/
def Layout.write (style : Layout) (d : Decimal) : List Char :=
  let ds := digitsOf d.digits
  let lead : Int := ds.length - 1 + d.exponent
  if style.least ≤ lead ∧ lead ≤ style.greatest then
    if lead < 0 then '0' :: '.' :: zeros (-lead - 1).toNat ++ ds
    else
      let places := (lead + 1).toNat
      if ds.length ≤ places then ds ++ zeros (places - ds.length) ++ ['.', '0']
      else ds.take places ++ '.' :: ds.drop places
  else
    let fraction := ds.drop 1
    ds.take 1 ++ (if fraction.isEmpty then [] else '.' :: fraction) ++
      'e' :: (if lead < 0 then '-' else '+') :: digitsOf lead.natAbs

/-- The text of a finite value with a sign. -/
def write (f : Format) (style : Layout) (negative : Bool) (code : Nat) : List Char :=
  let text := style.write (shortest f code)
  if negative then '-' :: text else text

end GpuCompute.Decimal
