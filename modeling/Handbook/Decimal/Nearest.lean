import Handbook.Decimal.Whole

/-!
# Nearest numbers

The floating-point number nearest to an exact one, the even one of two that are
equally near. Whole numbers and sums are exact first and rounded once at the
end; what is too large for any number becomes an infinity, or is none.
-/

namespace Handbook.Binary64

/-- The bits of the infinity above zero. -/
def infinityBits : Nat := 2047 * twoTo 52

/-- The quotient by a power of two, rounded to the nearest whole number, to the even one from the
middle. -/
def halve (number exponent : Nat) : Nat :=
  let quotient := number / twoTo exponent
  let twice := 2 * (number % twoTo exponent)
  if twoTo exponent < twice || (twice = twoTo exponent && quotient % 2 = 1) then quotient + 1
  else quotient

/-- The bits of the number nearest to `size * 2 ^ exponent`. A significand that is rounded up to
the next power of two carries into the exponent. -/
def nearestBits (size : Nat) (exponent : Int) : Nat :=
  let unit := max (exponent + Nat.log2 size - 52) (-1074)
  let significand :=
    if unit ≤ exponent then size * twoTo (exponent - unit).toNat
    else halve size (unit - exponent).toNat
  if size = 0 then 0
  else min infinityBits ((unit + 1074).toNat * twoTo 52 + significand)

/-- The number nearest to `value * 2 ^ exponent`; a zero has the sign that is given for it. -/
def nearest (zeroIsNegative : Bool) (value exponent : Int) : Binary64 :=
  let negative := if value = 0 then zeroIsNegative else value < 0
  let sign := if negative then twoTo 63 else 0
  ⟨UInt64.ofNat (sign + nearestBits value.natAbs exponent)⟩

/-- The number nearest to a whole one; none if that is beyond all of them. -/
def ofInt? (value : Int) : Option Binary64 :=
  let number := nearest false value 0
  if number.isSpecial then none else some number

/-- The significand with the sign of the number, as a multiple of a smaller power of two. -/
def scaled (number : Binary64) (exponent : Int) : Int :=
  let size : Int := number.significand * twoTo (number.exponent - exponent).toNat
  if number.isNegative then -size else size

/-- The bits that stand for no number. -/
def notANumber : Binary64 :=
  ⟨0x7FF8000000000000⟩

/-- The sum of two numbers. What is infinite or no number stays as it is, and two different ones of
these make no number. -/
def plus (left right : Binary64) : Binary64 :=
  if left.isSpecial && right.isSpecial && left ≠ right then notANumber
  else if left.isSpecial then left
  else if right.isSpecial then right
  else
    let exponent := min left.exponent right.exponent
    nearest (left.isNegative && right.isNegative)
      (left.scaled exponent + right.scaled exponent) exponent

end Handbook.Binary64
