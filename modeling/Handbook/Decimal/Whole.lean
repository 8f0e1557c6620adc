import Handbook.Decimal.Shortest

/-!
# Whole neighbours

The whole numbers next to a floating-point number. They tell how the number
compares with whole numbers: a whole number lies below it exactly when it lies
below the neighbour above, and not above it exactly when it is not above the
neighbour below. The arithmetic is exact.
-/

namespace Handbook.Binary64

/-- The number as a ratio: a whole numerator over a denominator above zero. -/
def ratio (number : Binary64) : Int × Nat :=
  let size : Int := number.significand * twoTo number.exponent.toNat
  (if number.isNegative then -size else size, twoTo (-number.exponent).toNat)

/-- The greatest whole number that is not above the number; what is infinite or no number has
none. -/
def floor? (number : Binary64) : Option Int :=
  let (above, below) := number.ratio
  if number.isSpecial then none else some (above / below)

/-- The least whole number that is not below the number; what is infinite or no number has
none. -/
def ceiling? (number : Binary64) : Option Int :=
  let (above, below) := number.ratio
  if number.isSpecial then none else some (-(-above / below))

end Handbook.Binary64
