import Handbook.Text.Basic

/-!
# Shortest decimals

The text of a binary floating-point number of 64 bits: the fewest decimal digits
that read back as the same number, the nearest of those to it. All arithmetic is
exact, on the significand and the exponent that the bits stand for.
-/

namespace Handbook

/-- A floating-point number of 64 bits, kept as its bits. -/
structure Binary64 where
  bits : UInt64
  deriving DecidableEq, Repr

namespace Binary64

/-- A power of two. -/
def twoTo (exponent : Nat) : Nat :=
  Nat.pow 2 exponent

/-- A power of ten. -/
def tenTo (exponent : Nat) : Nat :=
  Nat.pow 10 exponent

/-- Whether the number has a minus sign. -/
def isNegative (number : Binary64) : Bool :=
  number.bits.toNat / twoTo 63 == 1

/-- The biased exponent. -/
def biasedExponent (number : Binary64) : Nat :=
  number.bits.toNat / twoTo 52 % twoTo 11

/-- The stored part of the significand. -/
def fraction (number : Binary64) : Nat :=
  number.bits.toNat % twoTo 52

/-- The significand as a whole number. -/
def significand (number : Binary64) : Nat :=
  if number.biasedExponent = 0 then number.fraction else number.fraction + twoTo 52

/-- The power of two that the significand is multiplied by. -/
def exponent (number : Binary64) : Int :=
  (max number.biasedExponent 1 : Nat) - 1075

/-- Whether the bits stand for an infinity or for no number. -/
def isSpecial (number : Binary64) : Bool :=
  number.biasedExponent = 2047

/-- Whether the bits stand for no number. -/
def isNaN (number : Binary64) : Bool :=
  number.isSpecial && number.fraction ≠ 0

/-- Whether the number is zero, of either sign. -/
def isZero (number : Binary64) : Bool :=
  number.biasedExponent = 0 && number.fraction = 0

/-- Numeric equality: the zeros are equal, and what is no number equals nothing. -/
def equals (left right : Binary64) : Bool :=
  !left.isNaN && !right.isNaN && (left == right || (left.isZero && right.isZero))

/-- Numeric equality with an integer. -/
def equalsInt (number : Binary64) (value : Int) : Bool :=
  let scaled : Int := number.significand * twoTo number.exponent.toNat
  let signed := if number.isNegative then -scaled else scaled
  !number.isSpecial && signed = value * twoTo (-number.exponent).toNat

/-- The numerator of `significand * 2 ^ exponent` over `denominator`. -/
def numerator (significand : Nat) (exponent : Int) : Nat :=
  significand * twoTo exponent.toNat

/-- The denominator that belongs to `numerator`. -/
def denominator (exponent : Int) : Nat :=
  twoTo (-exponent).toNat

/-- A decimal: its digits as a number, and the power of ten they are multiplied by. -/
structure Decimal where
  digits : Nat
  power : Int
  deriving DecidableEq, Repr

/-- Whether a decimal lies in the interval of reals that round to `m * 2 ^ q`. The interval
reaches half a unit to each side, a quarter below a power of two, and holds its ends exactly
when the significand is even. -/
def roundsTo (m : Nat) (q : Int) (decimal : Decimal) : Bool :=
  let below := if m = twoTo 52 && q ≠ -1074 then 4 * m - 1 else 4 * m - 2
  let above := 4 * m + 2
  let left := decimal.digits * tenTo decimal.power.toNat * denominator (q - 2)
  let scale := tenTo (-decimal.power).toNat * twoTo (q - 2).toNat
  if m % 2 = 0 then below * scale ≤ left && left ≤ above * scale
  else below * scale < left && left < above * scale

/-- The two neighbours of `m * 2 ^ q` among the multiples of a power of ten. -/
def neighbours (m : Nat) (q power : Int) : Decimal × Decimal :=
  let lower :=
    numerator m q * tenTo (-power).toNat / (denominator q * tenTo power.toNat)
  (⟨lower, power⟩, ⟨lower + 1, power⟩)

/-- Whether the lower of two neighbours is the nearer one; an exact tie goes to the even one. -/
def lowerIsNearer (m : Nat) (q : Int) (lower : Decimal) : Bool :=
  let twice := 2 * numerator m q * tenTo (-lower.power).toNat
  let middle := (2 * lower.digits + 1) * denominator q * tenTo lower.power.toNat
  twice < middle || (twice = middle && lower.digits % 2 = 0)

/-- The decimal of a power of ten that reads back, if there is one. -/
def decimalAt? (m : Nat) (q power : Int) : Option Decimal :=
  let (lower, upper) := neighbours m q power
  match roundsTo m q lower, roundsTo m q upper with
  | true, true => some (if lowerIsNearer m q lower then lower else upper)
  | true, false => some lower
  | false, true => some upper
  | false, false => none

/-- The number of digits before the decimal point; zero or below it counts the zeros after it. -/
def magnitude (m : Nat) (q : Int) : Int :=
  let raised := numerator m q * tenTo 350 / denominator q
  (Nat.toDigits 10 raised).length - 350

/-- The first decimal that reads back, from the coarsest power of ten on. -/
def searchDecimal (m : Nat) (q power : Int) : Nat → Decimal
  | 0 => (neighbours m q power).1
  | count + 1 =>
      match decimalAt? m q power with
      | some decimal => decimal
      | none => searchDecimal m q (power - 1) count

/-- The shortest decimal of a number that is neither zero nor special. -/
def shortest (number : Binary64) : Decimal :=
  let m := number.significand
  let q := number.exponent
  searchDecimal m q (magnitude m q - 1) 18

/-- The digits without the zeros at their end. -/
def significantDigits (digits : Nat) : Text :=
  ((Nat.toDigits 10 digits).reverse.dropWhile (· == '0')).reverse

/-- How a number with the given digits is written: positional from a ten-thousandth up to
below ten to the sixteenth, and with an exponent of two digits or more beyond. -/
def layOut (digits : Text) (point : Int) : Text :=
  if -4 < point && point ≤ 16 then
    if point ≤ 0 then
      '0' :: '.' :: List.replicate (-point).toNat '0' ++ digits
    else
      let whole := point.toNat
      let before := digits.take whole ++ List.replicate (whole - digits.length) '0'
      let after := digits.drop whole
      before ++ '.' :: (if after.isEmpty then ['0'] else after)
  else
    let power := point - 1
    let sign := if power < 0 then '-' else '+'
    let places := Nat.toDigits 10 power.natAbs
    let padded := if places.length < 2 then '0' :: places else places
    let mantissa :=
      match digits with
      | [] => []
      | [digit] => [digit]
      | digit :: rest => digit :: '.' :: rest
    mantissa ++ 'e' :: sign :: padded

/-- The text of a number that is not negative. -/
def unsignedText (number : Binary64) : Text :=
  if number.isNaN then "nan"
  else if number.isSpecial then "inf"
  else if number.isZero then "0.0"
  else
    let decimal := number.shortest
    let point := (Nat.toDigits 10 decimal.digits).length + decimal.power
    layOut (significantDigits decimal.digits) point

/-- The text of a number. -/
def text (number : Binary64) : Text :=
  if number.isNegative && !number.isNaN then '-' :: number.unsignedText
  else number.unsignedText

end Binary64
end Handbook
