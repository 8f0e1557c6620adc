import Handbook.Decimal.Nearest
import Handbook.Error
import Handbook.Value.Equality

/-!
# Sums of values

Numbers of any kind can be added, truth values among them. A sum is whole as long
as both sides are; otherwise it is rounded to a floating-point number.
-/

namespace Handbook.Value

/-- A whole number as a floating-point number; it can be too large for any. -/
def floatOfWhole (whole : Int) : Except Error Binary64 :=
  match Binary64.ofInt? whole with
  | some number => .ok number
  | Option.none => .error .wholeTooLarge

/-- The sum of two values. -/
def plus (left right : Value) : Except Error Value :=
  match left.asInt?, right.asInt?, left, right with
  | some first, some second, _, _ => .ok (.int (first + second))
  | some first, Option.none, _, .float second =>
      (floatOfWhole first).map fun first => .float (first.plus second)
  | Option.none, some second, .float first, _ =>
      (floatOfWhole second).map fun second => .float (first.plus second)
  | Option.none, Option.none, .float first, .float second => .ok (.float (first.plus second))
  | _, _, left, right => .error (.notCombinable "+=" left.kind right.kind)

@[simp] theorem plus_int (left right : Int) :
    plus (.int left) (.int right) = .ok (.int (left + right)) := rfl

end Handbook.Value
