import Handbook.Value.Basic

/-!
# Equality of values

Values are equal by what they hold: truth values are the numbers one and zero,
numbers are compared across kinds, sets with frozen sets and byte strings with
byte arrays, dictionaries and sets without regard to order. Two styled texts are
equal when their characters are.
-/

namespace Handbook.Value

/-- The integer that a truth value or an integer stands for. -/
def asInt? : Value → Option Int
  | .bool flag => some (if flag then 1 else 0)
  | .int number => some number
  | _ => Option.none

/-- Equality of ranges, by the integers that they hold and without going through them: as many,
from the same first one on, in the same steps if there is a second. -/
def equalsRange (left right : Int × Int × Int) : Bool :=
  let length := rangeLength left.1 left.2.1 left.2.2
  length == rangeLength right.1 right.2.1 right.2.2 &&
    (length == 0 || (left.1 == right.1 && (length == 1 || left.2.2 == right.2.2)))

/-- Equality of values that hold no other values. -/
def equalsPlain (left right : Value) : Bool :=
  match left.asInt?, right.asInt? with
  | some first, some second => first == second
  | some number, Option.none =>
      match right with
      | .float other => other.equalsInt number
      | _ => false
  | Option.none, some number =>
      match left with
      | .float other => other.equalsInt number
      | _ => false
  | Option.none, Option.none =>
      match left, right with
      | .none, .none => true
      | .unset, .unset => true
      | .float first, .float second => first.equals second
      | .str first, .str second => first == second
      | .bytes first, .bytes second => first == second
      | .bytes first, .bytearray second => first == second
      | .bytearray first, .bytes second => first == second
      | .bytearray first, .bytearray second => first == second
      | .range start stop step, .range start' stop' step' =>
          equalsRange (start, stop, step) (start', stop', step')
      | .styled plain _, .styled plain' _ => plain == plain'
      | _, _ => false

mutual

/-- Equality of values. -/
def equals : Value → Value → Bool
  | .list first, .list second => equalsItems first second
  | .tuple first, .tuple second => equalsItems first second
  | .dict first, .dict second =>
      first.length == second.length && includesEntries first second
  | .set first, .set second => first.length == second.length && includesItems first second
  | .set first, .frozenset second => first.length == second.length && includesItems first second
  | .frozenset first, .set second => first.length == second.length && includesItems first second
  | .frozenset first, .frozenset second =>
      first.length == second.length && includesItems first second
  | left, right => equalsPlain left right

/-- Equality of lists of values, position by position. -/
def equalsItems : List Value → List Value → Bool
  | [], [] => true
  | first :: rest, first' :: rest' => equals first first' && equalsItems rest rest'
  | _, _ => false

/-- Whether every value of the first list has an equal one in the second. -/
def includesItems : List Value → List Value → Bool
  | [], _ => true
  | first :: rest, items => items.any (fun item => equals first item) && includesItems rest items

/-- Whether every entry of the first dictionary has an equal one in the second. -/
def includesEntries : List (Value × Value) → List (Value × Value) → Bool
  | [], _ => true
  | (key, value) :: rest, entries =>
      entries.any (fun entry => equals key entry.1 && equals value entry.2) &&
        includesEntries rest entries

end

@[simp] theorem equals_str (left right : Text) :
    (str left).equals (.str right) = decide (left = right) := by
  rw [Bool.eq_iff_iff]
  simp [equals, equalsPlain, asInt?]

@[simp] theorem equals_int (left right : Int) :
    (int left).equals (.int right) = decide (left = right) := by
  rw [Bool.eq_iff_iff]
  simp [equals, equalsPlain, asInt?]

@[simp] theorem equals_bool (left right : Bool) :
    (bool left).equals (.bool right) = decide (left = right) := by
  cases left <;> cases right <;> simp [equals, equalsPlain, asInt?]

/-- A set holds equal values once, the first of them. -/
def distinct (items : List Value) : List Value :=
  items.foldl (fun kept item => if kept.any (equals item) then kept else kept ++ [item]) []

end Handbook.Value
