import Handbook.Error

/-!
# The kind of the unset mark in unions

A kind may be joined with the kind of the unset mark, so that a check accepts
both. Only another kind, `none`, or the mark itself can be joined.
-/

namespace Handbook.Value

/-- The side of a union on which a value stands. -/
inductive Side
  | left
  | right
  deriving DecidableEq, Repr

/-- What a union of a value with the unset mark is, the value standing on the given side. -/
def uniteWithUnset (side : Side) (value : Value) : Except Error Text :=
  match value with
  | .unset => .ok "type"
  | .none => .ok "UnionType"
  | other =>
      match side with
      | .left => .error (.notCombinable "|" other.kind (kind .unset))
      | .right => .error (.notCombinable "|" (kind .unset) other.kind)

/-- Whether a value is a text or the unset mark. -/
def isTextOrUnset (value : Value) : Bool :=
  value.text?.isSome || value.isUnset

/-- Whether a value is the unset mark or an integer, truth values among them. -/
def isUnsetOrInt : Value → Bool
  | .unset => true
  | .bool _ => true
  | .int _ => true
  | _ => false

end Handbook.Value
