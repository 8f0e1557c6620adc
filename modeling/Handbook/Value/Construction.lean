import Handbook.Error
import Handbook.Layout.StyledText
import Handbook.Value.Placement

/-!
# The construction of values

Some values cannot be made of any parts: the members of a set must be fit for
keys, a byte is a number below 256, a range needs a step, and a styled text
drops what would move a cursor. A set has an order of its own.
-/

namespace Handbook.Value

/-- The whole number that a value is; a truth value counts as one. -/
def wholeNumber (value : Value) : Except Error Int :=
  match value.asInt? with
  | some number => .ok number
  | Option.none => .error (.notInteger value.kind)

/-- The value, if it is fit for a member of a set. -/
def asMember (value : Value) : Except Error Value :=
  match value.unhashableKind? with
  | some kind => .error (.unhashable kind)
  | Option.none => .ok value

/-- The members of a set, each once. -/
def membersOf (items : List Value) : Except Error (List Value) :=
  match unhashableKind?.unhashableItem? items with
  | some kind => .error (.unhashable kind)
  | Option.none => .ok (placed (distinct items))

/-- A set of the given members. -/
def setOf (items : List Value) : Except Error Value :=
  (membersOf items).map .set

/-- A set of the given members that cannot change. -/
def frozensetOf (items : List Value) : Except Error Value :=
  (membersOf items).map .frozenset

/-- The byte that a value is, or an error for a number that is none. -/
def byteOf (error : Error) (value : Value) : Except Error UInt8 := do
  let number ← value.wholeNumber
  if 0 ≤ number && number < 256 then return UInt8.ofNat number.toNat
  else throw error

/-- The numbers of which bytes are made: a whole number stands for as many zeros, and a text for
none. -/
def byteItems (goal : Text) (given : Value) : Except Error (List Value) :=
  match given.asInt?, given with
  | some number, _ =>
      if number < 0 then .error .lengthNegative
      else if 0x7FFFFFFFFFFFFFFF < number then .error .lengthTooLarge
      else .ok (List.replicate number.toNat (.int 0))
  | Option.none, .str _ => .error .encodingMissing
  | Option.none, other =>
      match other.members? with
      | some items => .ok items
      | Option.none => .error (.notConvertible other.kind goal)

/-- A byte string of the given bytes. -/
def bytesOf (given : Value) : Except Error Value := do
  let items ← byteItems "bytes" given
  (items.mapM (byteOf .byteOutOfRange)).map .bytes

/-- A byte array of the given bytes. -/
def bytearrayOf (given : Value) : Except Error Value := do
  let items ← byteItems "bytearray" given
  (items.mapM (byteOf .bufferByteOutOfRange)).map .bytearray

/-- The arguments that a value is spread into. -/
def spread (given : Value) : Except Error (List Value) :=
  match given.members? with
  | some arguments => .ok arguments
  | Option.none => .error (.rangeNotSpread given.kind)

/-- A range of the given ends and step; a single end is where it stops. -/
def rangeOf (given : Value) : Except Error Value := do
  let arguments ← given.spread
  match arguments with
  | [stop] => return .range 0 (← stop.wholeNumber) 1
  | [start, stop] => return .range (← start.wholeNumber) (← stop.wholeNumber) 1
  | [start, stop, step] =>
      let first ← start.wholeNumber
      let last ← stop.wholeNumber
      match ← step.wholeNumber with
      | 0 => throw .rangeStepZero
      | nonzero => return .range first last nonzero
  | _ => throw (.rangeArity arguments.length)

/-- A styled text of the given characters. Only a text can be stripped for it; bytes are stripped
of other bytes. -/
def styledOf (plain style : Value) : Except Error Value :=
  match plain with
  | .str characters => .ok (.styled (StyledText.strip characters) style)
  | .bytes _ | .bytearray _ => .error (.bytesDue "dict")
  | other => .error (.noAttribute other.kind "translate")

end Handbook.Value
