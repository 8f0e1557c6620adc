import Handbook.Decimal.Shortest

/-!
# Values

What a caller may hand in where nothing is known yet about its kind: the default
of an option, the message or the hint of a fault, a former symbol. A declaration
is checked once and then lives in precise types; values stay only where any value
is welcome.
-/

namespace Handbook

/-- A value of any kind. `unset` is the mark of an argument that was not given; it differs
from `none`, which a caller may well mean. -/
inductive Value
  | none
  | unset
  | bool (flag : Bool)
  | int (number : Int)
  | float (number : Binary64)
  | str (text : Text)
  | list (items : List Value)
  | tuple (items : List Value)
  | dict (entries : List (Value × Value))
  | set (items : List Value)
  | frozenset (items : List Value)
  | bytes (items : List UInt8)
  | bytearray (items : List UInt8)
  | range (start stop step : Int)
  | styled (plain : Text) (style : Value)
  deriving Inhabited

namespace Value

/-- The name of a value's kind, as error texts give it. -/
def kind : Value → Text
  | .none => "NoneType"
  | .unset => "UnsetType"
  | .bool _ => "bool"
  | .int _ => "int"
  | .float _ => "float"
  | .str _ => "str"
  | .list _ => "list"
  | .tuple _ => "tuple"
  | .dict _ => "dict"
  | .set _ => "set"
  | .frozenset _ => "frozenset"
  | .bytes _ => "bytes"
  | .bytearray _ => "bytearray"
  | .range .. => "range"
  | .styled .. => "Text"

/-- The number of integers in a range; a range without a step holds none. -/
def rangeLength (start stop step : Int) : Nat :=
  if 0 < step then ((stop - start + step - 1) / step).toNat
  else if step < 0 then ((start - stop - step - 1) / -step).toNat
  else 0

/-- The integers of a range, in order. -/
def rangeItems (start stop step : Int) : List Int :=
  (List.range (rangeLength start stop step)).map fun (index : Nat) => start + step * (index : Int)

/-- Whether a value counts as true: all do but `none`, `unset`, `false`, the zeros and what
is empty. -/
def truthy : Value → Bool
  | .none => false
  | .unset => false
  | .bool flag => flag
  | .int number => number != 0
  | .float number => !number.isZero
  | .str text => !text.isEmpty
  | .list items => !items.isEmpty
  | .tuple items => !items.isEmpty
  | .dict entries => !entries.isEmpty
  | .set items => !items.isEmpty
  | .frozenset items => !items.isEmpty
  | .bytes items => !items.isEmpty
  | .bytearray items => !items.isEmpty
  | .range start stop step => rangeLength start stop step != 0
  | .styled plain _ => !plain.isEmpty

@[simp] theorem truthy_bool (flag : Bool) : (bool flag).truthy = flag := rfl

@[simp] theorem truthy_str (text : Text) : (str text).truthy = !text.isEmpty := rfl

/-- Whether a value is the mark of an argument that was not given. -/
def isUnset : Value → Bool
  | .unset => true
  | _ => false

/-- Only the mark itself is unset. -/
theorem isUnset_iff {value : Value} : value.isUnset = true ↔ value = .unset := by
  cases value <;> simp [isUnset]

/-- The value, or a default where none was given. Whatever else counts as false is kept. -/
def orElse (value default : Value) : Value :=
  if value.isUnset then default else value

/-- The text of a text value. -/
def text? : Value → Option Text
  | .str text => some text
  | _ => Option.none

/-- The number of an integer value; a truth value is none. -/
def int? : Value → Option Int
  | .int number => some number
  | _ => Option.none

/-- The entries of a dictionary that have a text for their key, by these texts. -/
def fields : Value → List (Text × Value)
  | .dict entries => entries.filterMap fun entry => entry.1.text?.map (·, entry.2)
  | _ => []

/-- What a value yields when it is gone through, item by item; a single value yields nothing
at all. -/
def members? : Value → Option (List Value)
  | .str text => some (text.map fun character => .str [character])
  | .list items => some items
  | .tuple items => some items
  | .dict entries => some (entries.map Prod.fst)
  | .set items => some items
  | .frozenset items => some items
  | .bytes items => some (items.map fun byte => .int byte.toNat)
  | .bytearray items => some (items.map fun byte => .int byte.toNat)
  | .range start stop step => some ((rangeItems start stop step).map .int)
  | .styled plain _ => some (plain.map fun character => .styled [character] (.str []))
  | _ => Option.none

/-- Whether a value can be gone through, item by item. -/
def isIterable : Value → Bool
  | .none => false
  | .unset => false
  | .bool _ => false
  | .int _ => false
  | .float _ => false
  | _ => true

/-- Whether the members of a value have places by which they can be asked for. -/
def hasPlaces : Value → Bool
  | .dict _ => false
  | .set _ => false
  | .frozenset _ => false
  | value => value.isIterable

/-- The kind of the part of a value that keeps it from being a key or a member of a set, if
there is one: whatever can change in place cannot be a key. -/
def unhashableKind? : Value → Option Text
  | .tuple items => unhashableItem? items
  | .list _ => some "list"
  | .dict _ => some "dict"
  | .set _ => some "set"
  | .bytearray _ => some "bytearray"
  | .styled .. => some "Text"
  | _ => Option.none
where
  /-- The first part of a list of values that cannot be a key. -/
  unhashableItem? : List Value → Option Text
    | [] => Option.none
    | item :: rest =>
        match unhashableKind? item with
        | some kind => some kind
        | Option.none => unhashableItem? rest

end Value
end Handbook
