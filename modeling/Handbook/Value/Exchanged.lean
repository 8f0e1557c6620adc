import Handbook.Error

/-!
# Values for data exchange

The form in which a value leaves the program for another one. Texts, numbers, truth
values and the absence of a value have one, and lists, tuples and dictionaries of such.
A key is always exchanged as a text; that of a number or a truth value is what it would
be as a value.
-/

namespace Handbook.Value

/-- The exchanged form of what is neither a text nor made of other values, if it has one. -/
def exchangedPlain? : Value → Option Text
  | .none => some "null"
  | .bool flag => some (if flag then "true" else "false")
  | .int number => some (Text.ofInt number)
  | .float number =>
      some (if number.isNaN then "NaN"
        else if number.isSpecial then (if number.isNegative then "-Infinity" else "Infinity")
        else number.text)
  | _ => Option.none

/-- The exchanged form of a key. -/
def exchangedKey (key : Value) : Except Error Text :=
  match key, key.exchangedPlain? with
  | .str text, _ => .ok (Text.exchanged text)
  | _, some plain => .ok ('"' :: plain ++ ['"'])
  | other, Option.none => .error (.keyNotExchangeable other.kind)

mutual

/-- The exchanged form of a value, or an error for its first part that has none. -/
def exchanged : Value → Except Error Text
  | .str text => .ok (Text.exchanged text)
  | .list items => (exchangedItems items).map (enclosed ['['] [']'])
  | .tuple items => (exchangedItems items).map (enclosed ['['] [']'])
  | .dict entries => (exchangedEntries entries).map (enclosed ['\x7b'] ['\x7d'])
  | value =>
      match value.exchangedPlain? with
      | some plain => .ok plain
      | Option.none => .error (.notExchangeable value.kind)

/-- The exchanged forms of a list of values. -/
def exchangedItems : List Value → Except Error (List Text)
  | [] => .ok []
  | item :: rest => do
      let first ← exchanged item
      let others ← exchangedItems rest
      return first :: others

/-- The exchanged forms of the entries of a dictionary. -/
def exchangedEntries : List (Value × Value) → Except Error (List Text)
  | [] => .ok []
  | (key, value) :: rest => do
      let name ← exchangedKey key
      let first ← exchanged value
      let others ← exchangedEntries rest
      return (name ++ ':' :: ' ' :: first) :: others

end

end Handbook.Value
