import Handbook.Text.Quoted
import Handbook.Value.Basic

/-!
# Written values

Two texts of a value: the written form, in which every text inside is quoted, and
the displayed form, which differs from it only for a text, shown as it is.
-/

namespace Handbook.Value

/-- Written members between brackets, separated by a comma and a blank. -/
def enclosed (opening closing : Text) (members : List Text) : Text :=
  opening ++ List.intercalate [',', ' '] members ++ closing

/-- A written tuple; a single member is followed by a comma. -/
def enclosedTuple : List Text → Text
  | [single] => '(' :: single ++ [',', ')']
  | members => enclosed ['('] [')'] members

/-- A written range; a step of one is left out. -/
def writtenRange (start stop step : Int) : Text :=
  let ends := [Text.ofInt start, Text.ofInt stop]
  enclosed "range(" ")" (if step = 1 then ends else ends ++ [Text.ofInt step])

mutual

/-- The written form of a value. -/
def written : Value → Text
  | .none => "None"
  | .unset => "Unset"
  | .bool flag => if flag then "True" else "False"
  | .int number => Text.ofInt number
  | .float number => number.text
  | .str text => Text.quoted text
  | .list items => enclosed ['['] [']'] (writtenItems items)
  | .tuple items => enclosedTuple (writtenItems items)
  | .dict entries => enclosed ['\x7b'] ['\x7d'] (writtenEntries entries)
  | .set items =>
      if items.isEmpty then "set()"
      else enclosed ['\x7b'] ['\x7d'] (writtenItems items)
  | .frozenset items =>
      if items.isEmpty then "frozenset()"
      else enclosed "frozenset(\x7b" "\x7d)" (writtenItems items)
  | .bytes items => Text.quotedBytes items
  | .bytearray items => "bytearray(" ++ Text.quotedBuffer items ++ [')']
  | .range start stop step => writtenRange start stop step
  | .styled plain style =>
      "<text " ++ Text.quoted plain ++ " [] " ++ written style ++ ['>']

/-- The written forms of a list of values. -/
def writtenItems : List Value → List Text
  | [] => []
  | item :: rest => written item :: writtenItems rest

/-- The written forms of the entries of a dictionary. -/
def writtenEntries : List (Value × Value) → List Text
  | [] => []
  | (key, value) :: rest =>
      (written key ++ ':' :: ' ' :: written value) :: writtenEntries rest

end

/-- The displayed form of a value: texts as they are, all else written. -/
def displayed : Value → Text
  | .str text => text
  | .styled plain _ => plain
  | value => value.written

@[simp] theorem displayed_str (text : Text) : (Value.str text).displayed = text := rfl

end Handbook.Value
