import Handbook.Layout.Panel

/-!
# Entries

An entry of a console stands in two columns: a label, and a message beside it.
The label takes the cells it needs and the message the rest of the page. A label
that leaves no room is broken itself, and then the message has one cell, or none
where it needs none.
-/

namespace Handbook.Layout

/-- Whether a character ends a line in the measure of a text. -/
def isLineEnd (character : Char) : Bool :=
  let code := character.toNat
  (0x0A ≤ code && code ≤ 0x0D) || (0x1C ≤ code && code ≤ 0x1E) ||
    code == 0x85 || code == 0x2028 || code == 0x2029

/-- Whether no line of a text takes a cell; `line` is the one at hand, in reverse. -/
def isNarrow (line : Text) : Text → Bool
  | [] => Text.cells line.reverse == 0
  | character :: rest =>
      if isLineEnd character then Text.cells line.reverse == 0 && isNarrow [] rest
      else isNarrow (character :: line) rest

/-- The widest label that leaves room for a message: one cell between them, one for the
message. -/
def labelWidth : Nat := pageWidth - 2

/-- The number of cells beside a label. -/
def messageWidth (label : Text) (message : StyledText) : Nat :=
  if Text.cells label ≤ labelWidth then pageWidth - 1 - Text.cells label
  else if isNarrow [] message.plain then 0
  else 1

/-- The rows of an entry; the column that ends first is left blank. -/
def rows (width : Nat) : List (List Text) → List (List Text) → List (List Text)
  | [], [] => []
  | label :: labels, [] => (label ++ [List.replicate width ' ']) :: rows width labels []
  | [], message :: messages => message :: rows width [] messages
  | label :: labels, message :: messages => (label ++ message) :: rows width labels messages

/-- The lines of an entry. -/
def entry (label : Text) (message : StyledText) : Except Error (List (List Text)) := do
  let leftWidth := min (Text.cells label) labelWidth
  let rightWidth := messageWidth label message
  let left ← breakLines .cutOff leftWidth { plain := label }
  let left ← left.mapM fun line => do
    let padded ← fitParts leftWidth (Line.parts line)
    fitParts (leftWidth + 1) (padded ++ [[' ']])
  let right ← if rightWidth = 0 then pure [] else breakLines .fold rightWidth message
  let right ← right.mapM fun line => do
    let fitted ← fitParts rightWidth (Line.parts (Line.fillUp rightWidth line))
    fitParts rightWidth fitted
  let missing := right.length - left.length
  let left := left ++ List.replicate missing [List.replicate (leftWidth + 1) ' ']
  return rows rightWidth left right

end Handbook.Layout
