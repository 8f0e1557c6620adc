import Handbook.Decimal.Whole
import Handbook.Error
import Handbook.Text.Column
import Handbook.Value.Equality

/-!
# Values in columns

A column is filled with texts, but any value may be handed in for one. A value
whose words cannot be told apart, or set side by side, has no lines; one that
cannot be padded has no place in a field; one that is no text cannot be joined.
-/

namespace Handbook.Value

/-- The words of a styled text as lines of their own; two of them cannot be set side by side. -/
def styledLines (plain : Text) (style : Value) (width : Nat) : Except Error (List Value) :=
  let words := Text.words plain
  if Text.columnize plain width = words then .ok (words.map fun word => .styled word style)
  else .error (.notAttachable (kind (.styled plain style)))

/-- The lines of a value in a column of at least two characters. -/
def lines (width : Nat) : Value → Except Error (List Value)
  | .str text => .ok ((Text.columnize text width).map .str)
  | .styled plain style => styledLines plain style width
  | .bytes _ => .error (.bytesDue "str")
  | .bytearray _ => .error (.bytesDue "str")
  | other => .error (.noAttribute other.kind "split")

@[simp] theorem lines_str (width : Nat) (text : Text) :
    lines width (.str text) = .ok ((Text.columnize text width).map .str) := rfl

/-- The width that a value is for a text: the least whole one that is not below it, and one that
holds the text on a single line where there is no such number. -/
def columnWidth (text width : Value) : Except Error Nat :=
  match width with
  | .float number =>
      let unbounded : Int :=
        if number.isNaN then 2
        else if number.isNegative then 0
        else text.displayed.length + 2
      .ok (number.ceiling?.getD unbounded).toNat
  | other =>
      match other.asInt? with
      | some whole => .ok whole.toNat
      | Option.none => .error (.notComparable "<=" other.kind (kind (.int 0)))

/-- The lines of a value in a column of any width; a column of width one or none holds no line
of whatever there is. -/
def columnize (text width : Value) : Except Error (List Value) := do
  let whole ← columnWidth text width
  if whole ≤ 1 then return [] else text.lines whole

/-- The text of a value in a field of the given width. A truth value is shown as its number. -/
def padded (width : Nat) : Value → Except Error Text
  | .str text => .ok (Text.padRight width text)
  | .bool flag => .ok (Text.padRight width (Text.ofNat flag.toNat))
  | .int number => .ok (Text.padRight width (Text.ofInt number))
  | .float number => .ok (Text.padRight width number.text)
  | other => .error (.notPaddable other.kind)

@[simp] theorem padded_str (width : Nat) (text : Text) :
    padded width (.str text) = .ok (Text.padRight width text) := rfl

/-- The texts of values that must all be texts, the first one at the given place. -/
def textsFrom (place : Nat) : List Value → Except Error (List Text)
  | [] => .ok []
  | .str text :: rest => (textsFrom (place + 1) rest).map (text :: ·)
  | other :: _ => .error (.notJoinable place other.kind)

/-- The values joined to one text, with a separator between neighbours. -/
def joined (separator : Text) (values : List Value) : Except Error Text :=
  (textsFrom 0 values).map separator.intercalate

@[simp] theorem textsFrom_str (place : Nat) (texts : List Text) :
    textsFrom place (texts.map .str) = .ok texts := by
  induction texts generalizing place with
  | nil => rfl
  | cons text rest hypothesis => simp [textsFrom, hypothesis, Except.map]

/-- Texts can always be joined. -/
@[simp] theorem joined_str (separator : Text) (texts : List Text) :
    joined separator (texts.map .str) = .ok (separator.intercalate texts) := by
  simp [joined, Except.map]

end Handbook.Value
