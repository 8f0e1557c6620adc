import Handbook.Proofs.Text.Blank
import Mathlib.Algebra.Order.Floor.Div

/-!
# Fields of a fixed width

A text that is cut every so many characters falls into the pieces that it was put
together from, if all of them have that length. A padded field is read back by
leaving out the blanks at its end, if what was padded does not end with one.
-/

namespace Handbook.Text

variable {text : Text} {width : Nat} {pieces : List Text}

/-- The first pieces of a text, each as long as the width as far as the text goes. -/
def cuts (width : Nat) : Nat → Text → List Text
  | 0, _ => []
  | count + 1, text => text.take width :: cuts width count (text.drop width)

/-- A text cut every so many characters; its last piece may be shorter. -/
def cutEvery (width : Nat) (text : Text) : List Text :=
  cuts width (text.length ⌈/⌉ width) text

/-- What a padded field holds: the blanks at its end are left out. -/
def readField (field : Text) : Text :=
  field.rdropWhile (· = ' ')

theorem cuts_flatten (uniform : ∀ piece ∈ pieces, piece.length = width) :
    cuts width pieces.length pieces.flatten = pieces := by
  induction pieces with
  | nil => rfl
  | cons piece rest hypothesis =>
      obtain ⟨length, others⟩ := List.forall_mem_cons.mp uniform
      rw [List.length_cons, List.flatten_cons, cuts, List.take_left' length,
        List.drop_left' length, hypothesis others]

theorem length_flatten_of_uniform (uniform : ∀ piece ∈ pieces, piece.length = width) :
    pieces.flatten.length = width * pieces.length := by
  induction pieces with
  | nil => rfl
  | cons piece rest hypothesis =>
      obtain ⟨length, others⟩ := List.forall_mem_cons.mp uniform
      rw [List.flatten_cons, List.length_append, length, hypothesis others, List.length_cons,
        Nat.mul_succ, Nat.add_comm]

/-- Pieces of one length are what their text is cut into. -/
theorem cutEvery_flatten
    (positive : 0 < width)
    (uniform : ∀ piece ∈ pieces, piece.length = width) :
    cutEvery width pieces.flatten = pieces := by
  have count : pieces.flatten.length ⌈/⌉ width = pieces.length := by
    rw [length_flatten_of_uniform uniform]
    exact smul_ceilDiv positive pieces.length
  rw [cutEvery, count, cuts_flatten uniform]

/-- A field that does not end with a blank is read as it was before it was padded. -/
theorem readField_padRight
    (unpadded : text.getLast? ≠ some ' ')
    (width : Nat) :
    readField (padRight width text) = text := by
  have blanks : ∀ character ∈ List.replicate (width - text.length) ' ',
      decide (character = ' ') = true := by
    intro character member
    simpa using (List.mem_replicate.mp member).2
  have kept : text.rdropWhile (· = ' ') = text := by
    rw [List.rdropWhile_eq_self_iff]
    intro nonempty
    simpa [List.getLast?_eq_some_getLast nonempty] using unpadded
  calc
    readField (padRight width text) = text.rdropWhile (· = ' ') := by
      rw [readField, padRight, List.rdropWhile, List.reverse_append, List.reverse_replicate,
        List.dropWhile_append_of_pos blanks]
      rfl
    _ = text := kept

/-- A trimmed text does not end with a blank. -/
theorem getLast?_trim_ne (text : Text) : (trim text).getLast? ≠ some ' ' := by
  intro ended
  have nonempty : trim text ≠ [] := by
    intro empty
    simp [empty] at ended
  have last : (trim text).getLast nonempty = ' ' := by
    rwa [List.getLast?_eq_some_getLast nonempty, Option.some.injEq] at ended
  have solid := List.rdropWhile_last_not isBlank (trimLeft text) nonempty
  have blank : isBlank ' ' = true := by decide
  exact solid (last ▸ blank)

/-- A character that is no blank in front of a text keeps it from ending with one. -/
theorem getLast?_cons_ne
    {first : Char}
    (solid : first ≠ ' ')
    (unpadded : text.getLast? ≠ some ' ') :
    (first :: text).getLast? ≠ some ' ' := by
  cases text with
  | nil => simpa using solid
  | cons second rest => rwa [List.getLast?_cons_cons]

end Handbook.Text
