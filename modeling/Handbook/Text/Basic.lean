/-!
# Text

A text is the list of its characters, so that lengths, paddings and cuts count
code points and every law is a law of lists. This module holds the padding,
cutting and number forms that the layouts share.
-/

namespace Handbook

/-- A text, character by character. -/
abbrev Text := List Char

/-- A literal stands for the text of its characters. -/
instance : Coe String Text := ⟨String.toList⟩

namespace Text

/-- The text followed by as many blanks as the width still holds. -/
def padRight (width : Nat) (text : Text) : Text :=
  text ++ List.replicate (width - text.length) ' '

@[simp] theorem length_padRight (width : Nat) (text : Text) :
    (padRight width text).length = max text.length width := by
  simp [padRight]
  omega

theorem padRight_of_le {width : Nat} {text : Text} (full : width ≤ text.length) :
    padRight width text = text := by
  simp [padRight, Nat.sub_eq_zero_of_le full]

/-- The pieces of a text between the occurrences of a separator, empty ones included. -/
def pieces (separator : Char) : Text → List Text
  | [] => [[]]
  | first :: rest =>
      if first = separator then
        [] :: pieces separator rest
      else
        match pieces separator rest with
        | [] => [[first]]
        | piece :: others => (first :: piece) :: others

@[simp] theorem pieces_nil (separator : Char) : pieces separator [] = [[]] := rfl

theorem pieces_ne_nil (separator : Char) (text : Text) : pieces separator text ≠ [] := by
  cases text with
  | nil => simp
  | cons first rest =>
      unfold pieces
      split
      · simp
      · split <;> simp

/-- The pieces of a text that is cut at a separator are those of its two parts. -/
theorem pieces_append_separator (separator : Char) (left right : Text) :
    pieces separator (left ++ separator :: right) =
      pieces separator left ++ pieces separator right := by
  induction left with
  | nil => simp [pieces]
  | cons first rest hypothesis =>
      by_cases equal : first = separator
      · simp [pieces, equal, hypothesis]
      · obtain ⟨piece, others, split⟩ :=
          List.exists_cons_of_ne_nil (pieces_ne_nil separator rest)
        simp [pieces, equal, hypothesis, split]

/-- No text is lost: the pieces joined by the separator are the text. -/
theorem intercalate_pieces (separator : Char) (text : Text) :
    [separator].intercalate (pieces separator text) = text := by
  induction text with
  | nil => rfl
  | cons first rest hypothesis =>
      unfold pieces
      have nonempty := pieces_ne_nil separator rest
      split
      · next equal =>
          cases split : pieces separator rest with
          | nil => exact absurd split nonempty
          | cons piece others =>
              rw [split] at hypothesis
              simp [List.intercalate, List.intersperse, equal] at hypothesis ⊢
              exact hypothesis
      · cases split : pieces separator rest with
        | nil => exact absurd split nonempty
        | cons piece others =>
            rw [split] at hypothesis
            cases others <;>
              simp_all [List.intercalate, List.intersperse]

/-- A natural number in decimal digits. -/
def ofNat (number : Nat) : Text :=
  Nat.toDigits 10 number

/-- An integer in decimal digits, with a minus sign below zero. -/
def ofInt : Int → Text
  | .ofNat number => ofNat number
  | .negSucc number => '-' :: ofNat (number + 1)

/-- The lowest hexadecimal digits of a number, as many as asked for. -/
def hexDigits (count number : Nat) : Text :=
  match count with
  | 0 => []
  | count + 1 => hexDigits count (number / 16) ++ [Nat.digitChar (number % 16)]

/-- Membership in a list of closed ranges of code points. -/
def inRanges (ranges : Array (Nat × Nat)) (code : Nat) : Bool :=
  ranges.any fun range => range.1 ≤ code && code ≤ range.2

end Text
end Handbook
