import Handbook.Text.Basic

/-!
# Columns

Greedy filling of a column: words are set side by side while the line they join
stays narrower than the column, the joining blank not counted. A word wider than
the column stands alone on its line and is never cut. Only the blank character
separates words; tabs and line feeds belong to the word they touch.
-/

namespace Handbook.Text

/-- The maximal runs of characters other than the blank, in order. -/
def words (text : Text) : List Text :=
  (pieces ' ' text).filter fun piece => !piece.isEmpty

@[simp] theorem words_nil : words [] = [] := rfl

/-- A blank ends a word: the words on its two sides are the words of the text. -/
theorem words_append_blank (left right : Text) :
    words (left ++ ' ' :: right) = words left ++ words right := by
  simp [words, pieces_append_separator]

theorem ne_nil_of_mem_words
    {word text : Text}
    (member : word ∈ words text) :
    word ≠ [] := by
  simp only [words, List.mem_filter, Bool.not_eq_true', List.isEmpty_eq_false_iff] at member
  exact member.2

/-- Words set side by side with one blank between neighbours. -/
def joinWords (line : List Text) : Text :=
  [' '].intercalate line

@[simp] theorem joinWords_nil : joinWords [] = [] := rfl

@[simp] theorem joinWords_singleton (word : Text) : joinWords [word] = word := by
  simp [joinWords, List.intercalate]

@[simp] theorem joinWords_cons_cons (first second : Text) (others : List Text) :
    joinWords (first :: second :: others) =
      first ++ ' ' :: joinWords (second :: others) := by
  simp [joinWords, List.intercalate, List.intersperse]

/-- The lines still to come while `line` is open. -/
def fill (width : Nat) (line : Text) : List Text → List Text
  | [] => [line]
  | word :: rest =>
      if word.length + line.length < width then
        fill width (line ++ ' ' :: word) rest
      else
        line :: fill width word rest

@[simp] theorem fill_nil (width : Nat) (line : Text) : fill width line [] = [line] := rfl

theorem fill_cons (width : Nat) (line word : Text) (rest : List Text) :
    fill width line (word :: rest) =
      if word.length + line.length < width then
        fill width (line ++ ' ' :: word) rest
      else
        line :: fill width word rest := rfl

/-- The lines of a text in a column; a column of width one or none holds no line. -/
def columnize (text : Text) (width : Nat) : List Text :=
  if width ≤ 1 then
    []
  else
    match words text with
    | [] => []
    | word :: rest => fill width word rest

theorem columnize_of_le_one {width : Nat} (narrow : width ≤ 1) (text : Text) :
    columnize text width = [] := by
  simp [columnize, narrow]

theorem columnize_of_words_nil {text : Text} (empty : words text = []) (width : Nat) :
    columnize text width = [] := by
  simp [columnize, empty]

theorem columnize_of_words_cons
    {text word : Text}
    {rest : List Text}
    {width : Nat}
    (wide : 1 < width)
    (split : words text = word :: rest) :
    columnize text width = fill width word rest := by
  simp [columnize, split, Nat.not_le.mpr wide]

end Handbook.Text
