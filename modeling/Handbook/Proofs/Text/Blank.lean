import Handbook.Text.Blank
import Mathlib.Data.List.DropRight

/-!
# Trimmed texts

A trimmed text begins with no blank, and has no characters but those of the text.
Trimming keeps exactly the texts that have no blank at their ends.
-/

namespace Handbook.Text

theorem trimRight_eq_rdropWhile (text : Text) : trimRight text = text.rdropWhile isBlank := rfl

/-- What is left of a text by trimming its end is a beginning of it. -/
theorem trimRight_prefix (text : Text) : trimRight text <+: text := by
  rw [trimRight_eq_rdropWhile]
  exact List.rdropWhile_prefix isBlank text

theorem isBlank_of_trimLeft_eq_cons
    {text rest : Text}
    {first : Char}
    (trimmed : trimLeft text = first :: rest) :
    isBlank first = false := by
  have head := List.head?_dropWhile_not isBlank text
  unfold trimLeft at trimmed
  simpa [trimmed] using head

/-- The first character of a trimmed text is no blank. -/
theorem isBlank_of_trim_eq_cons
    {text rest : Text}
    {first : Char}
    (trimmed : trim text = first :: rest) :
    isBlank first = false := by
  obtain ⟨behind, whole⟩ := trimRight_prefix (trimLeft text)
  have trimmedRight : trimRight (trimLeft text) = first :: rest := trimmed
  rw [trimmedRight, List.cons_append] at whole
  exact isBlank_of_trimLeft_eq_cons whole.symm

/-- What is left of a text by trimming it are characters of its own. -/
theorem trim_subset (text : Text) : trim text ⊆ text := by
  have front := trimRight_prefix (trimLeft text)
  exact List.Subset.trans front.subset (List.dropWhile_subset isBlank)

/-- Trimming leaves every character of a text that is no blank. -/
theorem mem_trim_iff {character : Char} (visible : isBlank character = false) (text : Text) :
    character ∈ trim text ↔ character ∈ text := by
  have kept (other : Text) : character ∈ other.dropWhile isBlank ↔ character ∈ other := by
    constructor
    · exact fun member => (List.dropWhile_suffix isBlank).subset member
    · intro member
      rw [← List.takeWhile_append_dropWhile (p := isBlank) (l := other), List.mem_append] at member
      refine member.resolve_left fun front => ?_
      have blank := List.mem_takeWhile_imp front
      simp [visible] at blank
  rw [trim, trimRight, List.mem_reverse, kept, List.mem_reverse, trimLeft, kept]

/-- The blanks behind a text end at its last character that is none. -/
theorem trimRight_append_cons
    {last : Char}
    (solid : isBlank last = false)
    (front rest : Text) :
    trimRight (front ++ last :: rest) = front ++ last :: trimRight rest := by
  unfold trimRight
  rw [List.reverse_append, List.reverse_cons, List.append_assoc, List.dropWhile_append]
  split
  · next blanks => simp [List.isEmpty_iff.mp blanks, solid]
  · simp

/-- A text between two characters that are no blanks is kept where a longer text is trimmed. -/
theorem trim_blank_cons
    {first last : Char}
    (firstSolid : isBlank first = false)
    (lastSolid : isBlank last = false)
    (middle rest : Text) :
    trim (' ' :: first :: middle ++ last :: rest) =
      first :: middle ++ last :: trimRight rest := by
  have front : trimLeft (' ' :: first :: middle ++ last :: rest) =
      first :: middle ++ last :: rest := by
    have blank : isBlank ' ' = true := by decide
    simp [trimLeft, blank, firstSolid]
  rw [trim, front, trimRight_append_cons lastSolid]

theorem trim_cons_blank (text : Text) : trim (' ' :: text) = trim text := by
  have blank : isBlank ' ' = true := by decide
  rw [trim, trimLeft, List.dropWhile_cons_of_pos blank]
  rfl

/-- A text that begins and ends with characters that are no blanks. -/
structure Solid (text : Text) : Prop where
  opens : ∃ first, text.head? = some first ∧ isBlank first = false
  closes : ∃ last, text.getLast? = some last ∧ isBlank last = false

/-- Whatever stands between two texts, the ends of the whole are theirs. -/
theorem solid_append
    {front rest : Text}
    {first last : Char}
    (opens : front.head? = some first)
    (closes : rest.getLast? = some last)
    (firstSolid : isBlank first = false)
    (lastSolid : isBlank last = false)
    (middle : Text) :
    Solid (front ++ middle ++ rest) := by
  constructor
  · exact ⟨first, by simp [opens], firstSolid⟩
  · exact ⟨last, by simp [closes], lastSolid⟩

/-- Nothing is trimmed from a text without blanks at its ends. -/
theorem Solid.trim_eq {text : Text} (solid : Solid text) : trim text = text := by
  obtain ⟨⟨first, opens, firstSolid⟩, last, closes, lastSolid⟩ := solid
  obtain ⟨rest, rfl⟩ := List.head?_eq_some_iff.mp opens
  have front : trimLeft (first :: rest) = first :: rest := by simp [trimLeft, firstSolid]
  rw [trim, front, trimRight_eq_rdropWhile, List.rdropWhile_eq_self_iff]
  intro nonempty
  rw [List.getLast?_eq_some_getLast nonempty, Option.some.injEq] at closes
  simp [closes, lastSolid]

theorem Solid.first_ne_blank
    {first : Char}
    {rest : Text}
    (solid : Solid (first :: rest)) :
    first ≠ ' ' := by
  rintro rfl
  obtain ⟨_, opens, visible⟩ := solid.opens
  rw [List.head?_cons, Option.some.injEq] at opens
  exact absurd (opens ▸ visible) (by decide)

/-- What is left of a text by trimming it has no blanks at its ends. -/
theorem solid_trim {text : Text} (nonempty : trim text ≠ []) : Solid (trim text) := by
  constructor
  · obtain ⟨first, rest, trimmed⟩ := List.exists_cons_of_ne_nil nonempty
    exact ⟨first, by rw [trimmed]; rfl, isBlank_of_trim_eq_cons trimmed⟩
  · refine ⟨(trim text).getLast nonempty, List.getLast?_eq_some_getLast nonempty, ?_⟩
    exact Bool.eq_false_iff.mpr (List.rdropWhile_last_not isBlank (trimLeft text) nonempty)

/-- Nothing is trimmed from a trimmed text. -/
@[simp] theorem trim_trim (text : Text) : trim (trim text) = trim text := by
  by_cases empty : trim text = []
  · rw [empty, trim_nil]
  · exact (solid_trim empty).trim_eq

end Handbook.Text
