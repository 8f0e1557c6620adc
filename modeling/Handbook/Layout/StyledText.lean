import Handbook.Error

/-!
# Styled text

A text together with a style for all of it and styles for parts of it. Styles
are names or descriptions of a look; they never change which characters are
written, but a text whose style is no text cannot be written. Five control
characters that would move a cursor are dropped from every styled text.
-/

namespace Handbook

/-- A part of a text, from one character up to another, in a style. -/
structure Span where
  start : Nat
  stop : Nat
  style : Value

/-- A text, its style, and the styles of its parts. -/
structure StyledText where
  plain : Text
  style : Value := .str []
  spans : List Span := []

namespace StyledText

/-- Bell, backspace, vertical tab, form feed and carriage return. -/
def isStripped (character : Char) : Bool :=
  let code := character.toNat
  code == 0x07 || code == 0x08 || code == 0x0B || code == 0x0C || code == 0x0D

/-- A text without the control characters that are dropped. -/
def strip (text : Text) : Text :=
  text.filter fun character => !isStripped character

/-- A styled text of given characters and style. -/
def ofText (text : Text) (style : Value := .str []) : StyledText :=
  { plain := strip text, style }

/-- One styled text after another: the style of the second becomes a span, unless it does not
count or covers nothing. -/
def append (left right : StyledText) : StyledText :=
  if right.plain.isEmpty then left
  else
    let offset := left.plain.length
    let whole :=
      if right.style.truthy then [⟨offset, offset + right.plain.length, right.style⟩]
      else []
    let moved := right.spans.map fun span =>
      ⟨span.start + offset, span.stop + offset, span.style⟩
    { left with
      plain := left.plain ++ right.plain
      spans := left.spans ++ whole ++ moved }

/-- Several styled texts, one after another. -/
def assemble (parts : List StyledText) : StyledText :=
  parts.foldl append { plain := [] }

@[simp] theorem plain_append (left right : StyledText) :
    (left.append right).plain = left.plain ++ right.plain := by
  unfold append
  split
  · next empty => simp_all
  · rfl

/-- The characters of an assembled text do not depend on any style. -/
theorem plain_assemble (parts : List StyledText) :
    (assemble parts).plain = (parts.map plain).flatten := by
  have general : ∀ (first : StyledText),
      (parts.foldl append first).plain = first.plain ++ (parts.map plain).flatten := by
    induction parts with
    | nil => simp
    | cons part rest hypothesis =>
        intro first
        simp [hypothesis]
  simpa [assemble] using general { plain := [] }

end StyledText
end Handbook
