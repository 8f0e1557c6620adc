import Handbook.Proofs.Sheet.Sections

/-!
# The widths of a page

A row has a column for its name, a blank, and a column for its description, which
together are as wide as a paragraph. A line of a page is empty, or a header, or
exactly that wide, unless it holds something that fits no column: a single long
word, or a long name at the front of its row.
-/

namespace Handbook
namespace Sheet

variable {sheet : Sheet} {line : Text}

/-- A line that holds more than its column does: a word of the usage line or of the description
alone in its line, a word of a table alone in its row, or the name of a parameter. -/
inductive Overflows (sheet : Sheet) : Text → Prop
  | usage
      {usage word : Text}
      (sentence : sheet.usageSentence = .ok usage)
      (member : word ∈ Text.columnize usage paragraphWidth)
      (single : Text.IsWord word)
      (wide : paragraphWidth < word.length) :
      Overflows sheet word
  | information
      {word : Text}
      (member : word ∈ Text.columnize sheet.informationSentence paragraphWidth)
      (single : Text.IsWord word)
      (wide : paragraphWidth < word.length) :
      Overflows sheet word
  | fragment
      {parameter : Parameter}
      {fields : Text × Text}
      (member : parameter ∈ sheet.parameters)
      (row : fields ∈ parameterFields parameter)
      (single : Text.IsWord fields.2)
      (wide : descriptionWidth < fields.2.length) :
      Overflows sheet (rowLine fields)
  | name
      {parameter : Parameter}
      {fields : Text × Text}
      (member : parameter ∈ sheet.parameters)
      (row : fields ∈ parameterFields parameter)
      (wide : nameWidth < fields.1.length) :
      Overflows sheet (rowLine fields)

/-- The columns of a row and the blank between them are as wide as a paragraph. -/
theorem nameWidth_add_descriptionWidth : nameWidth + 1 + descriptionWidth = paragraphWidth := rfl

theorem paragraphWidth_le_length_rowLine (fields : Text × Text) :
    paragraphWidth ≤ (rowLine fields).length := by
  have columns := nameWidth_add_descriptionWidth
  rw [length_rowLine]
  omega

/-- A row is wider than a paragraph when one of its fields is wider than its column. -/
theorem paragraphWidth_lt_length_rowLine_iff (fields : Text × Text) :
    paragraphWidth < (rowLine fields).length ↔
      descriptionWidth < fields.2.length ∨ nameWidth < fields.1.length := by
  have columns := nameWidth_add_descriptionWidth
  rw [length_rowLine]
  omega

/-- Whatever overflows is wider than a paragraph. -/
theorem Overflows.lt_length (overflows : Overflows sheet line) :
    paragraphWidth < line.length := by
  cases overflows with
  | usage _ _ _ wide => exact wide
  | information _ _ wide => exact wide
  | fragment _ _ _ wide => exact (paragraphWidth_lt_length_rowLine_iff _).mpr (Or.inl wide)
  | name _ _ wide => exact (paragraphWidth_lt_length_rowLine_iff _).mpr (Or.inr wide)

/-- A line of a paragraph is a single long word or exactly as wide as the paragraph. -/
theorem wide_or_length_padRight
    {text : Text}
    (member : line ∈ Text.columnize text paragraphWidth) :
    (Text.IsWord line ∧ paragraphWidth < line.length ∧ Text.padRight paragraphWidth line = line) ∨
      (Text.padRight paragraphWidth line).length = paragraphWidth := by
  rcases Nat.lt_or_ge paragraphWidth line.length with wide | narrow
  · rcases Text.isWord_or_length_le member with single | fits
    · exact Or.inl ⟨single, wide, Text.padRight_of_le (Nat.le_of_lt wide)⟩
    · exact absurd fits (Nat.not_le.mpr wide)
  · right
    rw [Text.length_padRight, max_eq_right narrow]

/-- A line of a page overflows, or is a header, or is exactly as wide as a paragraph. -/
theorem PageLine.overflows_or_length
    (pageLine : PageLine sheet line)
    (textual : ∀ parameter ∈ sheet.parameters, parameter.Textual) :
    Overflows sheet line ∨ line = Sheet.namedHeader ∨ line = Sheet.positionalHeader ∨
      line.length = paragraphWidth := by
  cases pageLine with
  | usage member =>
      rcases wide_or_length_padRight member with ⟨single, wide, unpadded⟩ | fits
      · rw [unpadded]
        exact Or.inl (.usage (usageSentence_eq textual) member single wide)
      · exact Or.inr (Or.inr (Or.inr fits))
  | information member =>
      rcases wide_or_length_padRight member with ⟨single, wide, unpadded⟩ | fits
      · rw [unpadded]
        exact Or.inl (.information member single wide)
      · exact Or.inr (Or.inr (Or.inr fits))
  | namedHeader => exact Or.inr (Or.inl rfl)
  | positionalHeader => exact Or.inr (Or.inr (Or.inl rfl))
  | @row parameter fields member row =>
      rcases Nat.lt_or_ge paragraphWidth (rowLine fields).length with wide | narrow
      · left
        rcases (paragraphWidth_lt_length_rowLine_iff fields).mp wide with fragment | name
        · rcases Text.isWord_or_length_le (mem_rowFields row).2 with single | fits
          · exact .fragment member row single fragment
          · exact absurd fits (Nat.not_le.mpr fragment)
        · exact .name member row name
      · exact Or.inr (Or.inr (Or.inr
          (Nat.le_antisymm narrow (paragraphWidth_le_length_rowLine fields))))

/-- Each line of the page of a sheet with unbroken texts is empty, or a header, or at least as wide
as a paragraph; and it is wider exactly when it overflows. -/
theorem length_of_mem_page
    (built : sheet.Built)
    (unbroken : sheet.Unbroken)
    (succeeded : sheet.initialized.failure = none) :
    ∃ text, sheet.initialized.state.page = .ok text ∧
      ∀ line ∈ Text.pieces '\n' text,
        line = [] ∨ line = namedHeader ∨ line = positionalHeader ∨
          (paragraphWidth ≤ line.length ∧
            (line.length ≠ paragraphWidth ↔ Overflows sheet.initialized.state line)) := by
  have legible := built.legible_initialized unbroken succeeded
  refine ⟨_, page_eq_sectioned legible.textual, ?_⟩
  intro line member
  rcases mem_section_of_mem_pieces legible.readable_pageSections.unbroken member with
    empty | ⟨lines, inSections, inLines⟩
  · exact Or.inl empty
  · have pageLine := pageLine_of_mem inSections inLines
    rcases pageLine.overflows_or_length legible.textual with overflows | named | positional | fits
    · have wide := overflows.lt_length
      exact Or.inr (Or.inr (Or.inr
        ⟨Nat.le_of_lt wide, iff_of_true (Nat.ne_of_gt wide) overflows⟩))
    · exact Or.inr (Or.inl named)
    · exact Or.inr (Or.inr (Or.inl positional))
    · refine Or.inr (Or.inr (Or.inr ⟨Nat.le_of_eq fits.symm, iff_of_false ?_ ?_⟩))
      · exact not_not_intro fits
      · exact fun overflows => Nat.ne_of_gt overflows.lt_length fits

/-- A sheet whose application is a word wider than a paragraph, with an option whose name fits its
column and one whose name does not. -/
theorem length_of_mem_page_of_long_word :
    let version : Descriptor :=
      ⟨.str (List.replicate 21 'v'), .str [], .str ['x'], .toggle, .unset, .bool false⟩
    let quiet : Descriptor := ⟨.str [], .str ['q'], .str ['y'], .toggle, .unset, .bool false⟩
    let sheet : Sheet :=
      { application := List.replicate 74 'a', category := [], command := ['c']
        description := ['d'], options := ⟨[version, quiet]⟩ }
    ∃ text, sheet.initialized.state.page = .ok text ∧
      ∀ line ∈ Text.pieces '\n' text,
        line = [] ∨ line = namedHeader ∨ line = positionalHeader ∨
          (paragraphWidth ≤ line.length ∧
            (line.length ≠ paragraphWidth ↔ Overflows sheet.initialized.state line)) := by
  intro version quiet sheet
  have optionsAdded : OptionTable.addAll {}
      ([{ names := .str (List.replicate 21 'v'), description := .str ['x'] },
        { names := .str [',', 'q'], description := .str ['y'] }].map .declared) =
      .ok sheet.options := by cbv
  have built : sheet.Built := ⟨.empty, .addAll .empty optionsAdded, rfl⟩
  have optionsUnbroken : ∀ descriptor ∈ sheet.options.items, descriptor.Unbroken := by
    intro descriptor member
    constructor <;> revert descriptor <;>
      simp [sheet, version, quiet, Descriptor.longText, Descriptor.shortText, Value.text?]
  have unbroken : sheet.Unbroken := ⟨by decide, by decide, by decide, optionsUnbroken⟩
  exact length_of_mem_page built unbroken (built.failure_initialized_iff.mpr rfl)

end Sheet
end Handbook
