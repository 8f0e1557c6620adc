import Handbook.Proofs.Sheet.Sections

/-!
# Reading a page back

What a page tells of the sheet that it was made of: the words of the usage line
and of the description, and the two tables as they are. Padding and wrapping lose
no word, and a table has its header exactly when one of its parameters has
something to say.
-/

namespace Handbook
namespace Sheet

variable {sheet : Sheet}

/-- Whether a positional parameter, or a named one, has a description other than blanks. -/
def Describes (sheet : Sheet) (positional : Bool) : Prop :=
  ∃ parameter ∈ sheet.parameters, parameter.isPositional = positional ∧
    ∃ description, parameter.description = .str description ∧
      ∃ character ∈ description, character ≠ ' '

/-- A section that holds the header of a table if the table has anything to show, and nothing
otherwise. -/
structure Heads
    (sheet : Sheet)
    (positional : Bool)
    (header : Text)
    (found : Option (List Text)) : Prop where
  present : found = some [header] ↔ sheet.Describes positional
  absent : found = some [] ↔ ¬ sheet.Describes positional

/-! ## Paragraphs -/

/-- The lines of a paragraph hold the words of its text, in order. -/
theorem flatMap_words_paragraphLines (text : Text) :
    (paragraphLines text).flatMap Text.words = Text.words text := by
  have wide : 1 < paragraphWidth := by decide
  rw [paragraphLines, List.flatMap_map, ← Text.flatMap_words_columnize wide text]
  exact List.flatMap_congr fun line _ => Text.words_padRight paragraphWidth line

/-- Paragraphs with the same lines have the same words. -/
theorem words_eq_of_paragraphLines
    {first second : Text}
    (same : paragraphLines first = paragraphLines second) :
    Text.words first = Text.words second := by
  rw [← flatMap_words_paragraphLines first, same, flatMap_words_paragraphLines]

theorem words_informationSentence (sheet : Sheet) :
    Text.words sheet.informationSentence = Text.words "Info:" ++ Text.words sheet.description :=
  Text.words_append_blank "Info:" sheet.description

/-! ## Tables -/

theorem rowFields_eq_nil_iff {name : Text} {fragments : List Text} :
    rowFields name fragments = [] ↔ fragments = [] := by
  cases fragments <;> simp [rowFields]

/-- A parameter has a row when its description is more than blanks. -/
theorem parameterFields_ne_nil_iff {parameter : Parameter} :
    parameterFields parameter ≠ [] ↔
      ∃ character ∈ parameter.description.displayed, character ≠ ' ' := by
  have wide : 1 < descriptionWidth := by decide
  rw [parameterFields, ne_eq, rowFields_eq_nil_iff, Text.columnize_eq_nil_iff wide]
  exact Text.words_ne_nil_iff

/-- A table has a row when one of its parameters has a description that is more than blanks. -/
theorem tableLines_ne_nil_iff
    (textual : ∀ parameter ∈ sheet.parameters, parameter.Textual)
    (positional : Bool) :
    tableLines positional sheet.parameters ≠ [] ↔ sheet.Describes positional := by
  simp only [tableLines, ne_eq, List.flatMap_eq_nil_iff, List.map_eq_nil_iff, not_forall,
    List.mem_filter, decide_eq_true_eq, exists_prop, and_assoc, Describes]
  refine exists_congr fun parameter => and_congr_right fun member => and_congr_right fun _ => ?_
  rw [← ne_eq, parameterFields_ne_nil_iff, (textual parameter member).description_eq]
  simp

theorem heads_headerLines
    (textual : ∀ parameter ∈ sheet.parameters, parameter.Textual)
    (positional : Bool)
    (header : Text) :
    sheet.Heads positional header
      (some (headerLines header (tableLines positional sheet.parameters))) := by
  constructor <;> rw [← tableLines_ne_nil_iff textual positional] <;> unfold headerLines <;>
    split_ifs <;> simp_all

/-! ## Pages -/

/-- The sections of a page that is read back. -/
theorem Legible.sectionsOf_page
    {text : Text}
    (legible : sheet.Legible)
    (page : sheet.page = .ok text) :
    sectionsOf text = sheet.pageSections := by
  rw [page_eq_sectioned legible.textual] at page
  cases page
  exact legible.readable_pageSections.sectionsOf_sectioned

/-- Initializing a sheet leaves its description as it is. -/
theorem description_initialized (sheet : Sheet) :
    sheet.initialized.state.description = sheet.description := by
  unfold initialized generateParameters
  dsimp only
  split
  · rfl
  · split <;> rfl

theorem Legible.table_eq_paragraphOf (legible : sheet.Legible) (positional : Bool) :
    sheet.table (.bool positional) =
      .ok (paragraphOf (tableLines positional sheet.parameters)) := by
  rw [table_eq legible.textual, tableText_eq]

/-- The headers of a legible page are in their places when their tables have something to show. -/
theorem Legible.heads
    {text : Text}
    (legible : sheet.Legible)
    (page : sheet.page = .ok text) :
    sheet.Heads false namedHeader (sectionsOf text)[2]? ∧
      sheet.Heads true positionalHeader (sectionsOf text)[4]? := by
  rw [legible.sectionsOf_page page]
  exact ⟨heads_headerLines legible.textual false namedHeader,
    heads_headerLines legible.textual true positionalHeader⟩

/-- Two sheets of unbroken texts that have one page between them say the same words in the usage
line and in the description, and have the same tables. On the page each header is in its place
exactly when a parameter of its table has a description that is more than blanks. -/
theorem parts_eq_of_page_eq
    {first second : Sheet}
    {text : Text}
    (firstBuilt : first.Built)
    (secondBuilt : second.Built)
    (firstUnbroken : first.Unbroken)
    (secondUnbroken : second.Unbroken)
    (firstSucceeded : first.initialized.failure = none)
    (secondSucceeded : second.initialized.failure = none)
    (firstPage : first.initialized.state.page = .ok text)
    (secondPage : second.initialized.state.page = .ok text) :
    (∃ usage other,
      first.initialized.state.usageSentence = .ok usage ∧
        second.initialized.state.usageSentence = .ok other ∧
        Text.words usage = Text.words other) ∧
      Text.words first.description = Text.words second.description ∧
      (∀ positional, ∃ table,
        first.initialized.state.table (.bool positional) = .ok table ∧
          second.initialized.state.table (.bool positional) = .ok table) ∧
      first.initialized.state.Heads false namedHeader (sectionsOf text)[2]? ∧
      first.initialized.state.Heads true positionalHeader (sectionsOf text)[4]? ∧
      second.initialized.state.Heads false namedHeader (sectionsOf text)[2]? ∧
      second.initialized.state.Heads true positionalHeader (sectionsOf text)[4]? := by
  have legible := firstBuilt.legible_initialized firstUnbroken firstSucceeded
  have otherLegible := secondBuilt.legible_initialized secondUnbroken secondSucceeded
  -- The sections of either sheet are read off the one page, so they agree one by one.
  have sameSections :
      first.initialized.state.pageSections = second.initialized.state.pageSections :=
    (legible.sectionsOf_page firstPage).symm.trans (otherLegible.sectionsOf_page secondPage)
  simp only [pageSections, List.cons.injEq, and_true] at sameSections
  obtain ⟨sameUsage, sameInformation, _, sameNamed, _, samePositional⟩ := sameSections
  obtain ⟨namedHeads, positionalHeads⟩ := legible.heads firstPage
  obtain ⟨otherNamedHeads, otherPositionalHeads⟩ := otherLegible.heads secondPage
  refine ⟨?_, ?_, ?_, namedHeads, positionalHeads, otherNamedHeads, otherPositionalHeads⟩
  · exact ⟨_, _, usageSentence_eq legible.textual, usageSentence_eq otherLegible.textual,
      words_eq_of_paragraphLines sameUsage⟩
  · have sameWords := words_eq_of_paragraphLines sameInformation
    rw [words_informationSentence, words_informationSentence, List.append_cancel_left_eq]
      at sameWords
    rwa [← description_initialized first, ← description_initialized second]
  · intro positional
    have sameTable : tableLines positional first.initialized.state.parameters =
        tableLines positional second.initialized.state.parameters := by
      cases positional
      · exact sameNamed
      · exact samePositional
    exact ⟨_, legible.table_eq_paragraphOf positional,
      by rw [otherLegible.table_eq_paragraphOf, sameTable]⟩

/-- Two sheets whose texts differ in their blanks, and in where the application ends and the command
begins, with an option that has a description and one that has none. -/
theorem parts_eq_of_page_eq_of_spaced_texts :
    let verbose : Descriptor := ⟨.str ['v'], .str [], .str ['x'], .toggle, .unset, .bool false⟩
    let quiet : Descriptor := ⟨.str [], .str ['q'], .str [' '], .toggle, .unset, .bool false⟩
    let first : Sheet :=
      { application := ['b'], category := [], command := ['c', ' ', 'd']
        description := ['e', ' ', ' ', 'f'], options := ⟨[verbose, quiet]⟩ }
    let second : Sheet :=
      { first with
        application := ['b', ' ', 'c']
        command := ['d']
        description := ['e', ' ', 'f', ' '] }
    first.initialized.state.page = second.initialized.state.page ∧
      Text.words first.description = Text.words second.description ∧
      first.initialized.state.Describes false ∧ ¬ first.initialized.state.Describes true := by
  intro verbose quiet first second
  have optionsAdded : OptionTable.addAll {}
      ([{ names := .str ['v'], description := .str ['x'] },
        { names := .str [',', 'q'], description := .str [' '] }].map .declared) =
      .ok ⟨[verbose, quiet]⟩ := by cbv
  have firstBuilt : first.Built := ⟨.empty, .addAll .empty optionsAdded, rfl⟩
  have secondBuilt : second.Built := ⟨.empty, .addAll .empty optionsAdded, rfl⟩
  have optionsUnbroken : ∀ descriptor ∈ [verbose, quiet], descriptor.Unbroken := by
    intro descriptor member
    constructor <;> revert descriptor <;>
      simp [verbose, quiet, Descriptor.longText, Descriptor.shortText, Value.text?]
  have firstUnbroken : first.Unbroken := ⟨by decide, by decide, by decide, optionsUnbroken⟩
  have secondUnbroken : second.Unbroken := ⟨by decide, by decide, by decide, optionsUnbroken⟩
  have accepted : first.slots.collapse.refused = false := rfl
  have firstPage := firstBuilt.page_initialized accepted
  have secondPage := secondBuilt.page_initialized accepted
  have sameText :
      pageText second.application second.command second.description
          (arranged second.declaredParameters) =
        pageText first.application first.command first.description
          (arranged first.declaredParameters) := by decide +kernel
  rw [sameText] at secondPage
  obtain ⟨_, sameWords, _, named, positional, _⟩ :=
    parts_eq_of_page_eq firstBuilt secondBuilt firstUnbroken secondUnbroken
      (firstBuilt.failure_initialized_iff.mpr accepted)
      (secondBuilt.failure_initialized_iff.mpr accepted) firstPage secondPage
  refine ⟨firstPage.trans secondPage.symm, sameWords, ?_, ?_⟩
  · exact named.present.mp (by decide +kernel)
  · exact positional.absent.mp (by decide +kernel)

end Sheet
end Handbook
