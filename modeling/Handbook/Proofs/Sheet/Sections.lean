import Handbook.Proofs.Sheet.Page
import Handbook.Proofs.Text.Blank
import Handbook.Proofs.Text.Lines

/-!
# The sections of a page

A page consists of six sections with an empty line in front of each: the usage,
the information, and two tables, each under the section of its header. The lines
of a text that is written line by line are read back if none of them is broken,
and the sections of a page if besides no line is empty.
-/

namespace Handbook
namespace Sheet

variable {line : Text} {lines : List Text} {sections : List (List Text)}

/-! ## Lines -/

@[simp] theorem paragraphOf_nil : paragraphOf [] = [] := rfl

@[simp] theorem paragraphOf_cons (line : Text) (rest : List Text) :
    paragraphOf (line :: rest) = line ++ '\n' :: paragraphOf rest := by
  simp [paragraphOf]

@[simp] theorem paragraphOf_append (first second : List Text) :
    paragraphOf (first ++ second) = paragraphOf first ++ paragraphOf second :=
  List.flatMap_append

/-- Nothing but no lines at all is written as the empty text. -/
@[simp] theorem paragraphOf_eq_nil_iff : paragraphOf lines = [] ↔ lines = [] := by
  cases lines <;> simp

/-- Unbroken lines in front of a text are the first lines of the whole. -/
theorem pieces_paragraphOf_append
    (unbroken : ∀ line ∈ lines, '\n' ∉ line)
    (rest : Text) :
    Text.pieces '\n' (paragraphOf lines ++ rest) = lines ++ Text.pieces '\n' rest := by
  induction lines with
  | nil => rfl
  | cons line others hypothesis =>
      obtain ⟨lineUnbroken, othersUnbroken⟩ := List.forall_mem_cons.mp unbroken
      rw [paragraphOf_cons, List.append_assoc, List.cons_append, Text.pieces_append_separator,
        Text.pieces_of_not_mem lineUnbroken, hypothesis othersUnbroken]
      simp

/-! ## Sections -/

/-- Sections one after another, with an empty line in front of each. -/
def sectioned (sections : List (List Text)) : Text :=
  sections.flatMap fun lines => '\n' :: paragraphOf lines

/-- The sections of a text: its lines, taken apart at the empty ones. What is in front of the first
empty line and behind the last one belongs to no section. -/
def sectionsOf (text : Text) : List (List Text) :=
  ((Text.pieces '\n' text).splitOn []).tail.dropLast

@[simp] theorem sectioned_nil : sectioned [] = [] := rfl

@[simp] theorem sectioned_cons (lines : List Text) (rest : List (List Text)) :
    sectioned (lines :: rest) = '\n' :: paragraphOf lines ++ sectioned rest := by
  simp [sectioned]

theorem sectioned_append (first second : List (List Text)) :
    sectioned (first ++ second) = sectioned first ++ sectioned second :=
  List.flatMap_append

/-- Sections whose lines are unbroken and none of them empty. -/
structure Readable (sections : List (List Text)) : Prop where
  unbroken : ∀ lines ∈ sections, ∀ line ∈ lines, '\n' ∉ line
  ne_nil : ∀ lines ∈ sections, ∀ line ∈ lines, line ≠ []

/-- The lines of unbroken sections, an empty line between neighbours. -/
theorem pieces_paragraphOf_sectioned
    (linesUnbroken : ∀ line ∈ lines, '\n' ∉ line)
    (unbroken : ∀ lines ∈ sections, ∀ line ∈ lines, '\n' ∉ line) :
    Text.pieces '\n' (paragraphOf lines ++ sectioned sections) =
      [[]].intercalate (lines :: (sections ++ [[]])) := by
  rw [pieces_paragraphOf_append linesUnbroken]
  -- The open section is general: each step closes it and opens the next one.
  induction sections generalizing lines with
  | nil => simp [List.intercalate_cons_cons]
  | cons next rest hypothesis =>
      obtain ⟨nextUnbroken, restUnbroken⟩ := List.forall_mem_cons.mp unbroken
      have following := hypothesis nextUnbroken restUnbroken
      rw [sectioned_cons, List.cons_append,
        ← List.nil_append ('\n' :: (paragraphOf next ++ sectioned rest)),
        Text.pieces_append_separator, pieces_paragraphOf_append nextUnbroken, following]
      simp [List.intercalate_cons_cons]

theorem pieces_sectioned (unbroken : ∀ lines ∈ sections, ∀ line ∈ lines, '\n' ∉ line) :
    Text.pieces '\n' (sectioned sections) = [[]].intercalate ([] :: (sections ++ [[]])) :=
  @pieces_paragraphOf_sectioned [] sections (by simp) unbroken

/-- Readable sections are read back from the text that they are written as. -/
theorem Readable.sectionsOf_sectioned (readable : Readable sections) :
    sectionsOf (sectioned sections) = sections := by
  have split : ([[]].intercalate ([] :: (sections ++ [[]]))).splitOn ([] : Text) =
      [] :: (sections ++ [[]]) := by
    refine List.splitOn_intercalate _ ?_ (List.cons_ne_nil _ _)
    intro lines member empty
    rcases List.mem_cons.mp member with rfl | behind
    · simp at empty
    · rcases List.mem_append.mp behind with inside | last
      · exact readable.ne_nil lines inside [] empty rfl
      · simp [List.mem_singleton.mp last] at empty
  rw [sectionsOf, pieces_sectioned readable.unbroken, split]
  simp

/-- A line of unbroken sections is empty or stands in one of them. -/
theorem mem_section_of_mem_pieces
    (unbroken : ∀ lines ∈ sections, ∀ line ∈ lines, '\n' ∉ line)
    (member : line ∈ Text.pieces '\n' (sectioned sections)) :
    line = [] ∨ ∃ lines ∈ sections, line ∈ lines := by
  rw [pieces_sectioned unbroken] at member
  by_cases empty : line = []
  · exact Or.inl empty
  · obtain ⟨lines, inSections, inLines⟩ := (Text.mem_intercalate_iff empty).mp member
    rcases List.mem_cons.mp inSections with rfl | behind
    · simp at inLines
    · rcases List.mem_append.mp behind with inside | last
      · exact Or.inr ⟨lines, inside, inLines⟩
      · simp [List.mem_singleton.mp last] at inLines

/-! ## Tables -/

/-- The two fields of each row of a name: it stands beside the first fragment only. -/
def rowFields (name : Text) : List Text → List (Text × Text)
  | [] => []
  | fragment :: rest => (name, fragment) :: rowFields [] rest

/-- A row, its fields padded. -/
def rowLine (fields : Text × Text) : Text :=
  Text.padRight nameWidth fields.1 ++ ' ' :: Text.padRight descriptionWidth fields.2

theorem rowsOf_padRight (name : Text) (fragments : List Text) :
    rowsOf (Text.padRight nameWidth name) (fragments.map (Text.padRight descriptionWidth)) =
      paragraphOf ((rowFields name fragments).map rowLine) := by
  induction fragments generalizing name with
  | nil => rfl
  | cons fragment rest hypothesis =>
      rw [List.map_cons, rowsOf_cons, hypothesis, rowFields, List.map_cons, paragraphOf_cons]
      simp [row, rowLine]

/-- The fields of the rows of a parameter. -/
def parameterFields (parameter : Parameter) : List (Text × Text) :=
  rowFields parameter.rowText
    (Text.columnize parameter.description.displayed descriptionWidth)

/-- The rows of the positional parameters of a list, or of the named ones. -/
def tableLines (positional : Bool) (parameters : List Parameter) : List Text :=
  (parameters.filter fun parameter => parameter.isPositional = positional).flatMap
    fun parameter => (parameterFields parameter).map rowLine

theorem tableText_eq (positional : Bool) (parameters : List Parameter) :
    tableText positional parameters = paragraphOf (tableLines positional parameters) := by
  unfold tableText tableLines
  induction parameters.filter fun parameter => parameter.isPositional = positional with
  | nil => rfl
  | cons parameter rest hypothesis =>
      rw [List.flatMap_cons, List.flatMap_cons, paragraphOf_append, ← hypothesis,
        Parameter.rows, rowsOf_padRight, parameterFields]

/-! ## Pages -/

/-- The header of the table of named parameters. -/
def namedHeader : Text := "Options (named):"

/-- The header of the table of positional parameters. -/
def positionalHeader : Text := "Arguments (positional):"

/-- The section of a header, empty when its table is. -/
def headerLines (header : Text) (table : List Text) : List Text :=
  if table = [] then [] else [header]

theorem headed_eq (header : Text) (table : List Text) :
    headed header (paragraphOf table) = sectioned [headerLines header table, table] := by
  unfold headed headerLines
  by_cases empty : table = [] <;> simp [empty]

/-- The lines of a paragraph. -/
def paragraphLines (text : Text) : List Text :=
  (Text.columnize text paragraphWidth).map (Text.padRight paragraphWidth)

/-- What the paragraph of the usage line says. -/
def usageSentence (sheet : Sheet) : Except Error Text :=
  sheet.usageParameters.map fun parameters =>
    "Usage: " ++ sheet.application ++ ' ' :: sheet.command ++ ' ' :: parameters

/-- What the paragraph of the usage line says of parameters that are all texts. -/
def usageSentenceText (sheet : Sheet) : Text :=
  "Usage: " ++ sheet.application ++ ' ' :: sheet.command ++ ' ' :: usageText sheet.parameters

/-- What the paragraph of the description says. -/
def informationSentence (sheet : Sheet) : Text :=
  "Info: " ++ sheet.description

/-- The sections of the page of a sheet. -/
def pageSections (sheet : Sheet) : List (List Text) :=
  let named := tableLines false sheet.parameters
  let positional := tableLines true sheet.parameters
  [paragraphLines sheet.usageSentenceText, paragraphLines sheet.informationSentence,
    headerLines namedHeader named, named, headerLines positionalHeader positional, positional]

variable {sheet : Sheet}

theorem usageSentence_eq (textual : ∀ parameter ∈ sheet.parameters, parameter.Textual) :
    sheet.usageSentence = .ok sheet.usageSentenceText := by
  rw [usageSentence, usageParameters, usageOf_eq textual]
  rfl

/-- The page of a sheet is written section by section. -/
theorem page_eq_sectioned (textual : ∀ parameter ∈ sheet.parameters, parameter.Textual) :
    sheet.page = .ok (sectioned sheet.pageSections) := by
  have sections : sheet.pageSections =
      [paragraphLines sheet.usageSentenceText, paragraphLines sheet.informationSentence] ++
        [headerLines namedHeader (tableLines false sheet.parameters),
          tableLines false sheet.parameters] ++
        [headerLines positionalHeader (tableLines true sheet.parameters),
          tableLines true sheet.parameters] := rfl
  have paragraphs :
      sectioned
          [paragraphLines sheet.usageSentenceText, paragraphLines sheet.informationSentence] =
        '\n' :: textParagraph sheet.usageSentenceText ++
          '\n' :: textParagraph sheet.informationSentence := by
    rw [sectioned_cons, sectioned_cons, sectioned_nil, List.append_nil]
    rfl
  rw [page_eq textual, pageText, tableText_eq, tableText_eq, headed_eq, headed_eq, sections,
    sectioned_append, sectioned_append, paragraphs]
  rfl

/-- What a line of a page can be. -/
inductive PageLine (sheet : Sheet) : Text → Prop
  | usage
      {line : Text}
      (member : line ∈ Text.columnize sheet.usageSentenceText paragraphWidth) :
      PageLine sheet (Text.padRight paragraphWidth line)
  | information
      {line : Text}
      (member : line ∈ Text.columnize sheet.informationSentence paragraphWidth) :
      PageLine sheet (Text.padRight paragraphWidth line)
  | namedHeader : PageLine sheet namedHeader
  | positionalHeader : PageLine sheet positionalHeader
  | row
      {parameter : Parameter}
      {fields : Text × Text}
      (member : parameter ∈ sheet.parameters)
      (row : fields ∈ parameterFields parameter) :
      PageLine sheet (rowLine fields)

theorem eq_of_mem_headerLines
    {header : Text}
    {table : List Text}
    (member : line ∈ headerLines header table) :
    line = header := by
  unfold headerLines at member
  split at member
  · simp at member
  · exact List.mem_singleton.mp member

theorem pageLine_of_mem_tableLines
    {positional : Bool}
    (member : line ∈ tableLines positional sheet.parameters) :
    PageLine sheet line := by
  obtain ⟨parameter, listed, inRows⟩ := List.mem_flatMap.mp member
  obtain ⟨fields, inFields, rfl⟩ := List.mem_map.mp inRows
  exact .row (List.mem_filter.mp listed).1 inFields

theorem pageLine_of_mem
    (inSections : lines ∈ sheet.pageSections)
    (inLines : line ∈ lines) :
    PageLine sheet line := by
  simp only [pageSections, List.mem_cons, List.not_mem_nil, or_false] at inSections
  rcases inSections with rfl | rfl | rfl | rfl | rfl | rfl
  · obtain ⟨wrapped, member, rfl⟩ := List.mem_map.mp inLines
    exact .usage member
  · obtain ⟨wrapped, member, rfl⟩ := List.mem_map.mp inLines
    exact .information member
  · rw [eq_of_mem_headerLines inLines]
    exact .namedHeader
  · exact pageLine_of_mem_tableLines inLines
  · rw [eq_of_mem_headerLines inLines]
    exact .positionalHeader
  · exact pageLine_of_mem_tableLines inLines

end Sheet

/-! ## Readable pages -/

/-- A descriptor whose texts are unbroken. -/
structure Descriptor.Unbroken (descriptor : Descriptor) : Prop where
  longText : '\n' ∉ descriptor.longText
  shortText : '\n' ∉ descriptor.shortText
  description : '\n' ∉ descriptor.description.displayed

/-- A parameter whose texts are unbroken. -/
structure Parameter.Unbroken (parameter : Parameter) : Prop where
  longName : '\n' ∉ parameter.longName.displayed
  shortName : '\n' ∉ parameter.shortName.displayed
  description : '\n' ∉ parameter.description.displayed

/-- A parameter shows the texts of its descriptor, and a mark in place of a short name. -/
theorem Descriptor.Unbroken.parameterIn
    {descriptor : Descriptor}
    (unbroken : descriptor.Unbroken)
    (runs : List Run) :
    (descriptor.parameterIn runs).Unbroken where
  longName := unbroken.longText
  shortName := by
    simp only [Descriptor.parameterIn, Descriptor.shortMark, Value.displayed_str]
    split_ifs
    · decide
    · exact unbroken.shortText
  description := unbroken.description

theorem Parameter.Unbroken.newline_not_mem_rowText
    {parameter : Parameter}
    (unbroken : parameter.Unbroken) :
    '\n' ∉ parameter.rowText := by
  unfold Parameter.rowText rowName namesBetween
  split_ifs <;> simp [unbroken.longName, unbroken.shortName]

namespace Sheet

variable {line : Text} {sheet : Sheet} {parameters : List Parameter}

theorem newline_not_mem_usageFragment
    {name : Text}
    (unbroken : '\n' ∉ name)
    (group : UsageGroup) :
    '\n' ∉ usageFragment group name := by
  have between {opening closing : Text} (before : '\n' ∉ opening) (behind : '\n' ∉ closing) :
      '\n' ∉ opening ++ name ++ closing :=
    List.not_mem_append (List.not_mem_append before unbroken) behind
  cases group with
  | shortToggle => exact unbroken
  | requiredArgument => exact List.not_mem_cons_of_ne_of_not_mem (by decide) unbroken
  | _ => exact between (by decide) (by decide)

theorem newline_not_mem_usageText (unbroken : ∀ parameter ∈ parameters, parameter.Unbroken) :
    '\n' ∉ usageText parameters := by
  intro present
  rcases List.mem_append.mp (Text.trim_subset _ present) with inToggles | inGroups
  · unfold togglesText at inToggles
    split at inToggles
    · simp at inToggles
    · rw [List.mem_append, List.mem_append, List.mem_flatMap] at inToggles
      rcases inToggles with (opening | ⟨parameter, member, inName⟩) | closing
      · simp at opening
      · exact (unbroken parameter (List.mem_filter.mp member).1).shortName inName
      · simp at closing
  · obtain ⟨group, _, inPart⟩ := List.mem_flatMap.mp inGroups
    obtain ⟨parameter, member, inFragment⟩ := List.mem_flatMap.mp inPart
    have listed := unbroken parameter (List.mem_filter.mp member).1
    exact newline_not_mem_usageFragment listed.longName group inFragment

/-- A sheet that declares texts without line breaks. -/
structure Unbroken (sheet : Sheet) : Prop where
  application : '\n' ∉ sheet.application
  command : '\n' ∉ sheet.command
  description : '\n' ∉ sheet.description
  options : ∀ descriptor ∈ sheet.options.items, descriptor.Unbroken

/-- A sheet that shows texts without line breaks. -/
structure Legible (sheet : Sheet) : Prop where
  application : '\n' ∉ sheet.application
  command : '\n' ∉ sheet.command
  description : '\n' ∉ sheet.description
  textual : ∀ parameter ∈ sheet.parameters, parameter.Textual
  unbroken : ∀ parameter ∈ sheet.parameters, parameter.Unbroken

/-- A sheet that declares unbroken texts shows unbroken texts. -/
theorem Built.legible_initialized
    (built : sheet.Built)
    (unbroken : sheet.Unbroken)
    (succeeded : sheet.initialized.failure = none) :
    sheet.initialized.state.Legible := by
  have textual := built.textual_initialized succeeded
  rw [built.initialized_eq (built.failure_initialized_iff.mp succeeded)] at textual ⊢
  refine ⟨unbroken.application, unbroken.command, unbroken.description, textual, ?_⟩
  intro parameter member
  obtain ⟨descriptor, declared, rfl⟩ := List.mem_map.mp (mem_arranged.mp member)
  exact (unbroken.options descriptor declared).parameterIn _

theorem Legible.newline_not_mem_usageSentenceText (legible : sheet.Legible) :
    '\n' ∉ sheet.usageSentenceText := by
  have command : '\n' ∉ ' ' :: sheet.command := by simp [legible.command]
  have parameters : '\n' ∉ ' ' :: usageText sheet.parameters :=
    List.not_mem_cons_of_ne_of_not_mem (by decide) (newline_not_mem_usageText legible.unbroken)
  have opening : '\n' ∉ ("Usage: " : Text) ++ sheet.application :=
    List.not_mem_append (by decide) legible.application
  exact List.not_mem_append (List.not_mem_append opening command) parameters

theorem Legible.newline_not_mem_informationSentence (legible : sheet.Legible) :
    '\n' ∉ sheet.informationSentence :=
  List.not_mem_append (by decide) legible.description

/-- The fields of the rows of a parameter: its name or nothing, and a line of its description. -/
theorem mem_rowFields
    {name : Text}
    {fragments : List Text}
    {fields : Text × Text}
    (member : fields ∈ rowFields name fragments) :
    (fields.1 = name ∨ fields.1 = []) ∧ fields.2 ∈ fragments := by
  induction fragments generalizing name with
  | nil => simp [rowFields] at member
  | cons fragment rest hypothesis =>
      rcases List.mem_cons.mp member with rfl | behind
      · exact ⟨Or.inl rfl, List.mem_cons_self⟩
      · obtain ⟨named, listed⟩ := hypothesis behind
        exact ⟨Or.inr (named.elim id id), List.mem_cons_of_mem fragment listed⟩

/-- The lines of a legible page are unbroken. -/
theorem PageLine.newline_not_mem (pageLine : PageLine sheet line) (legible : sheet.Legible) :
    '\n' ∉ line := by
  have wrapped {text wrapped : Text} {width : Nat}
      (unbroken : '\n' ∉ text)
      (member : wrapped ∈ Text.columnize text width)
      (padding : Nat) :
      '\n' ∉ Text.padRight padding wrapped := by
    rw [Text.mem_padRight_iff (by decide)]
    exact fun present => unbroken (Text.mem_of_mem_columnize (by decide) member present)
  cases pageLine with
  | usage member => exact wrapped legible.newline_not_mem_usageSentenceText member _
  | information member => exact wrapped legible.newline_not_mem_informationSentence member _
  | namedHeader => decide
  | positionalHeader => decide
  | @row parameter fields listed inRows =>
      obtain ⟨named, fragment⟩ := mem_rowFields inRows
      have parameterUnbroken := legible.unbroken parameter listed
      have name : '\n' ∉ fields.1 := by
        rcases named with named | named <;> rw [named]
        · exact parameterUnbroken.newline_not_mem_rowText
        · exact List.not_mem_nil
      have description := wrapped parameterUnbroken.description fragment descriptionWidth
      rw [rowLine, List.mem_append, List.mem_cons, Text.mem_padRight_iff (by decide)]
      simp [name, description]

/-- A padded row is as long as its fields, if they are longer than their columns. -/
theorem length_rowLine (fields : Text × Text) :
    (rowLine fields).length =
      max fields.1.length nameWidth + 1 + max fields.2.length descriptionWidth := by
  simp [rowLine]
  omega

/-- No line of a page is empty. -/
theorem PageLine.ne_nil (pageLine : PageLine sheet line) : line ≠ [] := by
  have padded {text : Text} : Text.padRight paragraphWidth text ≠ [] := by
    apply List.ne_nil_of_length_pos
    rw [Text.length_padRight, paragraphWidth]
    omega
  cases pageLine with
  | usage _ => exact padded
  | information _ => exact padded
  | namedHeader => decide
  | positionalHeader => decide
  | row _ _ => simp [rowLine]

/-- The sections of a legible page can be read back. -/
theorem Legible.readable_pageSections (legible : sheet.Legible) :
    Readable sheet.pageSections where
  unbroken _ inSections _ inLines := (pageLine_of_mem inSections inLines).newline_not_mem legible
  ne_nil _ inSections _ inLines := (pageLine_of_mem inSections inLines).ne_nil

end Sheet
end Handbook
