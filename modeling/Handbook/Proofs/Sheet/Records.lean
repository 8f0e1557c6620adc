import Handbook.Proofs.Sheet.Positions
import Handbook.Proofs.Sheet.Readback
import Handbook.Proofs.Text.Fields
import Mathlib.Data.List.SplitBy

/-!
# Reading a table back by columns

The rows of a table whose names and words fit their columns all have one width,
so the table can be cut into its rows without looking at what they hold. A row
with a name begins a record, and the rows below it that have none continue it:
what is read are the names of the described parameters and the words of their
descriptions, in order.
-/

namespace Handbook

namespace Parameter

/-- Whether a parameter has a description that is more than blanks. -/
def isDescribed (parameter : Parameter) : Bool :=
  parameter.description.displayed.any (· ≠ ' ')

/-- What a table tells of a parameter: its name and the words of its description. -/
def record (parameter : Parameter) : Text × List Text :=
  (parameter.rowText, Text.words parameter.description.displayed)

/-- A parameter whose name can be told from its padding, and whose name and words fit the columns
of a table. -/
structure Tabular (parameter : Parameter) : Prop where
  named : parameter.rowText ≠ []
  unpadded : parameter.rowText.getLast? ≠ some ' '
  name_le : parameter.rowText.length ≤ Sheet.nameWidth
  word_le : ∀ word ∈ Text.words parameter.description.displayed,
    word.length ≤ Sheet.descriptionWidth

end Parameter

namespace Sheet

/-! ## The reader -/

/-- The width of a row, its line break included. -/
def rowWidth : Nat := 74

/-- What stands in the name field of a row. -/
def nameField (row : Text) : Text :=
  Text.readField (row.take nameWidth)

/-- The description field of a row. -/
def descriptionField (row : Text) : Text :=
  (row.drop (nameWidth + 1)).take descriptionWidth

/-- Whether a row continues the record above it: its name field is blank. -/
def continues (row : Text) : Bool :=
  (nameField row).isEmpty

/-- The record of a row and of those that continue it: the name of the first one, and the words of
all descriptions. -/
def recordOf (rows : List Text) : Text × List Text :=
  ((rows.head?.map nameField).getD [], rows.flatMap fun row => Text.words (descriptionField row))

/-- The records of a table, which is cut into rows of one width. -/
def recordsOf (table : Text) : List (Text × List Text) :=
  ((Text.cutEvery rowWidth table).splitBy fun _ row => continues row).map recordOf

/-! ## Rows -/

/-- Two fields that fit their columns, the first one told from its padding. -/
structure Fit (fields : Text × Text) : Prop where
  unpadded : fields.1.getLast? ≠ some ' '
  name_le : fields.1.length ≤ nameWidth
  description_le : fields.2.length ≤ descriptionWidth

/-- A row with its line break. -/
def brokenRow (fields : Text × Text) : Text :=
  rowLine fields ++ ['\n']

variable {fields : Text × Text} {parameter : Parameter}

theorem Fit.length_brokenRow (fit : Fit fields) : (brokenRow fields).length = rowWidth := by
  have name := fit.name_le
  have description := fit.description_le
  rw [brokenRow, List.length_append, length_rowLine, max_eq_right name, max_eq_right description]
  rfl

theorem Fit.nameField_brokenRow (fit : Fit fields) : nameField (brokenRow fields) = fields.1 := by
  have padded : (Text.padRight nameWidth fields.1).length = nameWidth := by
    rw [Text.length_padRight, max_eq_right fit.name_le]
  rw [nameField, brokenRow, rowLine, List.append_assoc, List.take_left' padded]
  exact Text.readField_padRight fit.unpadded nameWidth

theorem Fit.words_descriptionField_brokenRow (fit : Fit fields) :
    Text.words (descriptionField (brokenRow fields)) = Text.words fields.2 := by
  have name : (Text.padRight nameWidth fields.1 ++ [' ']).length = nameWidth + 1 := by
    rw [List.length_append, Text.length_padRight, max_eq_right fit.name_le]
    rfl
  have description :
      (Text.padRight descriptionWidth fields.2).length = descriptionWidth := by
    rw [Text.length_padRight, max_eq_right fit.description_le]
  have columns : brokenRow fields =
      (Text.padRight nameWidth fields.1 ++ [' ']) ++
        (Text.padRight descriptionWidth fields.2 ++ ['\n']) := by
    simp [brokenRow, rowLine]
  rw [descriptionField, columns, List.drop_left' name, List.take_left' description,
    Text.words_padRight]

/-! ## The rows of a parameter -/

theorem rowFields_cons (name fragment : Text) (rest : List Text) :
    rowFields name (fragment :: rest) = (name, fragment) :: rest.map fun other => ([], other) := by
  induction rest generalizing name fragment with
  | nil => rfl
  | cons next others hypothesis => rw [rowFields, hypothesis, List.map_cons]

theorem map_snd_rowFields (name : Text) (fragments : List Text) :
    (rowFields name fragments).map Prod.snd = fragments := by
  induction fragments generalizing name with
  | nil => rfl
  | cons fragment rest hypothesis => rw [rowFields, List.map_cons, hypothesis]

/-- The rows of a parameter with their line breaks. -/
def brokenRows (parameter : Parameter) : List Text :=
  (parameterFields parameter).map brokenRow

/-- A parameter has rows when it is described. -/
theorem brokenRows_ne_nil_iff : brokenRows parameter ≠ [] ↔ parameter.isDescribed = true := by
  have described : parameterFields parameter ≠ [] ↔
      ∃ character ∈ parameter.description.displayed, character ≠ ' ' :=
    parameterFields_ne_nil_iff
  rw [brokenRows, ne_eq, List.map_eq_nil_iff, ← ne_eq, described, Parameter.isDescribed,
    List.any_eq_true]
  simp

/-- A line of a text whose words fit a column fits it. -/
theorem length_le_of_mem_columnize
    {text line : Text}
    {width : Nat}
    (wide : 1 < width)
    (fits : ∀ word ∈ Text.words text, word.length ≤ width)
    (member : line ∈ Text.columnize text width) :
    line.length ≤ width := by
  rcases Text.isWord_or_length_le member with single | short
  · apply fits
    rw [← Text.flatMap_words_columnize wide text]
    exact List.mem_flatMap.mpr ⟨line, member, by simp [single.words_eq]⟩
  · exact short

/-- The rows of a parameter that fits the columns fit them. -/
theorem fit_of_mem_parameterFields
    (tabular : parameter.Tabular)
    (member : fields ∈ parameterFields parameter) :
    Fit fields := by
  obtain ⟨named, listed⟩ := mem_rowFields member
  have description := length_le_of_mem_columnize (by decide) tabular.word_le listed
  rcases named with name | empty
  · exact ⟨name ▸ tabular.unpadded, name ▸ tabular.name_le, description⟩
  · exact ⟨by simp [empty], by simp [empty], description⟩

/-- Of the rows of a described parameter the first one has its name, and all others continue it. -/
theorem exists_brokenRows_eq
    (tabular : parameter.Tabular)
    (described : parameter.isDescribed = true) :
    ∃ first others, brokenRows parameter = first :: others ∧
      nameField first = parameter.rowText ∧ ∀ row ∈ others, continues row = true := by
  have nonempty := brokenRows_ne_nil_iff.mpr described
  have fits : ∀ fields ∈ parameterFields parameter, Fit fields :=
    fun _ member => fit_of_mem_parameterFields tabular member
  unfold brokenRows at nonempty ⊢
  unfold parameterFields at nonempty fits ⊢
  cases lines : Text.columnize parameter.description.displayed descriptionWidth with
  | nil => simp [lines, rowFields] at nonempty
  | cons line rest =>
      rw [lines, rowFields_cons] at fits
      rw [rowFields_cons, List.map_cons]
      obtain ⟨firstFit, othersFit⟩ := List.forall_mem_cons.mp fits
      refine ⟨_, _, rfl, firstFit.nameField_brokenRow, ?_⟩
      rw [List.forall_mem_map]
      intro other member
      have unnamed : other.1 = [] := by
        obtain ⟨_, _, rfl⟩ := List.mem_map.mp member
        rfl
      rw [continues, (othersFit other member).nameField_brokenRow, unnamed]
      rfl

/-- The rows of a described parameter are read as its record. -/
theorem recordOf_brokenRows
    (tabular : parameter.Tabular)
    (described : parameter.isDescribed = true) :
    recordOf (brokenRows parameter) = parameter.record := by
  obtain ⟨first, others, rows, name, _⟩ := exists_brokenRows_eq tabular described
  have wide : 1 < descriptionWidth := by decide
  have words : (brokenRows parameter).flatMap (fun row => Text.words (descriptionField row)) =
      Text.words parameter.description.displayed := by
    calc
      (brokenRows parameter).flatMap (fun row => Text.words (descriptionField row)) =
          (parameterFields parameter).flatMap fun fields => Text.words fields.2 := by
        rw [brokenRows, List.flatMap_map]
        exact List.flatMap_congr fun fields member =>
          (fit_of_mem_parameterFields tabular member).words_descriptionField_brokenRow
      _ = ((parameterFields parameter).map Prod.snd).flatMap Text.words := by
        rw [List.flatMap_map]
      _ = Text.words parameter.description.displayed := by
        rw [parameterFields, map_snd_rowFields, Text.flatMap_words_columnize wide]
  rw [recordOf, words, rows, List.head?_cons, Option.map_some, Option.getD_some, name]
  rfl

/-! ## The rows of a table -/

variable {parameters : List Parameter}

/-- A table consists of the rows of its described parameters. -/
theorem tableText_eq_flatten (positional : Bool) (parameters : List Parameter) :
    tableText positional parameters =
      ((((parameters.filter fun parameter => parameter.isPositional = positional).filter
        Parameter.isDescribed).map brokenRows).flatten).flatten := by
  rw [tableText_eq, paragraphOf, tableLines, List.flatMap_def, List.map_flatMap]
  congr 1
  induction parameters.filter fun parameter => parameter.isPositional = positional with
  | nil => rfl
  | cons parameter rest hypothesis =>
      have rows : ((parameterFields parameter).map rowLine).map (fun line => line ++ ['\n']) =
          brokenRows parameter := by
        rw [List.map_map]
        rfl
      rw [List.flatMap_cons, rows, hypothesis]
      cases described : parameter.isDescribed with
      | true => rw [List.filter_cons_of_pos described, List.map_cons, List.flatten_cons]
      | false =>
          have none : brokenRows parameter = [] := by
            by_contra nonempty
            simp [brokenRows_ne_nil_iff.mp nonempty] at described
          rw [List.filter_cons_of_neg (by simp [described]), none, List.nil_append]

/-- The rows of described parameters fall apart into those of each parameter, since a row that
continues another one has no name and the first row of a parameter has one. -/
theorem splitBy_brokenRows
    (tabular : ∀ parameter ∈ parameters, parameter.Tabular)
    (described : ∀ parameter ∈ parameters, parameter.isDescribed = true) :
    (parameters.map brokenRows).flatten.splitBy (fun _ row => continues row) =
      parameters.map brokenRows := by
  refine List.splitBy_eq_iff.mpr ⟨rfl, ?_, ?_, ?_⟩
  · intro empty
    obtain ⟨parameter, member, none⟩ := List.mem_map.mp empty
    exact brokenRows_ne_nil_iff.mpr (described parameter member) none
  · rw [List.forall_mem_map]
    intro parameter member
    obtain ⟨first, others, rows, _, continued⟩ :=
      exists_brokenRows_eq (tabular parameter member) (described parameter member)
    rw [rows]
    refine (List.pairwise_cons.mpr ⟨continued, ?_⟩).isChain
    exact List.pairwise_of_forall_mem_list fun _ _ row inOthers => continued row inOthers
  · -- Any two parameters could be neighbours: it is enough that the second one has a name.
    refine (List.pairwise_of_forall_mem_list ?_).isChain
    rw [List.forall_mem_map]
    intro parameter member
    rw [List.forall_mem_map]
    intro next nextMember
    obtain ⟨first, others, rows, name, _⟩ :=
      exists_brokenRows_eq (tabular next nextMember) (described next nextMember)
    have nonempty := brokenRows_ne_nil_iff.mpr (described parameter member)
    refine ⟨nonempty, by simp [rows], ?_⟩
    simpa [rows, continues, name] using (tabular next nextMember).named

/-- A table of parameters that fit its columns is read as the records of those that it shows. -/
theorem recordsOf_tableText
    (tabular : ∀ parameter ∈ parameters, parameter.Tabular)
    (positional : Bool) :
    recordsOf (tableText positional parameters) =
      ((parameters.filter fun parameter => parameter.isPositional = positional).filter
        Parameter.isDescribed).map Parameter.record := by
  rw [tableText_eq_flatten]
  generalize shown : (parameters.filter fun parameter =>
    parameter.isPositional = positional).filter Parameter.isDescribed = described
  have shownTabular : ∀ parameter ∈ described, parameter.Tabular := by
    intro parameter member
    rw [← shown] at member
    exact tabular parameter (List.mem_of_mem_filter (List.mem_of_mem_filter member))
  have shownDescribed : ∀ parameter ∈ described, parameter.isDescribed = true := by
    intro parameter member
    rw [← shown] at member
    exact List.of_mem_filter member
  have uniform : ∀ row ∈ (described.map brokenRows).flatten, row.length = rowWidth := by
    simp only [List.mem_flatten, List.mem_map, brokenRows]
    rintro row ⟨_, ⟨parameter, member, rfl⟩, inRows⟩
    obtain ⟨fields, inFields, rfl⟩ := List.mem_map.mp inRows
    exact (fit_of_mem_parameterFields (shownTabular parameter member) inFields).length_brokenRow
  rw [recordsOf, Text.cutEvery_flatten (by decide) uniform,
    splitBy_brokenRows shownTabular shownDescribed, List.map_map]
  apply List.map_congr_left
  intro parameter member
  exact recordOf_brokenRows (shownTabular parameter member) (shownDescribed parameter member)

end Sheet

/-! ## The parameters of a built sheet -/

/-- The names of a descriptor that has been declared do not end with a blank. -/
theorem Declaration.getLast?_ne_of_check
    {declaration : Declaration}
    {descriptor : Descriptor}
    (accepted : declaration.check = .ok descriptor) :
    descriptor.longText.getLast? ≠ some ' ' ∧ descriptor.shortText.getLast? ≠ some ' ' := by
  obtain ⟨names, _, _, _, _, _, _, _, _, _, _, rfl⟩ := exists_of_check accepted
  exact ⟨Text.getLast?_trim_ne _, Text.getLast?_trim_ne _⟩

namespace Descriptor

variable {descriptor : Descriptor}

/-- The row name of a declared descriptor does not end with a blank. -/
theorem getLast?_rowText_parameterIn
    (long : descriptor.longText.getLast? ≠ some ' ')
    (short : descriptor.shortText.getLast? ≠ some ' ')
    (runs : List Run) :
    (descriptor.parameterIn runs).rowText.getLast? ≠ some ' ' := by
  have dash : '-' ≠ ' ' := by decide
  have bracketed : ∀ front : Text, (front ++ [']']).getLast? ≠ some ' ' := by simp
  have mark : descriptor.shortMark.getLast? ≠ some ' ' := by
    unfold shortMark
    split_ifs
    · decide
    · exact short
  unfold Parameter.rowText Parameter.rowName
  split_ifs
  · exact long
  · rw [Value.displayed_str, Parameter.namesBetween]
    split_ifs
    · exact Text.getLast?_cons_ne dash (Text.getLast?_cons_ne dash long)
    · exact Text.getLast?_cons_ne dash mark
    · exact bracketed _

/-- The row name of a descriptor that is positional among the runs of a built table is the name of
a slot, and that of any other one begins with a dash. -/
theorem rowText_parameterIn_ne_nil
    {table : SlotTable}
    (built : table.Built) :
    (descriptor.parameterIn table.mergedRuns).rowText ≠ [] := by
  cases positional : (descriptor.parameterIn table.mergedRuns).isPositional with
  | true =>
      obtain ⟨start, _, _, _, firstRun⟩ := exists_firstRun_parameterIn positional
      rw [Parameter.rowText, Parameter.rowName_of_positional positional]
      exact built.boundName_ne_nil firstRun.bound
  | false =>
      rw [Parameter.rowText, Parameter.rowName, positional, if_neg Bool.false_ne_true,
        Value.displayed_str, Parameter.namesBetween]
      split_ifs <;> simp

end Descriptor

namespace Sheet

variable {sheet : Sheet}

/-- Every table of an initialized sheet is read back by its columns, if the row names and the words
of the descriptions of its parameters fit them: its records are the row names and the words of the
parameters of its kind whose descriptions are more than blanks, in order. -/
theorem recordsOf_table
    (built : sheet.Built)
    (succeeded : sheet.initialized.failure = none)
    (namesFit : ∀ parameter ∈ sheet.initialized.state.parameters,
      parameter.rowText.length ≤ nameWidth)
    (wordsFit : ∀ parameter ∈ sheet.initialized.state.parameters,
      ∀ word ∈ Text.words parameter.description.displayed, word.length ≤ descriptionWidth)
    (positional : Bool) :
    ∃ table, sheet.initialized.state.table (.bool positional) = .ok table ∧
      recordsOf table =
        ((sheet.initialized.state.parameters.filter fun parameter =>
          parameter.isPositional = positional).filter Parameter.isDescribed).map
            Parameter.record := by
  have declared : ∀ parameter ∈ sheet.initialized.state.parameters,
      ∃ descriptor ∈ sheet.options.items,
        descriptor.parameterIn sheet.slots.mergedRuns = parameter := by
    intro parameter member
    rw [built.initialized_eq (built.failure_initialized_iff.mp succeeded)] at member
    exact List.mem_map.mp (mem_arranged.mp member)
  have textual : ∀ parameter ∈ sheet.initialized.state.parameters, parameter.Textual := by
    intro parameter member
    obtain ⟨descriptor, listed, rfl⟩ := declared parameter member
    exact (built.options.checked descriptor listed).textual_parameterIn _
  have tabular : ∀ parameter ∈ sheet.initialized.state.parameters, parameter.Tabular := by
    intro parameter member
    obtain ⟨descriptor, listed, rfl⟩ := declared parameter member
    obtain ⟨declaration, accepted⟩ := built.options.exists_check descriptor listed
    obtain ⟨long, short⟩ := Declaration.getLast?_ne_of_check accepted
    exact
      { named := Descriptor.rowText_parameterIn_ne_nil built.slots
        unpadded := Descriptor.getLast?_rowText_parameterIn long short _
        name_le := namesFit _ member
        word_le := wordsFit _ member }
  exact ⟨_, table_eq textual positional, recordsOf_tableText tabular positional⟩

/-- A sheet with a description of two lines, one of blanks, and one of a positional parameter. -/
theorem recordsOf_table_of_wrapped_description :
    let copied : Text := List.replicate 40 'c'
    let all : Descriptor :=
      ⟨.str ['a', 'l', 'l'], .str ['a'], .str (copied ++ ' ' :: copied), .toggle, .unset,
        .bool false⟩
    let quiet : Descriptor := ⟨.str [], .str ['q'], .str [' '], .toggle, .unset, .bool false⟩
    let file : Descriptor :=
      ⟨.str ['F'], .str [], .str ['t', ' ', ' ', 'o', '\n'], .toggle, .unset, .bool false⟩
    let sheet : Sheet :=
      { application := [], category := [], command := [], description := []
        slots := ⟨[⟨['F'], .unbounded⟩]⟩, options := ⟨[file, quiet, all]⟩ }
    ∃ named positional,
      sheet.initialized.state.table (.bool false) = .ok named ∧
        recordsOf named = [("-a [--all]".toList, [copied, copied])] ∧
        sheet.initialized.state.table (.bool true) = .ok positional ∧
        recordsOf positional = [(['F'], [['t'], ['o', '\n']])] := by
  intro copied all quiet file sheet
  have slotsAdded : SlotTable.addAll {} [(.str ['F'], .int (-1))] = .ok sheet.slots := rfl
  have optionsAdded : OptionTable.addAll {}
      ([{ names := .str ['F'], description := .str ['t', ' ', ' ', 'o', '\n'] },
        { names := .str [',', 'q'], description := .str [' '] },
        { names := .str ['a', 'l', 'l', ',', 'a']
          description := .str (copied ++ ' ' :: copied) }].map .declared) =
      .ok sheet.options := by with_unfolding_all rfl
  have built : sheet.Built := ⟨.addAll .empty slotsAdded, .addAll .empty optionsAdded, rfl⟩
  have succeeded : sheet.initialized.failure = none := built.failure_initialized_iff.mpr rfl
  have read := recordsOf_table built succeeded (by decide +kernel) (by decide +kernel)
  obtain ⟨named, namedTable, namedRecords⟩ := read false
  obtain ⟨positional, positionalTable, positionalRecords⟩ := read true
  refine ⟨named, positional, namedTable, namedRecords.trans ?_, positionalTable,
    positionalRecords.trans ?_⟩ <;> decide +kernel

end Sheet
end Handbook
