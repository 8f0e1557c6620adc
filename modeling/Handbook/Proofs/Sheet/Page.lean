import Handbook.Proofs.Sheet.Parameters
import Handbook.Sheet.Layout

/-!
# The page of a sheet

A parameter whose names and description are texts always has rows and a place in
the usage line. The page of a sheet that holds only such parameters is a function
of three of its texts and of these parameters. Classifying a checked descriptor
gives one of them.
-/

namespace Handbook

/-- Texts joined without a separator are set side by side. -/
theorem Text.intercalate_empty (texts : List Text) :
    List.intercalate [] texts = texts.flatten := by
  induction texts with
  | nil => rfl
  | cons text rest hypothesis =>
      cases rest with
      | nil => simp
      | cons other others =>
          rw [List.intercalate_cons_cons, hypothesis]
          simp

namespace Parameter

/-- A parameter whose names and description are texts. -/
structure Textual (parameter : Parameter) : Prop where
  longName_eq : parameter.longName = .str parameter.longName.displayed
  shortName_eq : parameter.shortName = .str parameter.shortName.displayed
  description_eq : parameter.description = .str parameter.description.displayed

/-- The text that opens the rows of a parameter in its table. -/
def rowText (parameter : Parameter) : Text :=
  parameter.rowName.displayed

/-- The rows of a parameter in its table. -/
def rows (parameter : Parameter) : Text :=
  Sheet.rowsOf (Text.padRight Sheet.nameWidth parameter.rowText)
    ((Text.columnize parameter.description.displayed Sheet.descriptionWidth).map
      (Text.padRight Sheet.descriptionWidth))

variable {parameter : Parameter}

theorem Textual.rowName_eq (textual : parameter.Textual) :
    parameter.rowName = .str parameter.rowText := by
  unfold rowText rowName
  split
  · exact textual.longName_eq
  · rfl

end Parameter

theorem Descriptor.Checked.textual_parameterIn
    {descriptor : Descriptor}
    (checked : descriptor.Checked)
    (runs : List Run) :
    (descriptor.parameterIn runs).Textual := by
  obtain ⟨text, description⟩ := checked.description_eq
  constructor
  · rfl
  · rfl
  · simp [parameterIn, description]

namespace Sheet

variable {parameters : List Parameter}

/-! ## Tables -/

theorem rowsBeside_str (name : Text) (lines : List Text) :
    rowsBeside (.str name) (lines.map .str) =
      .ok (rowsOf (Text.padRight nameWidth name)
        (lines.map (Text.padRight descriptionWidth))) := by
  cases lines with
  | nil => rfl
  | cons line rest =>
      have fragments :
          ((line :: rest).map Value.str).mapM (Value.padded descriptionWidth) =
            .ok ((line :: rest).map (Text.padRight descriptionWidth)) := by
        rw [List.mapM_map]
        exact mapM_eq_ok_map fun _ _ => Value.padded_str _ _
      rw [rowsBeside, if_neg (by simp), fragments]
      rfl

theorem parameterRows_eq
    {parameter : Parameter}
    (textual : parameter.Textual) :
    parameterRows parameter = .ok parameter.rows := by
  have lines : parameter.description.lines descriptionWidth =
      .ok ((Text.columnize parameter.description.displayed descriptionWidth).map .str) := by
    rw [textual.description_eq, Value.lines_str, Value.displayed_str]
  rw [parameterRows, lines, textual.rowName_eq]
  exact rowsBeside_str _ _

/-- The table of the positional parameters of a list, or of the named ones. -/
def tableText (positional : Bool) (parameters : List Parameter) : Text :=
  (parameters.filter fun parameter => parameter.isPositional = positional).flatMap Parameter.rows

theorem table_eq
    {sheet : Sheet}
    (textual : ∀ parameter ∈ sheet.parameters, parameter.Textual)
    (positional : Bool) :
    sheet.table (.bool positional) = .ok (tableText positional sheet.parameters) := by
  have rows :
      (sheet.parameters.filter fun parameter =>
        parameter.isPositional = positional).mapM parameterRows =
        .ok ((sheet.parameters.filter fun parameter =>
          parameter.isPositional = positional).map Parameter.rows) := by
    apply mapM_eq_ok_map
    intro parameter member
    exact parameterRows_eq (textual parameter (List.mem_filter.mp member).1)
  simp only [table, Value.equals_bool, rows]
  rfl

/-! ## The usage line -/

/-- The part of the usage line that all short toggles of a list share. -/
def togglesText (parameters : List Parameter) : Text :=
  if (usageMembers .shortToggle parameters).isEmpty then []
  else
    " [-" ++
      (usageMembers .shortToggle parameters).flatMap (fun parameter =>
        parameter.shortName.displayed) ++ [']']

/-- The parameters of a list as the usage line shows them. -/
def usageText (parameters : List Parameter) : Text :=
  Text.trim (togglesText parameters ++ usageOrder.flatMap (usagePart parameters))

theorem shortToggles_eq (textual : ∀ parameter ∈ parameters, parameter.Textual) :
    shortToggles parameters = .ok (togglesText parameters) := by
  have shortNames :
      (usageMembers .shortToggle parameters).map Parameter.shortName =
        ((usageMembers .shortToggle parameters).map fun parameter =>
          parameter.shortName.displayed).map .str := by
    rw [List.map_map]
    apply List.map_congr_left
    intro parameter member
    exact (textual parameter (List.mem_filter.mp member).1).shortName_eq
  unfold shortToggles togglesText
  dsimp only
  rw [shortNames, Value.joined_str]
  split
  · rfl
  · rw [Text.intercalate_empty, List.flatMap_def]
    rfl

theorem usageOf_eq (textual : ∀ parameter ∈ parameters, parameter.Textual) :
    usageOf parameters = .ok (usageText parameters) := by
  rw [usageOf, shortToggles_eq textual]
  rfl

/-! ## The page -/

/-- The page of three texts and a list of parameters. -/
def pageText (application command description : Text) (parameters : List Parameter) : Text :=
  '\n' :: textParagraph ("Usage: " ++ application ++ ' ' :: command ++
      ' ' :: usageText parameters) ++
    '\n' :: textParagraph ("Info: " ++ description) ++
    headed "Options (named):" (tableText false parameters) ++
    headed "Arguments (positional):" (tableText true parameters)

/-- A sheet whose parameters are textual has a page. -/
theorem page_eq
    {sheet : Sheet}
    (textual : ∀ parameter ∈ sheet.parameters, parameter.Textual) :
    sheet.page =
      .ok (pageText sheet.application sheet.command sheet.description sheet.parameters) := by
  rw [page, table_eq textual, table_eq textual, usage, usageParameters, usageOf_eq textual]
  rfl

/-- An initialized sheet has textual parameters. -/
theorem Built.textual_initialized
    {sheet : Sheet}
    (built : sheet.Built)
    (succeeded : sheet.initialized.failure = none) :
    ∀ parameter ∈ sheet.initialized.state.parameters, parameter.Textual := by
  intro parameter member
  obtain ⟨descriptor, declared, rfl⟩ := built.exists_parameterIn succeeded member
  exact (built.options.checked descriptor declared).textual_parameterIn _

/-- An initialized sheet has the page of its texts and of the parameters that its tables stand
for. -/
theorem Built.page_initialized
    {sheet : Sheet}
    (built : sheet.Built)
    (accepted : sheet.slots.collapse.refused = false) :
    sheet.initialized.state.page =
      .ok (pageText sheet.application sheet.command sheet.description
        (arranged sheet.declaredParameters)) := by
  have textual := built.textual_initialized (built.failure_initialized_iff.mpr accepted)
  rw [built.initialized_eq accepted] at textual ⊢
  exact page_eq textual

end Sheet
end Handbook
