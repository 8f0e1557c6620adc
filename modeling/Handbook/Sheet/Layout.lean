import Handbook.Sheet.Basic
import Handbook.Text.Blank
import Handbook.Text.Column

/-!
# The layout of a help sheet

Paragraphs are wrapped and padded to one width. A table row holds a name field
and a description field; the name stands on the first row of its parameter only,
and a parameter without a description has no row. The usage line gathers the
parameters in groups, toggles first. All widths are fixed, so that the output
stays the same byte for byte.
-/

namespace Handbook.Sheet

/-- The width of the name field of a table row. -/
def nameWidth : Nat := 20

/-- The width of the description field of a table row. -/
def descriptionWidth : Nat := 52

/-- The width of a paragraph. -/
def paragraphWidth : Nat := 73

/-- One table row; its two fields are padded already. -/
def row (name fragment : Text) : Text :=
  name ++ ' ' :: fragment ++ ['\n']

/-- The rows of a list of description fields, the name on the first. -/
def rowsOf (name : Text) : List Text → Text
  | [] => []
  | fragment :: rest => row name fragment ++ rowsOf (Text.padRight nameWidth []) rest

@[simp] theorem rowsOf_cons (name fragment : Text) (rest : List Text) :
    rowsOf name (fragment :: rest) =
      row name fragment ++ rowsOf (Text.padRight nameWidth []) rest := rfl

/-- The rows of a name beside the lines of a description; the name is needed only where there
is a line. -/
def rowsBeside (name : Value) (lines : List Value) : Except Error Text :=
  if lines.isEmpty then .ok []
  else do
    let name ← name.padded nameWidth
    let fragments ← lines.mapM (Value.padded descriptionWidth)
    return rowsOf name fragments

/-- The rows of a parameter. -/
def parameterRows (parameter : Parameter) : Except Error Text := do
  let lines ← parameter.description.lines descriptionWidth
  rowsBeside parameter.rowName lines

/-- The table of the positional parameters, or of the named ones. -/
def table (sheet : Sheet) (positional : Value) : Except Error Text := do
  let members := sheet.parameters.filter fun parameter =>
    (Value.bool parameter.isPositional).equals positional
  let rows ← members.mapM parameterRows
  return rows.flatten

/-- Lines padded to the width of a paragraph. -/
def paragraphOf (lines : List Text) : Text :=
  lines.flatMap fun line => line ++ ['\n']

/-- A paragraph of a value, wrapped and padded. -/
def paragraph (text : Value) : Except Error Text := do
  let lines ← text.lines paragraphWidth
  let padded ← lines.mapM (Value.padded paragraphWidth)
  return paragraphOf padded

/-- A paragraph of a text, wrapped and padded. -/
def textParagraph (text : Text) : Text :=
  paragraphOf ((Text.columnize text paragraphWidth).map (Text.padRight paragraphWidth))

/-- The places of the usage line that a parameter can take. -/
inductive UsageGroup
  | shortToggle
  | requiredOption
  | longToggle
  | singleOption
  | multipleOption
  | requiredArgument
  | singleArgument
  | multipleArgument
  deriving DecidableEq, Repr

/-- The place of a parameter in the usage line. -/
def usageGroup (parameter : Parameter) : UsageGroup :=
  if parameter.limit.equals (.int 0) then
    if parameter.hasShortName then .shortToggle else .longToggle
  else if !parameter.isPositional then
    if parameter.required.truthy then .requiredOption
    else if parameter.limit.equals (.int 1) then .singleOption
    else .multipleOption
  else
    if parameter.required.truthy then .requiredArgument
    else if parameter.limit.equals (.int 1) then .singleArgument
    else .multipleArgument

/-- What a parameter that is no short toggle adds to the usage line. -/
def usageFragment (group : UsageGroup) (name : Text) : Text :=
  match group with
  | .shortToggle => name
  | .requiredOption => " --" ++ name ++ " VALUE"
  | .longToggle => " [--" ++ name ++ "]"
  | .singleOption => " [--" ++ name ++ " VALUE]"
  | .multipleOption => " [--" ++ name ++ " VALUE]..."
  | .requiredArgument => ' ' :: name
  | .singleArgument => " [" ++ name ++ "]"
  | .multipleArgument => " [" ++ name ++ "]..."

/-- The parameters of one group, in order. -/
def usageMembers (group : UsageGroup) (parameters : List Parameter) : List Parameter :=
  parameters.filter fun parameter => usageGroup parameter = group

/-- The part of the usage line that all short toggles share; their names must be texts. -/
def shortToggles (parameters : List Parameter) : Except Error Text :=
  let members := usageMembers .shortToggle parameters
  if members.isEmpty then .ok []
  else
    (Value.joined [] (members.map Parameter.shortName)).map fun names =>
      " [-" ++ names ++ [']']

/-- The part of the usage line that one group of other parameters fills. -/
def usagePart (parameters : List Parameter) (group : UsageGroup) : Text :=
  (usageMembers group parameters).flatMap fun parameter =>
    usageFragment group parameter.longName.displayed

/-- The groups after the short toggles, in the order of the usage line. -/
def usageOrder : List UsageGroup :=
  [.requiredOption, .longToggle, .singleOption, .multipleOption,
    .requiredArgument, .singleArgument, .multipleArgument]

/-- The parameters as the usage line shows them. -/
def usageOf (parameters : List Parameter) : Except Error Text :=
  (shortToggles parameters).map fun toggles =>
    Text.trim (toggles ++ usageOrder.flatMap (usagePart parameters))

/-- The parameters of a sheet as its usage line shows them. -/
def usageParameters (sheet : Sheet) : Except Error Text :=
  usageOf sheet.parameters

/-- The usage line. -/
def usage (sheet : Sheet) : Except Error Text :=
  sheet.usageParameters.map fun parameters =>
    textParagraph ("Usage: " ++ sheet.application ++ ' ' :: sheet.command ++ ' ' :: parameters)

/-- The description of the command. -/
def information (sheet : Sheet) : Text :=
  textParagraph ("Info: " ++ sheet.description)

/-- A table under its header, both left out when the table is empty. -/
def headed (header table : Text) : Text :=
  '\n' :: (if table.isEmpty then [] else header ++ ['\n']) ++ '\n' :: table

/-- The whole help sheet. -/
def page (sheet : Sheet) : Except Error Text := do
  let named ← sheet.table (.bool false)
  let positional ← sheet.table (.bool true)
  let usage ← sheet.usage
  return '\n' :: usage ++ '\n' :: sheet.information ++
    headed "Options (named):" named ++ headed "Arguments (positional):" positional

end Handbook.Sheet
