import Handbook.Classifier
import Handbook.Descriptor.Table

/-!
# Help sheets

A help sheet belongs to one command. It keeps the command's texts, slots and
options, and what was last made out of them: the runs of positions and the list
of parameters. Initializing it makes both anew. A failing step leaves the
parameters as they were; the walk over the positions leaves the runs it had
recorded when it was refused.
-/

namespace Handbook

/-- The help sheet of one command. -/
structure Sheet where
  application : Text
  category : Text
  command : Text
  description : Text
  slots : SlotTable := {}
  options : OptionTable := {}
  classifier : Classifier := {}
  runs : List Run := []
  parameters : List Parameter := []

/-- A table as it is handed to a sheet: left out, a table, or something else. -/
inductive Supplied (Table : Type)
  | absent
  | table (table : Table)
  | foreign

/-- The place of a name in a list ordered by format name, after all that are not greater. It is
sought between two places, by halving what lies between them. -/
def placeAfter
    (name : Text)
    (parameters : List Parameter)
    (low high : Nat)
    (within : high ≤ parameters.length) : Nat :=
  if between : low < high then
    have inside : (low + high) / 2 < parameters.length := by omega
    if name < parameters[(low + high) / 2].formatName then
      placeAfter name parameters low ((low + high) / 2) (Nat.le_of_lt inside)
    else placeAfter name parameters ((low + high) / 2 + 1) high within
  else low
termination_by high - low

/-- Insert a parameter into a list ordered by format name, after all that are not greater. -/
def insertAtPlace (parameter : Parameter) (parameters : List Parameter) : List Parameter :=
  parameters.insertIdx
    (placeAfter parameter.formatName parameters 0 parameters.length (Nat.le_refl _)) parameter

@[simp] theorem insertAtPlace_nil (parameter : Parameter) :
    insertAtPlace parameter [] = [parameter] := by
  simp [insertAtPlace, placeAfter]

namespace Sheet

/-- The text of a value that must be one. -/
def checkText (label : Text) : Value → Except Error Text
  | .str text => .ok text
  | _ => .error (.sheetTextExpected label)

/-- The table that was supplied; an empty one if it was left out. -/
def checkTable {Table : Type} (empty : Table) (error : Error) :
    Supplied Table → Except Error Table
  | .absent => .ok empty
  | .table table => .ok table
  | .foreign => .error error

/-- A sheet that has not been initialized. -/
def create
    (application category command description : Value)
    (slots : Supplied SlotTable)
    (options : Supplied OptionTable)
    (classifier : Classifier) : Except Error Sheet := do
  let application ← checkText "application" application
  let category ← checkText "category" category
  let command ← checkText "command" command
  let description ← checkText "description" description
  let slots ← checkTable {} .slotTableExpected slots
  let options ← checkTable {} .optionTableExpected options
  return { application, category, command, description, slots, options, classifier }

/-- Make the runs anew. -/
def generateRuns (sheet : Sheet) : Aftermath Sheet :=
  let collapse := sheet.slots.collapse
  { state := { sheet with runs := collapse.runs }
    failure := if collapse.refused then some .countTooLarge else none }

/-- The named parameters in order of their format names, and the positional ones as declared,
of a list of descriptors. -/
def sortParameters
    (classifier : Classifier)
    (bindings : List Binding)
    (named positional : List Parameter) :
    List Descriptor → Except Error (List Parameter)
  | [] => .ok (named ++ positional)
  | descriptor :: rest =>
      match classifier.classifyDescriptor descriptor bindings with
      | .error error => .error error
      | .ok parameter =>
          if parameter.isPositional then
            sortParameters classifier bindings named (positional ++ [parameter]) rest
          else
            sortParameters classifier bindings (insertAtPlace parameter named) positional rest

/-- Make the parameters anew, out of the runs at hand. -/
def generateParameters (sheet : Sheet) : Aftermath Sheet :=
  let bindings := sheet.runs.map Run.binding
  match sortParameters sheet.classifier bindings [] [] sheet.options.items with
  | .ok parameters => ⟨{ sheet with parameters }, none⟩
  | .error error => ⟨sheet, some error⟩

/-- Make the runs and then the parameters anew. -/
def initialized (sheet : Sheet) : Aftermath Sheet :=
  let walked := sheet.generateRuns
  match walked.failure with
  | some error => ⟨walked.state, some error⟩
  | none => walked.state.generateParameters

/-- What the journal is told of an initialized sheet. -/
def summary (sheet : Sheet) : Text :=
  sheet.application ++ ' ' :: sheet.command ++ ": " ++ Text.ofNat sheet.runs.length ++
    " argument names, " ++ Text.ofNat sheet.parameters.length ++ " parameters"

/-- The sheet with an option added to its table. -/
def addOption (sheet : Sheet) (entry : OptionEntry) : Except Error Sheet :=
  (sheet.options.add entry).map fun options => { sheet with options }

/-- The sheet with a slot added to its table. -/
def addSlot (sheet : Sheet) (name count : Value) : Except Error Sheet :=
  (sheet.slots.add name count).map fun slots => { sheet with slots }

/-- The sheet with a field of one parameter changed; records are shared with their readers. -/
def changeParameter
    (sheet : Sheet)
    (index field value : Value) : Except Error (Sheet × Parameter) := do
  let parameter ← itemAt .list sheet.parameters index
  let changed ← parameter.assign field value
  return ({ sheet with parameters := replaceAt sheet.parameters index changed }, changed)

end Sheet
end Handbook
