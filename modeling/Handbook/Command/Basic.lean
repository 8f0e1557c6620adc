import Handbook.Report
import Handbook.Sheet.Layout

/-!
# Commands

A command of a multi-command tool: its symbol, the texts of its help sheet, the
slots and options it declares, and its body. Every command has a help toggle
before its own options. A body runs once per call and sees the tokens after the
symbol, untouched.
-/

namespace Handbook

/-- How a command ended. -/
inductive Verdict
  | okay
  | failure
  | invalid
  deriving DecidableEq, Repr

namespace Verdict

/-- The status of a verdict. -/
def status : Verdict → Int
  | okay => 0
  | failure => -1
  | invalid => -2

/-- The name of a verdict. -/
def name : Verdict → Text
  | okay => "OKAY"
  | failure => "FAILURE"
  | invalid => "INVALID"

/-- All verdicts. -/
def all : List Verdict :=
  [okay, failure, invalid]

/-- The verdict of a name. -/
def ofName? (text : Text) : Option Verdict :=
  all.find? fun verdict => verdict.name == text

end Verdict

/-- How requests are carried out: under which name, whether faults are printed, and whether
they are colorful. Any value may be given for each; what counts as true asks for it. -/
structure Settings where
  application : Value := .unset
  shell : Value := .bool true
  colorful : Value := .bool false

/-- One call of a command. -/
structure Call where
  host : Host
  symbol : Text
  tokens : List Value
  settings : Settings

/-- What a command does when it is called: nothing yet, the help of the registry it is in, or
an action of its own. -/
inductive Body
  | missing
  | help
  | action (run : Call → Report Verdict)

/-- A command as it is declared. Its slots and options are declared anew for each call, and may
depend on it. -/
structure Command where
  label : Text
  symbol : Value := .unset
  category : Value := .str []
  description : Value := .str []
  formerly : Value := .unset
  hidden : Bool := false
  slots : Call → List (Value × Value) := fun _ => []
  options : Call → List OptionEntry := fun _ => []
  body : Body

/-- The toggle that every command has. -/
def helpToggle : Declaration :=
  { names := .str "help,h"
    description := .str "Get a description and instructions for this command." }

namespace Command

/-- The label that a value is for a command: a text without the character NUL. -/
def checkLabel : Value → Except Error Text
  | .str label => if label.contains '\x00' then .error .typeNameHasNul else .ok label
  | .none => .error (.labelNotText Value.none.written)
  | other => .error (.labelNotText other.kind)

/-- The slots that a command declares for a call. -/
def slotTable (command : Command) (call : Call) : Except Error SlotTable :=
  SlotTable.addAll {} (command.slots call)

/-- The options that a command declares for a call, after the help toggle. -/
def optionTable (command : Command) (call : Call) : Except Error OptionTable :=
  OptionTable.addAll {} (.declared helpToggle :: command.options call)

/-- The help sheet of a command, not initialized. -/
def plainSheet (command : Command) (call : Call) : Except Error Sheet := do
  let slots ← command.slotTable call
  let options ← command.optionTable call
  Sheet.create call.settings.application command.category command.symbol command.description
    (.table slots) (.table options) {}

/-- The help sheet of a command. -/
def sheet (command : Command) (call : Call) : Report Sheet := do
  let plain ← Report.ofExcept (command.plainSheet call)
  let aftermath := plain.initialized
  match aftermath.failure with
  | some error => Report.refuse error
  | none =>
      Report.note aftermath.state.summary
      return aftermath.state

/-- Write the help sheet of a command, all of it at once. -/
def writeHelp (command : Command) (call : Call) : Report Unit := do
  let sheet ← command.sheet call
  let page ← Report.ofExcept sheet.page
  Report.write .output page

end Command

/-- The command that explains the others. -/
def helpCommand : Command :=
  { label := "Help"
    symbol := .str "help"
    category := .str "MISC"
    description :=
      .str "Get a description and instructions for a command, or the list of commands."
    slots := fun _ => [(.str "COMMAND", .int 1)]
    options := fun _ =>
      [.declared
        { names := .str "COMMAND"
          description := .str "The command for which help is requested."
          cardinality := .known .single }]
    body := .help }

end Handbook
