import Handbook.Command.Registry
import Handbook.Similarity
import Handbook.Value.Snapshot

/-!
# Displays

What a tool tells its user about itself and about a command line that cannot be
carried out. Lists go to the output; faults go to the error channel in shell
mode and are raised or issued otherwise.
-/

namespace Handbook

namespace Settings

/-- The settings with the application's name settled. -/
def resolve (settings : Settings) (host : Host) : Settings :=
  { settings with application := host.applicationName settings.application }

/-- The settings of a fault that is reported on the error channel. -/
def overrides (settings : Settings) (hint : Option Text) (deferred : Option Bool) : Overrides :=
  { prog := some settings.application
    hint := hint.map .str
    shell := some settings.shell
    colorful := some settings.colorful
    deferred := deferred.map .bool
    stream := some (.channel .error) }

end Settings

/-- Make a fault and surface it. -/
def reportFault
    (host : Host)
    (kind : FaultClass)
    (message : Value)
    (overrides : Overrides) : Report Unit := do
  let fault ← Report.ofExcept (Fault.create host kind message {})
  trigger host (.item fault) overrides

namespace Registry

/-- Write the symbols of the commands that are not hidden, one a line. -/
def displayNames (registry : Registry) (host : Host) : Report Unit :=
  registry.broadcast host {} fun invocation =>
    if invocation.command.hidden then Report.done ()
    else Report.write .output (invocation.call.symbol ++ ['\n'])

/-- Write how the tool is used, and its commands. -/
def displayUsage (registry : Registry) (host : Host) (settings : Settings) : Report Unit := do
  let name := (settings.resolve host).application.displayed
  Report.write .output ("\nUsage: " ++ name ++ " COMMAND [--help]\n")
  Report.write .output ("\nInfo: The " ++ name ++ " commands are:\n\n")
  registry.displayNames host

/-- The hint that names a symbol. -/
def suggestion (symbol : Text) : Text :=
  "did you mean '" ++ symbol ++ "'?"

/-- The single characters that a value yields, in order; whatever else it yields stands for a
letter that is like no other. All of it must be fit for keys. -/
def letters (word : Value) : Except Error (List (Option Char)) :=
  match word.members? with
  | none => .error (.notIterable word.kind)
  | some members =>
      match Value.unhashableKind?.unhashableItem? members with
      | some kind => .error (.unhashable kind)
      | none =>
          .ok (members.map fun member =>
            match member with
            | .str [letter] => some letter
            | _ => none)

/-- The hint for a word that is no symbol; empty when no symbol is similar. A word that yields
letters but has none at a place is refused where one is looked up. -/
def hint (registry : Registry) (word : Value) : Except Error Text := do
  let letters ← letters word
  if !word.hasPlaces then
    if let some place := Similarity.firstLookedUp? registry.symbols letters then
      let _ ← word.part (.int place)
  match Similarity.closest? registry.symbols letters with
  | some symbol => return suggestion symbol
  | none => return []

/-- Report a symbol that is not registered. -/
def displayInvalidCommand
    (registry : Registry)
    (host : Host)
    (settings : Settings)
    (word : Value) : Report Unit := do
  let resolved := settings.resolve host
  let name := resolved.application.displayed
  let hint ← Report.ofExcept (registry.hint word)
  let message :=
    Error.marked word.displayed ++ " is not a " ++ name ++ " command. Enter '" ++ name ++
      " help' for a list of commands."
  reportFault host .unknownCommand (.str message)
    (resolved.overrides (some hint) (some true))

end Registry

/-- Report a former symbol and the present one. -/
def displayDeprecatedCommand
    (host : Host)
    (settings : Settings)
    (former current : Value) : Report Unit :=
  let resolved := settings.resolve host
  let name := resolved.application.displayed
  let message :=
    "The " ++ Error.marked former.displayed ++ " command has been replaced by " ++
      Error.marked current.displayed ++ ['.']
  let hint := "enter '" ++ name ++ ' ' :: current.displayed ++ " --help' for its instructions"
  reportFault host .deprecatedCommand (.str message) (resolved.overrides (some hint) none)

/-- Report something wrong with the parameters of a command. -/
def displayInvalidParameter
    (host : Host)
    (settings : Settings)
    (message : Value) : Report Unit :=
  reportFault host .invalidParameter message
    ((settings.resolve host).overrides none (some true))

end Handbook
