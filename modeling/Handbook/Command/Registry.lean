import Handbook.Command.Basic
import Handbook.Text.Blank
import Handbook.Value.Equality

/-!
# Registries

The commands of a tool by their symbols. A command may have gone by another
symbol before; no former symbol is in use, and none belongs to two commands.
Each call gets an instance of its own.
-/

namespace Handbook

/-- The registered commands, in order of registration. -/
structure Registry where
  entries : List (Text × Command) := []

/-- A command about to run: the command itself and the call. -/
structure Invocation where
  command : Command
  call : Call

namespace Registry

/-- The command of a symbol. -/
def lookup (registry : Registry) (symbol : Text) : Option Command :=
  (registry.entries.find? fun entry => entry.1 == symbol).map (·.2)

/-- Whether a symbol is registered. -/
def contains (registry : Registry) (symbol : Text) : Bool :=
  registry.entries.any fun entry => entry.1 == symbol

/-- Whether a command went by a former symbol. -/
def wentBy (command : Command) (former : Value) : Bool :=
  !command.formerly.isUnset && command.formerly.equals former

/-- The present symbol of the command that went by a former one. -/
def formerly (registry : Registry) (former : Value) : Option Text :=
  (registry.entries.find? fun entry => wentBy entry.2 former).map (·.1)

/-- The symbols in ascending order. -/
def symbols (registry : Registry) : List Text :=
  (registry.entries.map (·.1)).mergeSort fun first second => !decide (second < first)

/-- The number of commands. -/
def size (registry : Registry) : Nat :=
  registry.entries.length

/-- The symbol of a command that has one. -/
def checkSymbol (command : Command) : Except Error Text :=
  match command.symbol with
  | .str symbol =>
      if (Text.trim symbol).isEmpty then .error (.symbolMissing command.label) else .ok symbol
  | _ => .error (.symbolMissing command.label)

/-- Whether a former symbol is that of a registered command, present or former. -/
def isTaken (registry : Registry) (former : Value) : Bool :=
  (former.text?.any registry.contains) || (registry.formerly former).isSome

/-- The former symbol of a command must be one that can be looked up, and must not be taken. -/
def checkFormer (registry : Registry) (command : Command) : Except Error Unit :=
  if command.formerly.isUnset then .ok ()
  else
    match command.formerly.unhashableKind? with
    | some kind => .error (.unhashable kind)
    | none =>
        if registry.isTaken command.formerly then .error (.formerSymbolInUse command.formerly)
        else .ok ()

/-- The registry with a command added, unless one of its symbols is taken. -/
def insert (registry : Registry) (command : Command) : Except Error Registry := do
  let symbol ← checkSymbol command
  if registry.isTaken (.str symbol) then
    .error (.symbolInUse symbol)
  registry.checkFormer command
  return ⟨registry.entries ++ [(symbol, command)]⟩

/-- The registry with what was offered added, if that is a command. -/
def register (registry : Registry) : Offered Command → Except Error Registry
  | .foreign => .error .notCommand
  | .item command => registry.insert command

@[simp] theorem register_item (registry : Registry) (command : Command) :
    registry.register (.item command) = registry.insert command := rfl

/-- The registry with several commands registered in order, the first refused one ending it. -/
def registerAll (registry : Registry) (commands : List Command) : Except Error Registry :=
  commands.foldlM (fun current command => current.register (.item command)) registry

@[simp] theorem registerAll_nil (registry : Registry) : registry.registerAll [] = .ok registry :=
  rfl

/-- The registry after something was offered to it; what is refused leaves it as it was. -/
def attempt (registry : Registry) (offered : Offered Command) : Registry :=
  (registry.register offered).toOption.getD registry

/-- The registry after several offers, the refused ones among them. -/
def attemptAll (registry : Registry) (offers : List (Offered Command)) : Registry :=
  offers.foldl attempt registry

/-- The text that a value is as a symbol, if it is one; what is unfit for a key is refused. -/
def symbolOf (value : Value) : Except Error (Option Text) :=
  match value.unhashableKind? with
  | some kind => .error (.unhashable kind)
  | none => .ok value.text?

@[simp] theorem symbolOf_str (symbol : Text) : symbolOf (.str symbol) = .ok (some symbol) := rfl

/-- Whether a value is a registered symbol. -/
def holds (registry : Registry) (symbol : Value) : Except Error Bool :=
  (symbolOf symbol).map fun text => text.any registry.contains

/-- The tokens that a value yields. -/
def tokensOf (tokens : Value) : Except Error (List Value) :=
  match tokens.members? with
  | some members => .ok members
  | none => .error (.notIterable tokens.kind)

@[simp] theorem tokensOf_list (tokens : List Value) : tokensOf (.list tokens) = .ok tokens := rfl

/-- A new instance of a command, for one call; a command without a body has no instances. -/
def instantiate
    (command : Command)
    (host : Host)
    (settings : Settings)
    (symbol : Text)
    (tokens : Value) : Except Error Invocation :=
  match command.body with
  | .missing => .error (.bodyMissing command.label)
  | _ =>
      (tokensOf tokens).map fun tokens =>
        let application := host.applicationName settings.application
        ⟨command, ⟨host, symbol, tokens, { settings with application }⟩⟩

/-- A new instance of the command of a symbol, for one call. -/
def find
    (registry : Registry)
    (host : Host)
    (settings : Settings)
    (symbol tokens : Value) : Except Error (Option Invocation) := do
  match ← symbolOf symbol with
  | none => return none
  | some text =>
      match registry.lookup text with
      | none => return none
      | some command => return some (← instantiate command host settings text tokens)

/-- A new instance of every command, in order of symbols. -/
def instances
    (registry : Registry)
    (host : Host)
    (settings : Settings) : Except Error (List Invocation) :=
  (registry.symbols.mapM fun symbol =>
    registry.find host settings (.str symbol) (.list [])).map fun found => found.filterMap id

/-- Hand an instance of every command to an action, in order of symbols. -/
def broadcast
    (registry : Registry)
    (host : Host)
    (settings : Settings)
    (action : Invocation → Report Unit) : Report Unit :=
  Report.forEach
    (fun symbol => do
      match ← Report.ofExcept (registry.find host settings (.str symbol) (.list [])) with
      | some invocation => action invocation
      | none => Report.done ())
    registry.symbols

/-- The registry that holds the help command only. -/
def withHelp : Registry :=
  ⟨[("help", helpCommand)]⟩

end Registry
end Handbook
