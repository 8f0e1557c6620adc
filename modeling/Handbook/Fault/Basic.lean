import Handbook.Host
import Handbook.Index

/-!
# Faults

A fault is what a user gets to see when a command line cannot be carried out:
an error, or a warning. It has a message and options; the options start from the
defaults of its class and of the host, and every later setting overrides an
earlier one.
-/

namespace Handbook

/-- The stable codes of faults. -/
inductive FaultCode
  | unknownCommand
  | invalidParameter
  | deprecatedCommand
  deriving DecidableEq, Repr

namespace FaultCode

/-- The number of a code. -/
def number : FaultCode → Nat
  | unknownCommand => 11101
  | invalidParameter => 11111
  | deprecatedCommand => 12101

/-- The name of a code. -/
def name : FaultCode → Text
  | unknownCommand => "UNKNOWN_COMMAND"
  | invalidParameter => "INVALID_PARAMETER"
  | deprecatedCommand => "DEPRECATED_COMMAND"

/-- All codes. -/
def all : List FaultCode :=
  [unknownCommand, invalidParameter, deprecatedCommand]

/-- The code of a name. -/
def ofName? (text : Text) : Option FaultCode :=
  all.find? fun code => code.name == text

/-- The code that a value names. -/
def named (name : Value) : Except Error FaultCode :=
  keyed (fun name => name.text?.bind ofName?) name

/-- How a host shows a code: by its own label, or by the number. -/
def label (code : FaultCode) (host : Host) : Text :=
  match host.codes.find? fun entry => entry.1 == code.number with
  | some entry => entry.2.displayed
  | none => Text.ofNat code.number

end FaultCode

/-- What stands where a fault code is due: a code, or any other value. -/
inductive CodeMark
  | code (code : FaultCode)
  | value (value : Value)

/-- The mark a value gives: the code that it names, or else the value. -/
def CodeMark.ofValue (value : Value) : CodeMark :=
  match value.text?.bind FaultCode.ofName? with
  | some named => .code named
  | none => .value value

/-- The value that gives a mark. -/
def CodeMark.toValue : CodeMark → Value
  | .code named => .str named.name
  | .value other => other

/-- The classes of faults. -/
inductive FaultClass
  | commandError
  | unknownCommand
  | invalidParameter
  | commandWarning
  | deprecatedCommand
  deriving DecidableEq, Repr

namespace FaultClass

/-- The name of a class. -/
def name : FaultClass → Text
  | commandError => "CommandException"
  | unknownCommand => "UnknownCommandError"
  | invalidParameter => "InvalidParameterError"
  | commandWarning => "CommandWarning"
  | deprecatedCommand => "DeprecatedCommandWarning"

/-- All classes. -/
def all : List FaultClass :=
  [commandError, unknownCommand, invalidParameter, commandWarning, deprecatedCommand]

/-- The class of a name. -/
def ofName? (text : Text) : Option FaultClass :=
  all.find? fun kind => kind.name == text

/-- Whether faults of a class warn and let the request go on. -/
def isWarning : FaultClass → Bool
  | commandWarning | deprecatedCommand => true
  | _ => false

/-- The code of a class. -/
def code : FaultClass → CodeMark
  | unknownCommand => .code .unknownCommand
  | invalidParameter => .code .invalidParameter
  | deprecatedCommand => .code .deprecatedCommand
  | commandError | commandWarning => .value .unset

/-- The title of a class. -/
def title : FaultClass → Text
  | commandError => "command error"
  | unknownCommand => "unknown command"
  | invalidParameter => "invalid parameter"
  | commandWarning => "command warning"
  | deprecatedCommand => "deprecated command"

end FaultClass

/-- Where a request writes. -/
inductive Channel
  | output
  | error
  deriving DecidableEq, Repr

/-- Where a fault is printed: a channel, or whatever was given for one. What counts as false
stands for the error channel. -/
inductive Outlet
  | channel (channel : Channel)
  | value (value : Value)

/-- The options of a fault. -/
structure FaultOptions where
  prog : Value
  code : CodeMark
  title : Value
  hint : Value := .str []
  shell : Value := .bool false
  fancy : Value := .bool false
  colorful : Value := .bool false
  deferred : Value := .bool false
  stream : Outlet := .value .none
  extra : List (Text × Value) := []

/-- Settings that override options. -/
structure Overrides where
  prog : Option Value := none
  code : Option CodeMark := none
  title : Option Value := none
  hint : Option Value := none
  shell : Option Value := none
  fancy : Option Value := none
  colorful : Option Value := none
  deferred : Option Value := none
  stream : Option Outlet := none
  extra : List (Text × Value) := []

/-- The entries with one set: in its place if its key is there, else at the end. -/
def setEntry (entries : List (Text × Value)) (entry : Text × Value) : List (Text × Value) :=
  if entries.any fun other => other.1 == entry.1 then
    entries.map fun other => if other.1 = entry.1 then entry else other
  else
    entries ++ [entry]

namespace FaultOptions

/-- The options of a class under a host, before anything is set. -/
def ofClass (kind : FaultClass) (host : Host) : FaultOptions :=
  { prog := host.name, code := kind.code, title := .str kind.title }

/-- The options with settings applied. -/
def override (options : FaultOptions) (overrides : Overrides) : FaultOptions :=
  { prog := overrides.prog.getD options.prog
    code := overrides.code.getD options.code
    title := overrides.title.getD options.title
    hint := overrides.hint.getD options.hint
    shell := overrides.shell.getD options.shell
    fancy := overrides.fancy.getD options.fancy
    colorful := overrides.colorful.getD options.colorful
    deferred := overrides.deferred.getD options.deferred
    stream := overrides.stream.getD options.stream
    extra := overrides.extra.foldl setEntry options.extra }

/-- The options by name, but for the stream: no value gives a channel. -/
def fields (options : FaultOptions) : List (Text × Value) :=
  let own : List (Text × Value) :=
    [("prog", options.prog), ("code", options.code.toValue), ("title", options.title),
      ("hint", options.hint), ("shell", options.shell), ("fancy", options.fancy),
      ("colorful", options.colorful), ("deferred", options.deferred)]
  own ++ options.extra

@[simp] theorem override_empty (options : FaultOptions) : options.override {} = options := by
  cases options
  simp [override]

end FaultOptions

namespace Overrides

/-- The settings with the option of a name set; an unknown name is kept as an extra one. -/
def set (overrides : Overrides) (entry : Text × Value) : Overrides :=
  let value := some entry.2
  match String.ofList entry.1 with
  | "prog" => { overrides with prog := value }
  | "code" => { overrides with code := some (.ofValue entry.2) }
  | "title" => { overrides with title := value }
  | "hint" => { overrides with hint := value }
  | "shell" => { overrides with shell := value }
  | "fancy" => { overrides with fancy := value }
  | "colorful" => { overrides with colorful := value }
  | "deferred" => { overrides with deferred := value }
  | "stream" => { overrides with stream := some (.value entry.2) }
  | _ => { overrides with extra := setEntry overrides.extra entry }

/-- The settings that values give by name. -/
def ofFields (given : List (Text × Value)) : Overrides :=
  given.foldl set {}

/-- Two sets of settings as one, the later winning. -/
def merge (first second : Overrides) : Overrides :=
  { prog := second.prog <|> first.prog
    code := second.code <|> first.code
    title := second.title <|> first.title
    hint := second.hint <|> first.hint
    shell := second.shell <|> first.shell
    fancy := second.fancy <|> first.fancy
    colorful := second.colorful <|> first.colorful
    deferred := second.deferred <|> first.deferred
    stream := second.stream <|> first.stream
    extra := second.extra.foldl setEntry first.extra }

end Overrides

/-- A fault: its class, its message if it has one, and its options. -/
structure Fault where
  kind : FaultClass
  message : Option Text
  options : FaultOptions

namespace Fault

/-- The message that a value is, if it can be one. -/
def checkMessage : Value → Except Error (Option Text)
  | .str text => .ok (some text)
  | .unset => .ok none
  | _ => .error .messageNotText

/-- A new fault. -/
def create
    (host : Host)
    (kind : FaultClass)
    (message : Value)
    (overrides : Overrides) : Except Error Fault :=
  (checkMessage message).map fun message =>
    { kind, message, options := (FaultOptions.ofClass kind host).override overrides }

/-- The text of a fault: its message, or nothing. -/
def text (fault : Fault) : Text :=
  fault.message.getD []

/-- The message as a value. -/
def messageValue (fault : Fault) : Value :=
  match fault.message with
  | some text => .str text
  | none => .unset

/-- The name under which a fault refers to itself; no setting can have it. -/
def reservedName : Text := "self"

/-- The fault with settings applied. -/
def override (fault : Fault) (overrides : Overrides) : Fault :=
  { fault with options := fault.options.override overrides }

/-- The fault with settings applied; settings have names, and none may have the reserved one. -/
def replace
    (fault : Fault)
    (positional : List Value)
    (overrides : Overrides) : Except Error Fault :=
  if overrides.extra.any fun entry => entry.1 == reservedName then
    .error (.reservedOption reservedName)
  else if !positional.isEmpty then
    .error .positionalOverrides
  else
    .ok (fault.override overrides)

/-- The written form of a fault. -/
def written (fault : Fault) : Text :=
  fault.kind.name ++ '(' :: Text.quoted fault.text ++ [')']

end Fault
end Handbook
