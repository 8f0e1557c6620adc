import Handbook.Error
import Handbook.Text.Blank
import Handbook.Value.Snapshot

/-!
# Descriptors

A descriptor is one declared parameter of a command: its names, its description
and how many values it takes. A declaration is checked once, here; afterwards
names are trimmed, free of commas, and not both empty, and a default is there
exactly for the descriptors that fall back on one. A draft is filled in past
these checks, with any values. Whether the parameter is a named option or a
positional argument is decided later, against the slots.
-/

namespace Handbook

/-- How many values one occurrence of an option takes. -/
inductive Cardinality
  | toggle
  | single
  | defaulted
  | multiple
  deriving DecidableEq, Repr

namespace Cardinality

/-- The name of a cardinality. -/
def name : Cardinality → Text
  | toggle => "TOGGLE"
  | single => "SINGLE"
  | defaulted => "DEFAULTED"
  | multiple => "MULTIPLE"

/-- The number of a cardinality. -/
def code : Cardinality → Nat
  | toggle => 0
  | single => 1
  | defaulted => 2
  | multiple => 3

/-- All cardinalities, in order of their numbers. -/
def all : List Cardinality :=
  [toggle, single, defaulted, multiple]

/-- The cardinality of a name. -/
def ofName? (text : Text) : Option Cardinality :=
  all.find? fun cardinality => cardinality.name == text

/-- The cardinality that a value names. -/
def named (name : Value) : Except Error Cardinality :=
  keyed (fun name => name.text?.bind ofName?) name

/-- The written form of a cardinality. -/
def written (cardinality : Cardinality) : Text :=
  "<Cardinality." ++ cardinality.name ++ ": " ++ Text.ofNat cardinality.code ++ ['>']

end Cardinality

/-- A declared parameter of a command. Readers of a field get a snapshot of it. -/
structure Descriptor where
  longName : Value
  shortName : Value
  description : Value
  cardinality : Cardinality
  default : Value
  required : Value

/-- The long and the short name in a text such as `long,s`; either side may be empty. -/
def splitNames (names : Text) : Except Error (Text × Text) :=
  let long := Text.trim (names.takeWhile (· ≠ ','))
  let short := Text.trim ((names.dropWhile (· ≠ ',')).drop 1)
  if short.contains ',' then .error .severalShortNames
  else if 1 < short.length then .error .shortNameTooLong
  else if long.isEmpty && short.isEmpty then .error .noName
  else .ok (long, short)

/-- A cardinality as it is declared: one of the four, or some other value. -/
inductive DeclaredCardinality
  | known (cardinality : Cardinality)
  | value (value : Value)

/-- A parameter as it is declared, nothing about it checked. -/
structure Declaration where
  names : Value
  description : Value := .str []
  cardinality : DeclaredCardinality := .value .unset
  default : Value := .unset
  required : Value := .bool false

namespace Declaration

/-- The declared names, split. -/
def checkNames (declaration : Declaration) : Except Error (Text × Text) :=
  match declaration.names with
  | .str names => splitNames names
  | _ => .error .namesNotText

/-- The declared description. -/
def checkDescription (declaration : Declaration) : Except Error Text :=
  match declaration.description with
  | .str description => .ok description
  | _ => .error .descriptionNotText

/-- Whether a default is declared. -/
def hasDefault (declaration : Declaration) : Bool :=
  !declaration.default.isUnset

/-- The declared cardinality: without one, an option with a default is defaulted and any other
a toggle. -/
def checkKnownCardinality (declaration : Declaration) : Except Error Cardinality :=
  match declaration.cardinality with
  | .known cardinality => .ok cardinality
  | .value .unset =>
      .ok (if declaration.hasDefault then .defaulted else .toggle)
  | .value _ => .error .notCardinality

/-- The cardinality that fits the default: a single value with a default is the defaulted form,
which needs one, and no other form may have one. -/
def fitCardinality (cardinality : Cardinality) (hasDefault : Bool) : Except Error Cardinality :=
  match cardinality, hasDefault with
  | .toggle, false => .ok .toggle
  | .toggle, true => .error .defaultNotAllowed
  | .single, false => .ok .single
  | .single, true => .ok .defaulted
  | .defaulted, false => .error .defaultMissing
  | .defaulted, true => .ok .defaulted
  | .multiple, false => .ok .multiple
  | .multiple, true => .error .defaultNotAllowed

/-- The declared requirement. -/
def checkRequired (declaration : Declaration) : Except Error Bool :=
  match declaration.required with
  | .bool required => .ok required
  | _ => .error .requiredNotTruth

/-- The descriptor of a declaration, or the first thing wrong with it. -/
def check (declaration : Declaration) : Except Error Descriptor := do
  let (longName, shortName) ← declaration.checkNames
  let description ← declaration.checkDescription
  let known ← declaration.checkKnownCardinality
  let cardinality ← fitCardinality known declaration.hasDefault
  let required ← declaration.checkRequired
  return {
    longName := .str longName
    shortName := .str shortName
    description := .str description
    cardinality
    default := declaration.default
    required := .bool required }

end Declaration

namespace Descriptor

/-- The fields of a descriptor as they are filled in past all checks. Only the cardinality must
be one, and is given by its name. -/
structure Draft where
  longName : Value := .str []
  shortName : Value := .str []
  description : Value := .str []
  cardinality : Value := .str Cardinality.toggle.name
  default : Value := .unset
  required : Value := .bool false

/-- The descriptor of a draft. -/
def Draft.fill (draft : Draft) : Except Error Descriptor :=
  (Cardinality.named draft.cardinality).map fun cardinality =>
    { longName := draft.longName
      shortName := draft.shortName
      description := draft.description
      cardinality
      default := draft.default
      required := draft.required }

/-- What a reader of all fields gets of a descriptor. -/
def read (descriptor : Descriptor) : Except Error Descriptor := do
  let longName ← descriptor.longName.read
  let shortName ← descriptor.shortName.read
  let description ← descriptor.description.read
  let default ← descriptor.default.read
  let required ← descriptor.required.read
  return { longName, shortName, description, cardinality := descriptor.cardinality, default,
           required }

/-- The written form of a descriptor. -/
def written (descriptor : Descriptor) : Except Error Text :=
  descriptor.read.map fun copy =>
    "option-metadata(long_name=" ++ copy.longName.written ++
      ", short_name=" ++ copy.shortName.written ++
      ", description=" ++ copy.description.written ++
      ", cardinality=" ++ copy.cardinality.written ++
      ", default=" ++ copy.default.written ++
      ", required=" ++ copy.required.written ++ [')']

end Descriptor
end Handbook
