import Handbook.Slot.Runs
import Handbook.Value.Column
import Handbook.Value.Equality
import Handbook.Value.Written

/-!
# Parameters

A parameter is a descriptor made ready for a help sheet: its position among the
arguments, its names and how many values it accepts. Parameters are plain
records that a reader may also fill in or change field by field, with any value,
so absence is written into the fields: a position of minus one for a named
option, the character NUL for a missing short name, and minus one for no limit.
-/

namespace Handbook

/-- One line of a help sheet before it is laid out. -/
structure Parameter where
  position : Value := .int (-1)
  required : Value := .bool false
  shortName : Value := .str ['\x00']
  longName : Value := .str []
  description : Value := .str []
  limit : Value := .int 0

namespace Parameter

/-- The position of a parameter that is no argument. -/
def noPosition : Int := -1

/-- The short name of a parameter that has none. -/
def noShortName : Text := ['\x00']

/-- Whether a position tells a parameter apart from the others. -/
def isPosition (position : Value) : Bool :=
  !position.equals (.int noPosition)

@[simp] theorem isPosition_int (position : Int) :
    isPosition (.int position) = decide (position ≠ noPosition) := by
  simp [isPosition]

/-- Whether the parameter is an argument told apart by its position. -/
def isPositional (parameter : Parameter) : Bool :=
  isPosition parameter.position

/-- Whether a short name is one. -/
def isShortName (name : Value) : Bool :=
  !name.equals (.str noShortName)

@[simp] theorem isShortName_str (name : Text) :
    isShortName (.str name) = decide (name ≠ noShortName) := by
  simp [isShortName]

/-- Whether the parameter has a short name. -/
def hasShortName (parameter : Parameter) : Bool :=
  isShortName parameter.shortName

/-- The names of a parameter, a long one set between the given marks when there are two. -/
def namesBetween (parameter : Parameter) (opening closing : Text) : Text :=
  let long := parameter.longName.displayed
  let short := parameter.shortName.displayed
  if !parameter.hasShortName then '-' :: '-' :: long
  else if !parameter.longName.truthy then '-' :: short
  else '-' :: short ++ opening ++ long ++ closing

/-- The name that named parameters are ordered by. -/
def formatName (parameter : Parameter) : Text :=
  parameter.namesBetween " [ --" " ]"

/-- The name that opens the rows of a parameter in its table. -/
def rowName (parameter : Parameter) : Value :=
  if parameter.isPositional then parameter.longName
  else .str (parameter.namesBetween " [--" "]")

theorem formatName_of_long
    {parameter : Parameter}
    (unnamed : parameter.hasShortName = false) :
    parameter.formatName = '-' :: '-' :: parameter.longName.displayed := by
  simp [formatName, namesBetween, unnamed]

theorem rowName_of_positional
    {parameter : Parameter}
    (positional : parameter.isPositional = true) :
    parameter.rowName = parameter.longName := by
  simp [rowName, positional]

/-- The fields of a parameter. -/
inductive Field
  | position
  | required
  | shortName
  | longName
  | description
  | limit
  deriving DecidableEq, Repr

namespace Field

/-- The name of a field. -/
def name : Field → Text
  | position => "position"
  | required => "required"
  | shortName => "short_name"
  | longName => "long_name"
  | description => "description"
  | limit => "args_limit"

/-- All fields, in order. -/
def all : List Field :=
  [position, required, shortName, longName, description, limit]

/-- The field of a name. -/
def ofName? (text : Text) : Option Field :=
  all.find? fun field => field.name == text

/-- The names of what is derived from the fields and cannot be set. -/
def derivedNames : List Text :=
  ["positional", "format_name"]

/-- The names of what all parameters share and none can set. -/
def sharedNames : List Text :=
  ["__module__", "__doc__", "__slots__", "__rich_repr__", "__init__", "__repr__", "__eq__",
    "__hash__", "__delattr__", "__dir__", "__format__", "__ge__", "__getattribute__",
    "__getstate__", "__gt__", "__init_subclass__", "__le__", "__lt__", "__ne__", "__new__",
    "__reduce__", "__reduce_ex__", "__setattr__", "__sizeof__", "__str__", "__subclasshook__"]

/-- The name of the kind of a parameter; only a kind can be set for it, and no value is one. -/
def kindName : Text := "__class__"

/-- The name under which a parameter refers to itself; no field can have it. -/
def reservedName : Text := "self"

end Field

/-- The value of a field. -/
def get (parameter : Parameter) : Field → Value
  | .position => parameter.position
  | .required => parameter.required
  | .shortName => parameter.shortName
  | .longName => parameter.longName
  | .description => parameter.description
  | .limit => parameter.limit

/-- The parameter with one field changed. -/
def set (parameter : Parameter) (field : Field) (value : Value) : Parameter :=
  match field with
  | .position => { parameter with position := value }
  | .required => { parameter with required := value }
  | .shortName => { parameter with shortName := value }
  | .longName => { parameter with longName := value }
  | .description => { parameter with description := value }
  | .limit => { parameter with limit := value }

/-- Why nothing can be set under a name that is no field's. -/
def refusal (name : Text) (value : Value) : Error :=
  if Field.derivedNames.contains name then .fieldDerived name
  else if Field.sharedNames.contains name then .fieldShared name
  else if name = Field.kindName then .notKind value.kind
  else .noAttribute "Parameter" name

/-- The parameter with the field that a value names changed. -/
def assign (parameter : Parameter) (name value : Value) : Except Error Parameter :=
  match name with
  | .str text =>
      match Field.ofName? text with
      | some field => .ok (parameter.set field value)
      | none => .error (refusal text value)
  | other => .error (.fieldNameNotText other.kind)

/-- The parameter with the given fields, and the default in every other one. -/
def ofFields (given : List (Text × Value)) : Except Error Parameter :=
  given.foldlM
    (fun parameter entry =>
      match Field.ofName? entry.1 with
      | some field => .ok (parameter.set field entry.2)
      | none =>
          if entry.1 = Field.reservedName then .error (.fieldReserved entry.1)
          else .error (.fieldUnknown entry.1))
    {}

/-- The stored fields of a parameter, by name. -/
def fields (parameter : Parameter) : List (Text × Value) :=
  Field.all.map fun field => (field.name, parameter.get field)

/-- Whether two parameters are equal, field by field. -/
def equals (left right : Parameter) : Bool :=
  Field.all.all fun field => (left.get field).equals (right.get field)

/-- The written form of a parameter. -/
def written (parameter : Parameter) : Text :=
  let shown := parameter.fields ++ [("format_name".toList, .str parameter.formatName)]
  Value.enclosed "parameter(" [')']
    (shown.map fun field => field.1 ++ '=' :: field.2.written)

end Parameter
end Handbook
