import Handbook.Value.Written

/-!
# Errors

Every cause for which the library refuses a request, with its wording in one
place. The kind of an error tells callers how to react to it; the message tells
a reader what was wrong.
-/

namespace Handbook

/-- The cause of a refusal. -/
inductive Error
  -- values
  | unhashable (kind : Text)
  | notCombinable (sign left right : Text)
  | wholeTooLarge
  | sealedKind
  | notExchangeable (kind : Text)
  | keyNotExchangeable (kind : Text)
  | indexOutOfRange (container : Text)
  | indexTooLarge
  | notIndex (container kind : Text)
  | notTextIndex (kind : Text)
  | notSubscriptable (kind : Text)
  | keyMissing (key : Value)
  | notComparable (sign left right : Text)
  | notPaddable (kind : Text)
  | notJoinable (place : Nat) (kind : Text)
  | notAttachable (kind : Text)
  | notAppendable
  | bytesDue (kind : Text)
  | patternNotForBytes
  | digitsMissing
  | tooManyDigits (given : Nat)
  | notInteger (kind : Text)
  | byteOutOfRange
  | bufferByteOutOfRange
  | rangeStepZero
  | rangeArity (given : Nat)
  | rangeNotSpread (kind : Text)
  | encodingMissing
  | lengthNegative
  | lengthTooLarge
  | notConvertible (kind goal : Text)
  | notCallable (kind : Text)
  | nothingToDivide
  -- names of callables and properties
  | targetNotCallable
  | newNameNotText
  | decoratorNameNotText
  | decoratedNotCallable
  | notRenamable
  | typeNameHasNul
  | renameArity (given : Nat)
  | propertyNameNotText
  -- descriptors and their table
  | namesNotText
  | severalShortNames
  | shortNameTooLong
  | noName
  | descriptionNotText
  | notCardinality
  | defaultMissing
  | defaultNotAllowed
  | requiredNotTruth
  | notDescriptor
  | notIterable (kind : Text)
  | longNameInUse (name : Value)
  | shortNameInUse (name : Value)
  -- slots
  | slotNameNotText
  | slotNameBlank
  | slotCountNotInteger
  | slotCountNegative
  | slotAfterUnbounded (name : Text)
  | positionNegative
  | positionOutOfRange (position : Value)
  | countTooLarge
  | limitNotNatural
  -- classification
  | classifiedNotDescriptor
  | classifiedNameless
  -- parameters
  | fieldUnknown (name : Text)
  | fieldReserved (name : Text)
  | fieldDerived (name : Text)
  | fieldShared (name : Text)
  | notKind (kind : Text)
  | fieldNameNotText (kind : Text)
  -- sheets
  | sheetTextExpected (label : Text)
  | slotTableExpected
  | optionTableExpected
  -- faults
  | messageNotText
  | positionalOverrides
  | reservedOption (name : Text)
  | noAttribute (kind part : Text)
  | notTriggerable
  -- logging
  | unknownLevel (name : Text)
  | notLevel (value : Value)
  -- commands
  | notCommand
  | labelNotText (kind : Text)
  | symbolMissing (label : Text)
  | symbolInUse (symbol : Text)
  | formerSymbolInUse (former : Value)
  | bodyMissing (label : Text)
  | bodyNotImplemented

namespace Error

/-- How a caller should understand an error. -/
inductive Kind
  | wrongKind
  | badValue
  | badIndex
  | missingKey
  | tooLarge
  | brokenAssumption
  | noAttribute
  | divisionByZero
  | notImplemented
  deriving DecidableEq, Repr

/-- The kind of an error. -/
def kind : Error → Kind
  | indexOutOfRange _ | indexTooLarge | positionNegative | positionOutOfRange _ => .badIndex
  | keyMissing _ => .missingKey
  | countTooLarge | wholeTooLarge | lengthTooLarge => .tooLarge
  | nothingToDivide => .divisionByZero
  | messageNotText | positionalOverrides => .brokenAssumption
  | noAttribute .. | fieldDerived _ | fieldShared _ => .noAttribute
  | bodyNotImplemented => .notImplemented
  | byteOutOfRange | bufferByteOutOfRange | rangeStepZero | lengthNegative
  | digitsMissing | tooManyDigits _
  | limitNotNatural
  | typeNameHasNul
  | severalShortNames | shortNameTooLong | noName | defaultMissing | defaultNotAllowed
  | longNameInUse _ | shortNameInUse _
  | slotNameBlank | slotCountNegative | slotAfterUnbounded _
  | classifiedNameless
  | unknownLevel _
  | symbolInUse _ | formerSymbolInUse _ => .badValue
  | _ => .wrongKind

/-- A text in single marks, as it is. -/
def marked (text : Text) : Text :=
  '\x27' :: text ++ ['\x27']

/-- The wording of an error. -/
def message : Error → Text
  | unhashable kind => "unhashable type: " ++ marked kind
  | notCombinable sign left right =>
      "unsupported operand type(s) for " ++ sign ++ ": " ++ marked left ++ " and " ++
        marked right
  | wholeTooLarge => "int too large to convert to float"
  | sealedKind => "type 'UnsetType' is not an acceptable base type"
  | notExchangeable kind => "Object of type " ++ kind ++ " is not JSON serializable"
  | keyNotExchangeable kind => "keys must be str, int, float, bool or None, not " ++ kind
  | indexOutOfRange container =>
      (if container.isEmpty then [] else container ++ [' ']) ++ "index out of range"
  | indexTooLarge => "cannot fit 'int' into an index-sized integer"
  | notIndex container kind =>
      container ++ " indices must be integers or slices, not " ++ kind
  | notTextIndex kind => "string indices must be integers, not " ++ marked kind
  | notSubscriptable kind => marked kind ++ " object is not subscriptable"
  | keyMissing key => key.written
  | notComparable sign left right =>
      marked sign ++ " not supported between instances of " ++ marked left ++ " and " ++
        marked right
  | notPaddable kind => "unsupported format string passed to " ++ kind ++ ".__format__"
  | notJoinable place kind =>
      "sequence item " ++ Text.ofNat place ++ ": expected str instance, " ++ kind ++ " found"
  | notAttachable kind =>
      "can only concatenate str (not \"" ++ kind ++ "\") to str"
  | notAppendable => "Only str or Text can be appended to Text"
  | patternNotForBytes => "cannot use a string pattern on a bytes-like object"
  | bytesDue kind => "a bytes-like object is required, not " ++ marked kind
  | notInteger kind => marked kind ++ " object cannot be interpreted as an integer"
  | byteOutOfRange => "bytes must be in range(0, 256)"
  | bufferByteOutOfRange => "byte must be in range(0, 256)"
  | rangeStepZero => "range() arg 3 must not be zero"
  | rangeArity given =>
      if given = 0 then "range expected at least 1 argument, got 0"
      else "range expected at most 3 arguments, got " ++ Text.ofNat given
  | rangeNotSpread kind => "range() argument after * must be an iterable, not " ++ kind
  | encodingMissing => "string argument without an encoding"
  | lengthNegative => "negative count"
  | lengthTooLarge => "cannot fit 'int' into an index-sized integer"
  | notConvertible kind goal => "cannot convert " ++ marked kind ++ " object to " ++ goal
  | notCallable kind => marked kind ++ " object is not callable"
  | digitsMissing => "invalid literal for int() with base 10: ''"
  | tooManyDigits given =>
      "Exceeds the limit (4300 digits) for integer string conversion: value has " ++
        Text.ofNat given ++ " digits; use sys.set_int_max_str_digits() to increase the limit"
  | nothingToDivide => "division by zero"
  | targetNotCallable => "rename() first argument must be callable"
  | newNameNotText => "rename() second argument must be a string"
  | decoratorNameNotText => "@rename() argument must be a string"
  | decoratedNotCallable => "@rename() must be applied to a callable"
  | notRenamable => "rename() first argument must be a updatable callable"
  | typeNameHasNul => "type name must not contain null characters"
  | renameArity given =>
      "rename takes 1 to 2 arguments but " ++ Text.ofNat given ++ " were given"
  | propertyNameNotText => "mirror() argument must be a string"
  | namesNotText => "option-metadata names must be a string"
  | severalShortNames => "option-metadata names accept at most one short name"
  | shortNameTooLong => "option-metadata short name must be a single character"
  | noName => "option-metadata must specify a long or a short name"
  | descriptionNotText => "option-metadata 'description' must be a string"
  | notCardinality => "option-metadata 'cardinality' must be a cardinality"
  | defaultMissing => "option-metadata 'default' is mandatory for defaulted options"
  | defaultNotAllowed => "option-metadata 'default' is only allowed for single-valued options"
  | requiredNotTruth => "option-metadata 'required' must be a boolean"
  | notDescriptor => "options-metadata items must be option metadata"
  | notIterable kind => marked kind ++ " object is not iterable"
  | longNameInUse name =>
      "options-metadata long name " ++ name.written ++ " is already in use"
  | shortNameInUse name =>
      "options-metadata short name " ++ name.written ++ " is already in use"
  | slotNameNotText => "arguments-metadata names must be strings"
  | slotNameBlank => "arguments-metadata names cannot be empty-strings"
  | slotCountNotInteger => "arguments-metadata counts must be integers"
  | slotCountNegative => "arguments-metadata counts must be positive, zero, or -1 for unbounded"
  | slotAfterUnbounded name =>
      "arguments-metadata cannot add " ++ Text.quoted name ++ " after an unbounded argument"
  | positionNegative => "arguments-metadata position must not be negative"
  | positionOutOfRange position =>
      "arguments-metadata position " ++ position.displayed ++ " is out of range"
  | countTooLarge => "Python int too large to convert to C ssize_t"
  | limitNotNatural =>
      "Stop argument for islice() must be None or an integer: 0 <= x <= sys.maxsize."
  | classifiedNotDescriptor => "classify() first argument must be option metadata"
  | classifiedNameless => "classify() option must have a long or a short name"
  | fieldUnknown name =>
      "Parameter.__init__() got an unexpected keyword argument " ++ marked name
  | fieldReserved name =>
      "Parameter.__init__() got multiple values for argument " ++ marked name
  | fieldDerived name => "property " ++ marked name ++ " of 'Parameter' object has no setter"
  | fieldShared name => "'Parameter' object attribute " ++ marked name ++ " is read-only"
  | notKind kind => "__class__ must be set to a class, not " ++ marked kind ++ " object"
  | fieldNameNotText kind => "attribute name must be string, not " ++ marked kind
  | sheetTextExpected label => "printer " ++ Text.quoted label ++ " must be a string"
  | slotTableExpected => "printer 'arguments' must be arguments metadata"
  | optionTableExpected => "printer 'options' must be options metadata"
  | messageNotText => []
  | positionalOverrides => "positional arguments are not allowed"
  | reservedOption name =>
      "_Fault.__replace__() got multiple values for argument " ++ marked name
  | noAttribute kind part =>
      marked kind ++ " object has no attribute " ++ marked part
  | notTriggerable => "trigger() argument must have a __trigger__ and __replace__ methods"
  | unknownLevel name => "Unknown level: " ++ Text.quoted name
  | notLevel value => "Level not an integer or a valid string: " ++ value.written
  | notCommand => "register() argument must be a command class"
  | labelNotText kind => "type.__new__() argument 1 must be str, not " ++ kind
  | symbolMissing label => "command " ++ Text.quoted label ++ " must declare a non-empty symbol"
  | symbolInUse symbol => "command symbol " ++ Text.quoted symbol ++ " is already in use"
  | formerSymbolInUse former =>
      "command former symbol " ++ former.written ++ " is already in use"
  | bodyMissing label =>
      "Can't instantiate abstract class " ++ label ++ " with abstract method invoke"
  | bodyNotImplemented => []

end Error

/-- What is handed in where an item of a kind is due: such an item, or something else. -/
inductive Offered (Item : Type)
  | item (item : Item)
  | foreign

/-- What an operation that can fail half-way leaves behind: the state it reached, and the
error that ended it, if one did. -/
structure Aftermath (State : Type) where
  state : State
  failure : Option Error

namespace Aftermath

/-- Whether the operation came to its end. -/
def succeeded {State : Type} (aftermath : Aftermath State) : Bool :=
  aftermath.failure.isNone

end Aftermath
end Handbook
