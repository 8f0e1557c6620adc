import Handbook.Descriptor.Basic
import Handbook.Parameter
import Handbook.Value.Sum

/-!
# Classification

A descriptor whose long name is bound to a position of the command is a
positional argument; any other one is a named option. Each of the four answers a
classifier gives can be pinned to a constant, which then replaces the rule.
-/

namespace Handbook

/-- A name and the number of positions bound to it, one after another. Neither is checked. -/
structure Binding where
  name : Value
  count : Value

/-- The binding of a run. -/
def Run.binding (run : Run) : Binding :=
  ⟨.str run.name, .int run.count⟩

@[simp] theorem Run.binding_name (run : Run) : run.binding.name = .str run.name := rfl

@[simp] theorem Run.binding_count (run : Run) : run.binding.count = .int run.count := rfl

/-- The number of values that a binding accepts. -/
def Binding.limit (binding : Binding) : Value :=
  if binding.count.equals (.int unboundedCount) then .int unboundedCount else binding.count

@[simp] theorem Run.limit_binding (run : Run) : run.binding.limit = .int run.count := by
  by_cases unbounded : run.count = unboundedCount <;> simp [Binding.limit, unbounded]

/-- The first position bound to a name, counted from an offset: the sum of the counts of all
bindings before it. -/
def positionIn (name offset : Value) : List Binding → Except Error Value
  | [] => .ok (.int Parameter.noPosition)
  | binding :: rest =>
      if binding.name.equals name then .ok offset
      else (offset.plus binding.count).bind fun next => positionIn name next rest

/-- The number of values that a cardinality accepts. -/
def Cardinality.limit : Cardinality → Int
  | toggle => 0
  | single => 1
  | defaulted => 1
  | multiple => unboundedCount

/-- Whether a cardinality can be required: it takes a value and has no default. -/
def Cardinality.canBeRequired : Cardinality → Bool
  | toggle => false
  | single => true
  | defaulted => false
  | multiple => true

namespace Descriptor

/-- Whether a descriptor has a name, long or short. -/
def isNamed (descriptor : Descriptor) : Except Error Bool := do
  let longName ← descriptor.longName.read
  if longName.truthy then return true
  let shortName ← descriptor.shortName.read
  return shortName.truthy

/-- The first position bound to the long name of a descriptor. -/
def positionAmong (descriptor : Descriptor) (bindings : List Binding) : Except Error Value :=
  if bindings.isEmpty then .ok (.int Parameter.noPosition)
  else do positionIn (← descriptor.longName.read) (.int 0) bindings

/-- The short name of a descriptor, or the mark of one that has none. -/
def markedShortName (descriptor : Descriptor) : Except Error Value := do
  let name ← descriptor.shortName.read
  return if name.truthy then name else .str Parameter.noShortName

/-- Whether a descriptor must be given. -/
def mustBeGiven (descriptor : Descriptor) : Except Error Value := do
  let required ← descriptor.required.read
  return if required.truthy then .bool descriptor.cardinality.canBeRequired else required

/-- The number of values of a descriptor: for a positional one the count that its long name is
bound to, for a named one what its cardinality accepts. -/
def limitAmong
    (descriptor : Descriptor)
    (positional : Bool)
    (bindings : List Binding) : Except Error Value :=
  let own := Value.int descriptor.cardinality.limit
  if !positional || bindings.isEmpty then .ok own
  else do
    let name ← descriptor.longName.read
    match bindings.find? fun binding => binding.name.equals name with
    | some binding => return binding.limit
    | none => return own

end Descriptor

/-- The rules that make parameters out of descriptors, some of them pinned to a constant. -/
structure Classifier where
  pinnedPosition : Option Value := none
  pinnedShortName : Option Value := none
  pinnedRequired : Option Value := none
  pinnedLimit : Option Value := none

namespace Classifier

/-- The constant that a rule is pinned to, or else the answer of the rule. -/
def answer (pinned : Option Value) (rule : Except Error Value) : Except Error Value :=
  match pinned with
  | some constant => .ok constant
  | none => rule

@[simp] theorem answer_none (rule : Except Error Value) : answer none rule = rule := rfl

/-- The position of a descriptor among the bindings. -/
def position
    (classifier : Classifier)
    (descriptor : Descriptor)
    (bindings : List Binding) : Except Error Value :=
  answer classifier.pinnedPosition (descriptor.positionAmong bindings)

/-- The short name of a descriptor. -/
def shortName (classifier : Classifier) (descriptor : Descriptor) : Except Error Value :=
  answer classifier.pinnedShortName descriptor.markedShortName

/-- Whether a descriptor must be given. -/
def required (classifier : Classifier) (descriptor : Descriptor) : Except Error Value :=
  answer classifier.pinnedRequired descriptor.mustBeGiven

/-- The number of values of a descriptor at a position. -/
def limit
    (classifier : Classifier)
    (position : Value)
    (descriptor : Descriptor)
    (bindings : List Binding) : Except Error Value :=
  answer classifier.pinnedLimit
    (descriptor.limitAmong (Parameter.isPosition position) bindings)

/-- The parameter of a descriptor. -/
def classifyDescriptor
    (classifier : Classifier)
    (descriptor : Descriptor)
    (bindings : List Binding) : Except Error Parameter := do
  if !(← descriptor.isNamed) then throw .classifiedNameless
  let position ← classifier.position descriptor bindings
  let required ← classifier.required descriptor
  let shortName ← classifier.shortName descriptor
  let longName ← descriptor.longName.read
  let description ← descriptor.description.read
  let limit ← classifier.limit position descriptor bindings
  return { position, required, shortName, longName, description, limit }

/-- The parameter of what was offered, if that is a descriptor. -/
def classify
    (classifier : Classifier)
    (offered : Offered Descriptor)
    (bindings : List Binding) : Except Error Parameter :=
  match offered with
  | .foreign => .error .classifiedNotDescriptor
  | .item descriptor => classifier.classifyDescriptor descriptor bindings

@[simp] theorem classify_item
    (classifier : Classifier)
    (descriptor : Descriptor)
    (bindings : List Binding) :
    classifier.classify (.item descriptor) bindings =
      classifier.classifyDescriptor descriptor bindings := rfl

end Classifier
end Handbook
