import Handbook.Error

/-!
# Renaming callables

A callable that is made by the library carries the name of the property it
stands for. Giving a name in place needs a callable whose name can be set; given
a name alone, renaming yields a decorator that will set it later, itself named
`rename`.
-/

namespace Handbook

/-- The sorts of callables, by what setting their name does. -/
inductive Callable
  | function
  | anonymous
  | userClass
  | userInstance
  | partialApplication
  | builtinFunction
  | builtinType
  | boundMethod
  deriving DecidableEq, Repr

/-- What is handed to a renaming: a callable or some other value. -/
inductive RenamingArgument
  | callable (callable : Callable)
  | value (value : Value)

/-- The outcome of a renaming: the new name, and whether the target itself came back. -/
structure Renamed where
  name : Text
  isTarget : Bool
  deriving DecidableEq, Repr

namespace Callable

/-- Whether the name of a callable can be set. -/
def isRenamable : Callable → Bool
  | builtinFunction | builtinType | boundMethod => false
  | _ => true

/-- Set the name of a callable; the name of a class must not hold the character NUL. -/
def rename (callable : Callable) (name : Text) : Except Error Renamed :=
  if !callable.isRenamable then .error .notRenamable
  else if callable = userClass && name.contains '\x00' then .error .typeNameHasNul
  else .ok ⟨name, true⟩

end Callable

/-- Rename a callable, or make a decorator out of a name alone. -/
def rename : List RenamingArgument → Except Error Renamed
  | [target, newName] =>
      match target, newName with
      | .value _, _ => .error .targetNotCallable
      | .callable callable, .value (.str name) => callable.rename name
      | .callable _, _ => .error .newNameNotText
  | [newName] =>
      match newName with
      | .value (.str _) => .ok ⟨"rename", false⟩
      | _ => .error .decoratorNameNotText
  | arguments => .error (.renameArity arguments.length)

/-- Apply the decorator that was made out of a name. -/
def decorate (name : Text) : RenamingArgument → Except Error Renamed
  | .callable callable => callable.rename name
  | .value _ => .error .decoratedNotCallable

/-- The property over a stored value goes by the name it was declared with. -/
def propertyName : Value → Except Error Text
  | .str name => .ok name
  | _ => .error .propertyNameNotText

end Handbook
