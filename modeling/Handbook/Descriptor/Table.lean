import Handbook.Descriptor.Basic

/-!
# Option tables

The descriptors of a command in the order of their declaration. No two of them
share a long name or a short name; an empty name is no name and may recur, and so
may any other value that counts as false.
-/

namespace Handbook

/-- The declared parameters of a command, in order. -/
structure OptionTable where
  items : List Descriptor := []

/-- A parameter on its way into a table: declared, filled in past all checks, no parameter at all,
or lost to an error before it was declared. -/
inductive OptionEntry
  | declared (declaration : Declaration)
  | draft (draft : Descriptor.Draft)
  | foreign
  | lost (error : Error)

namespace OptionEntry

/-- What a table is offered by an entry, after a declaration has been checked. -/
def check : OptionEntry → Except Error (Offered Descriptor)
  | declared declaration => declaration.check.map .item
  | draft filledIn => filledIn.fill.map .item
  | foreign => .ok .foreign
  | lost error => .error error

end OptionEntry

namespace OptionTable

/-- Refuse a name that another descriptor has. -/
def checkName (inUse : Value → Error) (name other : Value) : Except Error Unit := do
  let name ← name.read
  if name.truthy then
    let other ← other.read
    if name.equals other then throw (inUse name)

/-- Refuse the names of a descriptor that one of the others has, the long name first. -/
def checkNames (descriptor : Descriptor) : List Descriptor → Except Error Unit
  | [] => .ok ()
  | other :: rest => do
      checkName .longNameInUse descriptor.longName other.longName
      checkName .shortNameInUse descriptor.shortName other.shortName
      checkNames descriptor rest

/-- The table with a descriptor added, unless one of its names is taken. -/
def insert (table : OptionTable) (descriptor : Descriptor) : Except Error OptionTable :=
  (checkNames descriptor table.items).map fun _ => ⟨table.items ++ [descriptor]⟩

/-- The table with what was offered added, if that is a descriptor. -/
def append (table : OptionTable) : Offered Descriptor → Except Error OptionTable
  | .foreign => .error .notDescriptor
  | .item descriptor => table.insert descriptor

/-- The table with an entry added. -/
def add (table : OptionTable) (entry : OptionEntry) : Except Error OptionTable :=
  entry.check.bind table.append

/-- The table after all entries have been added, the first refused one ending it. -/
def addAll (table : OptionTable) (entries : List OptionEntry) : Except Error OptionTable :=
  entries.foldlM add table

/-- The table of what a value yields; no member of a value is a descriptor. -/
def ofValue (value : Value) : Except Error OptionTable :=
  if !value.isIterable then .error (.notIterable value.kind)
  else if value.truthy then .error .notDescriptor
  else .ok {}

@[simp] theorem append_item (table : OptionTable) (descriptor : Descriptor) :
    table.append (.item descriptor) = table.insert descriptor := rfl

/-- An accepted descriptor goes to the end of the table, which is otherwise kept. -/
theorem items_of_insert_eq_ok
    {table after : OptionTable}
    {descriptor : Descriptor}
    (accepted : table.insert descriptor = .ok after) :
    after.items = table.items ++ [descriptor] := by
  unfold insert at accepted
  cases checked : checkNames descriptor table.items with
  | error error => simp [checked, Except.map] at accepted
  | ok free => simp [checked, Except.map] at accepted; simp [← accepted]

/-- The descriptor at an index, which may count from the end. -/
def get (table : OptionTable) (index : Value) : Except Error Descriptor :=
  itemAt .list table.items index

/-- The written form of a table. -/
def written (table : OptionTable) : Except Error Text := do
  let members ← table.items.mapM Descriptor.written
  return "options-metadata(" ++ Value.enclosed ['['] [']'] members ++ [')']

end OptionTable
end Handbook
