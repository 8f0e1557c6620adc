import Handbook.Decimal.Whole
import Handbook.Error
import Handbook.Index
import Handbook.Text.Blank

/-!
# Slots

The positional arguments of a command: a slot reserves a number of consecutive
positions for a name, or every remaining position, after which nothing may
follow. The expansion of a table names each position in turn.
-/

namespace Handbook

/-- How many positions a slot reserves. -/
inductive Count
  | exactly (number : Nat)
  | unbounded
  deriving DecidableEq, Repr

/-- The integer that stands for an unbounded count. -/
def unboundedCount : Int := -1

/-- The count as an integer. -/
def Count.toInt : Count → Int
  | exactly number => number
  | unbounded => unboundedCount

@[simp] theorem Count.toInt_exactly (number : Nat) : (exactly number).toInt = number := rfl

@[simp] theorem Count.toInt_unbounded : unbounded.toInt = -1 := rfl

/-- Positions reserved for a name. -/
structure Slot where
  name : Text
  count : Count
  deriving DecidableEq, Repr

/-- The slots of a command, in order. -/
structure SlotTable where
  items : List Slot := []
  deriving DecidableEq, Repr

/-- The largest count that can be laid out position by position. -/
def largestCount : Nat := 0x7FFFFFFFFFFFFFFF

namespace Slot

/-- Whether laying the slot out position by position is refused. -/
def isTooLarge (slot : Slot) : Bool :=
  match slot.count with
  | .exactly number => largestCount < number
  | .unbounded => false

/-- The trimmed name of a slot. -/
def checkName : Value → Except Error Text
  | .str name =>
      let trimmed := Text.trim name
      if trimmed.isEmpty then .error .slotNameBlank else .ok trimmed
  | _ => .error .slotNameNotText

/-- The count of a slot; minus one reserves every remaining position. -/
def checkCount : Value → Except Error Count
  | .int (.ofNat number) => .ok (.exactly number)
  | .int (.negSucc 0) => .ok .unbounded
  | .int (.negSucc _) => .error .slotCountNegative
  | _ => .error .slotCountNotInteger

end Slot

namespace SlotTable

/-- Whether the table ends with an unbounded slot. -/
def isUnbounded (table : SlotTable) : Bool :=
  table.items.getLast?.any fun slot => slot.count = .unbounded

/-- The table with a slot added, unless an unbounded one ends it. -/
def insert (table : SlotTable) (slot : Slot) : Except Error SlotTable :=
  if table.isUnbounded then .error (.slotAfterUnbounded slot.name)
  else .ok ⟨table.items ++ [slot]⟩

/-- The table with a slot added, its name and its count checked. -/
def add (table : SlotTable) (name count : Value) : Except Error SlotTable := do
  let checkedName ← Slot.checkName name
  let checkedCount ← Slot.checkCount count
  table.insert ⟨checkedName, checkedCount⟩

/-- The table after all slots have been added, the first refused one ending it. -/
def addAll (table : SlotTable) (slots : List (Value × Value)) : Except Error SlotTable :=
  slots.foldlM (fun current slot => current.add slot.1 slot.2) table

theorem items_of_insert_eq_ok
    {table after : SlotTable}
    {slot : Slot}
    (accepted : table.insert slot = .ok after) :
    after.items = table.items ++ [slot] := by
  unfold insert at accepted
  split at accepted <;> simp at accepted
  simp [← accepted]

/-- The number of positions a list of slots reserves, if it is bounded. -/
def totalOf : List Slot → Nat
  | [] => 0
  | slot :: rest =>
      match slot.count with
      | .exactly number => number + totalOf rest
      | .unbounded => totalOf rest

/-- The number of reserved positions, or none when the last slot is unbounded. -/
def total? (table : SlotTable) : Option Nat :=
  if table.isUnbounded then none else some (totalOf table.items)

/-- The name at a position of a list of slots. -/
def nameIn : List Slot → Nat → Option Text
  | [], _ => none
  | slot :: rest, position =>
      match slot.count with
      | .unbounded => some slot.name
      | .exactly number =>
          if position < number then some slot.name else nameIn rest (position - number)

@[simp] theorem nameIn_nil (position : Nat) : nameIn [] position = none := rfl

/-- The name that a position is bound to; `asked` is the position as it was asked for. -/
def nameFor (table : SlotTable) (asked : Value) : Int → Except Error Text
  | .negSucc _ => .error .positionNegative
  | .ofNat position =>
      match nameIn table.items position with
      | some name => .ok name
      | none => .error (.positionOutOfRange asked)

/-- The name that a position is bound to. -/
def nameAt (table : SlotTable) (position : Int) : Except Error Text :=
  table.nameFor (.int position) position

/-- The name that a value is bound to as a position. A number between two positions stands at
the lower one, and one without bounds behind all that are counted. -/
def nameOf (table : SlotTable) (position : Value) : Except Error Text :=
  match position with
  | .float number =>
      let beyond : Int := if number.isNegative && !number.isNaN then -1 else totalOf table.items
      table.nameFor position (number.floor?.getD beyond)
  | other =>
      match other.asInt? with
      | some whole => table.nameFor other whole
      | none => .error (.notComparable "<" other.kind (Value.kind (.int 0)))

/-- The first names of the expansion of a list of slots, as many as asked for or as there are.
A slot whose count is too large is refused when it is reached. -/
def expandList (limit : Nat) : List Slot → Except Error (List Text)
  | [] => .ok []
  | slot :: rest =>
      if limit = 0 then .ok []
      else if slot.isTooLarge then .error .countTooLarge
      else
        match slot.count with
        | .unbounded => .ok (List.replicate limit slot.name)
        | .exactly number =>
            (expandList (limit - number) rest).map
              (List.replicate (min limit number) slot.name ++ ·)

/-- The first names of the expansion. -/
def expand (table : SlotTable) (limit : Nat) : Except Error (List Text) :=
  expandList limit table.items

/-- The number of names that a value asks for: without one, all that are counted. -/
def expansionLimit (table : SlotTable) (limit : Value) : Except Error Nat :=
  match limit with
  | .none => .ok (totalOf table.items)
  | other =>
      match other.asInt? with
      | some number =>
          if 0 ≤ number && isIndex number then .ok number.toNat else .error .limitNotNatural
      | none => .error .limitNotNatural

/-- As many of the first names of the expansion as a value asks for. -/
def expandTo (table : SlotTable) (limit : Value) : Except Error (List Text) := do
  table.expand (← table.expansionLimit limit)

/-- The written form of a table. -/
def written (table : SlotTable) : Text :=
  "arguments-metadata(" ++
    Value.written (.list (table.items.map fun slot =>
      .tuple [.str slot.name, .int slot.count.toInt])) ++ [')']

end SlotTable
end Handbook
