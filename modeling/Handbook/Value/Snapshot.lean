import Handbook.Index
import Handbook.Value.Placement

/-!
# Snapshots

A reader of a stored value gets a snapshot of it: fresh copies of all containers
that can change in place, so that nothing it does reaches the stored value. A
sequence of any kind becomes a list and a frozen set a set, while a tuple, fixed
already, is shared with everything in it. A set cannot hold the copy of a member
that became a list or a set, and then there is no snapshot. The members of a copied
set are placed anew.
-/

namespace Handbook.Value

mutual

/-- A copy of a value that shares nothing with it but tuples, or the kind of the first copied
member that a set cannot hold. -/
def snapshot : Value → Except Text Value
  | .list items => (snapshotItems items).map .list
  | .dict entries => (snapshotEntries entries).map .dict
  | .set items => (snapshotMembers items).map fun copies => .set (placed copies)
  | .frozenset items => (snapshotMembers items).map fun copies => .set (placed copies)
  | .bytes items => .ok (.list (items.map fun byte => .int byte.toNat))
  | .bytearray items => .ok (.list (items.map fun byte => .int byte.toNat))
  | .range start stop step => .ok (.list ((rangeItems start stop step).map .int))
  | value => .ok value

/-- The copies of the items of a list. -/
def snapshotItems : List Value → Except Text (List Value)
  | [] => .ok []
  | item :: rest =>
      match snapshot item with
      | .error kind => .error kind
      | .ok copy => (snapshotItems rest).map (copy :: ·)

/-- The copies of the entries of a dictionary; keys are kept. -/
def snapshotEntries : List (Value × Value) → Except Text (List (Value × Value))
  | [] => .ok []
  | (key, value) :: rest =>
      match snapshot value with
      | .error kind => .error kind
      | .ok copy => (snapshotEntries rest).map ((key, copy) :: ·)

/-- The copies of the members of a set, each checked before the next is copied. -/
def snapshotMembers : List Value → Except Text (List Value)
  | [] => .ok []
  | item :: rest =>
      match snapshot item with
      | .error kind => .error kind
      | .ok copy =>
          match copy.unhashableKind? with
          | some kind => .error kind
          | Option.none => (snapshotMembers rest).map (copy :: ·)

end

/-- Whether a value is a container that a reader gets a copy of, or may share. -/
def isContainer : Value → Bool
  | .list _ => true
  | .tuple _ => true
  | .dict _ => true
  | .set _ => true
  | .frozenset _ => true
  | .bytes _ => true
  | .bytearray _ => true
  | .range .. => true
  | _ => false

/-- Whether a snapshot of the value is the value itself. -/
def isShared : Value → Bool
  | .list _ => false
  | .dict _ => false
  | .set _ => false
  | .frozenset _ => false
  | .bytes _ => false
  | .bytearray _ => false
  | .range .. => false
  | _ => true

/-- What a reader gets of a stored value. -/
def read (value : Value) : Except Error Value :=
  match value.snapshot with
  | .ok copy => .ok copy
  | .error kind => .error (.unhashable kind)

@[simp] theorem read_str (text : Text) : read (.str text) = .ok (.str text) := rfl

@[simp] theorem read_bool (flag : Bool) : read (.bool flag) = .ok (.bool flag) := rfl

/-- The character at a place of a styled text, styled as itself. What is no index should be a
slice. -/
def characterAt (plain : Text) (key : Value) : Except Error Value :=
  match key.asInt? with
  | some _ => (itemAt .text plain key).map fun character => .styled [character] (.str [])
  | Option.none => .error (.noAttribute key.kind "indices")

/-- The part of a value that a key names: an item by its index, or the entry of a dictionary. -/
def part (value key : Value) : Except Error Value :=
  match value with
  | .list items => itemAt .list items key
  | .tuple items => itemAt .tuple items key
  | .str text => (itemAt .text text key).map fun character => .str [character]
  | .styled plain _ => characterAt plain key
  | .bytes items => (itemAt .bytes items key).map fun byte => .int byte.toNat
  | .bytearray items => (itemAt .bytearray items key).map fun byte => .int byte.toNat
  | .range start stop step =>
      (placeIn .range (rangeLength start stop step) key).map fun place =>
        .int (start + step * (place : Int))
  | .dict entries =>
      keyed
        (fun key => (entries.find? fun entry => entry.1.equals key).map (·.2))
        key
  | other => .error (.notSubscriptable other.kind)

/-- The value with one of its parts replaced, for a value that holds parts of any kind. -/
def replacePart (value key part : Value) : Value :=
  match value with
  | .list items => .list (replaceAt items key part)
  | .tuple items => .tuple (replaceAt items key part)
  | .dict entries =>
      .dict (entries.map fun entry =>
        if entry.1.equals key then (entry.1, part) else entry)
  | other => other

/-- The value with a byte added at its end, for a value that can grow. -/
def append (byte : UInt8) : Value → Except Error Value
  | .list items => .ok (.list (items ++ [.int byte.toNat]))
  | .bytearray items => .ok (.bytearray (items ++ [byte]))
  | .styled .. => .error .notAppendable
  | other => .error (.noAttribute other.kind "append")

/-- The value with a byte added to the part at the end of a path of keys. -/
def appendAt (byte : UInt8) : List Value → Value → Except Error Value
  | [], value => value.append byte
  | key :: path, value => do
      let inner ← value.part key
      let longer ← appendAt byte path inner
      return value.replacePart key longer

/-- Whether a path of keys enters a tuple, and so reaches what a snapshot shares with the
value. -/
def entersTuple : List Value → Value → Bool
  | [], _ => false
  | _ :: _, .tuple _ => true
  | key :: path, value =>
      match value.part key with
      | .ok inner => entersTuple path inner
      | .error _ => false

end Handbook.Value
