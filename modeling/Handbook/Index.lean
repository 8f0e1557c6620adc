import Handbook.Error
import Handbook.Value.Equality

/-!
# Indices and keys

An index into a list counts from the start; below zero it counts from the end,
minus one being the last place. Any value may be handed in as an index, and what
is no whole number, or names no place, is refused in the words of the container.
A key names what is kept under it, and nothing else.
-/

namespace Handbook

/-- The place that an index names in a list of the given length, if there is one. -/
def placeOf? (length : Nat) (index : Int) : Option Nat :=
  let place := if index < 0 then index + length else index
  if 0 ≤ place ∧ place < length then some place.toNat else none

/-- The number of integers that can be an index, on either side of zero. -/
def indexBound : Int := 0x8000000000000000

/-- Whether an integer can be an index at all. -/
def isIndex (number : Int) : Bool :=
  -indexBound ≤ number && number < indexBound

/-- How a kind of container refuses an index: one that names no place, one that cannot be an
index, and one that is no whole number. -/
structure IndexWording where
  outside : Error
  tooLarge : Error := .indexTooLarge
  notIndex : Text → Error

namespace IndexWording

/-- The wording of lists. -/
def list : IndexWording :=
  { outside := .indexOutOfRange "list", notIndex := .notIndex "list" }

/-- The wording of tuples. -/
def tuple : IndexWording :=
  { outside := .indexOutOfRange "tuple", notIndex := .notIndex "tuple" }

/-- The wording of texts. -/
def text : IndexWording :=
  { outside := .indexOutOfRange "string", notIndex := .notTextIndex }

/-- The wording of byte strings. -/
def bytes : IndexWording :=
  { outside := .indexOutOfRange [], notIndex := .notIndex "byte" }

/-- The wording of byte arrays. -/
def bytearray : IndexWording :=
  { outside := .indexOutOfRange "bytearray", notIndex := .notIndex "bytearray" }

/-- The wording of ranges. -/
def range : IndexWording :=
  { outside := .indexOutOfRange "range object"
    tooLarge := .indexOutOfRange "range object"
    notIndex := .notIndex "range" }

end IndexWording

/-- The place that a value names among a number of places. -/
def placeIn (wording : IndexWording) (length : Nat) (index : Value) : Except Error Nat :=
  match index.asInt? with
  | none => .error (wording.notIndex index.kind)
  | some number =>
      if !isIndex number then .error wording.tooLarge
      else
        match placeOf? length number with
        | some place => .ok place
        | none => .error wording.outside

/-- The item that a value names in a list. -/
def itemAt {Item : Type} (wording : IndexWording) (items : List Item) (index : Value) :
    Except Error Item := do
  let place ← placeIn wording items.length index
  match items[place]? with
  | some item => return item
  | none => throw wording.outside

/-- What a value names as a key: it must be fit for one, and there must be something to find. -/
def keyed {Item : Type} (find? : Value → Option Item) (key : Value) : Except Error Item :=
  match key.unhashableKind? with
  | some kind => .error (.unhashable kind)
  | none =>
      match find? key with
      | some item => .ok item
      | none => .error (.keyMissing key)

/-- The items with the one that a value names replaced; where it names none they stay. -/
def replaceAt {Item : Type} (items : List Item) (index : Value) (item : Item) : List Item :=
  match index.asInt?.bind (placeOf? items.length) with
  | some place => items.set place item
  | none => items

end Handbook
