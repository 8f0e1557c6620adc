import Handbook.Value.Equality

/-!
# The order of sets

A set of numbers has an order of its own, whatever the order in which its members
were given. The members stand in a row of places. A number is placed by its
residue, and where that place is taken, at the next free one of a fixed walk; what
is empty is placed like zero, and what is made of all these by a word that is mixed
of theirs. Whenever three fifths of the places are taken, the members move to a
longer row. Main statement: no member is lost, and none is doubled.
-/

namespace Handbook.Value

/-- The prime modulus of residues. Two to the power of 61 leaves one, so that fractions of powers
of two have residues too. -/
def residueModulus : Nat := 0x1FFFFFFFFFFFFFFF

/-- The residue that stands for what is infinite. -/
def infiniteResidue : Nat := 314159

/-- A residue with a sign; minus one is none, and minus two stands for it. -/
def signedResidue (negative : Bool) (residue : Nat) : Int :=
  if negative then (if residue = 1 then -2 else -(residue : Int)) else residue

/-- The residue of a number. Equal numbers of different kinds have the same one. -/
def residue? : Value → Option Int
  | .float number =>
      let size := number.significand * Binary64.twoTo (number.exponent % 61).toNat
      some (signedResidue number.isNegative
        (if number.isSpecial then infiniteResidue else size % residueModulus))
  | other =>
      other.asInt?.map fun whole => signedResidue (whole < 0) (whole.natAbs % residueModulus)

/-- One round of the mixing of words: a word is taken in, and the bits turn around. -/
def mixIn (mixed word : UInt64) : UInt64 :=
  let sum := mixed + word * 14029467366897019727
  (sum <<< 31 ||| sum >>> 33) * 11400714785074694791

/-- A word for words in order. -/
def mix (words : List UInt64) : UInt64 :=
  let start : UInt64 := 2870177450012600261
  let closing : UInt64 := start ^^^ 3527539
  let mixed := words.foldl mixIn start + (UInt64.ofNat words.length ^^^ closing)
  if mixed = 0xFFFFFFFFFFFFFFFF then 1546275796 else mixed

/-- A word with its bits scattered. -/
def scatter (word : UInt64) : UInt64 :=
  ((89869747 : UInt64) ^^^ word ^^^ word <<< 16) * 3644798167

/-- A word for words in any order. -/
def gather (words : List UInt64) : UInt64 :=
  let joined := words.foldl (fun joined word => joined ^^^ scatter word)
    ((UInt64.ofNat words.length + 1) * 1927868237)
  let gathered := (joined ^^^ joined >>> 11 ^^^ joined >>> 25) * 69069 + 907133923
  if gathered = 0xFFFFFFFFFFFFFFFF then 590923713 else gathered

/-- A residue as a word. -/
def residueWord (residue : Int) : UInt64 :=
  UInt64.ofNat (residue % 0x10000000000000000).toNat

mutual

/-- The word that a value is placed by: that of its residue for a number, and one of the words of
its parts for what cannot change and holds only such. -/
def word? : Value → Option UInt64
  | .tuple items => (words? items).map mix
  | .frozenset items => (words? items).map gather
  | .range start stop step =>
      let length := rangeLength start stop step
      if length ≤ 1 then Option.none
      else
        ([.int length, .int start, .int step].mapM residue?).map fun parts =>
          mix (parts.map residueWord)
  | .str [] => some 0
  | .bytes [] => some 0
  | other => other.residue?.map residueWord

/-- The words of the items of a list, if all have one. -/
def words? : List Value → Option (List UInt64)
  | [] => some []
  | item :: rest =>
      match word? item, words? rest with
      | some word, some words => some (word :: words)
      | _, _ => Option.none

end

/-- A row of places; an empty place holds nothing. -/
abbrev Row := List (Option Value)

namespace Row

/-- The length of the shortest row. -/
def leastLength : Nat := 8

/-- An empty row. -/
def empty (length : Nat) : Row :=
  List.replicate length Option.none

/-- The members of a row, in order. -/
def members (row : Row) : List Value :=
  row.filterMap id

/-- The number of places that are looked at one after another, if they fit the row. -/
def stride : Nat := 10

/-- The first free place of a walk over a row. It looks at a few neighbouring places and then
jumps, by what is left of the residue at first, and in the end over the whole row. -/
def freePlace (row : Row) (place rest : Nat) : Nat → Option Nat
  | 0 => row.findIdx? Option.isNone
  | tries + 1 =>
      let reach := if place + stride ≤ row.length then stride else 1
      match ((row.drop place).take reach).findIdx? Option.isNone with
      | some offset => some (place + offset)
      | Option.none =>
          let left := rest / 32
          freePlace row ((5 * place + 1 + left) % row.length) left tries

/-- The row with a member set at its place. -/
def put (row : Row) (member : Value) : Row :=
  let word := (member.word?.getD 0).toNat
  match freePlace row (word % row.length) word (row.length + 16) with
  | some place => row.set place (some member)
  | Option.none => row ++ [some member]

/-- The length of the row that members move to: above four times their number. -/
def longerLength (count : Nat) (length : Nat) : Nat → Nat
  | 0 => length
  | tries + 1 => if 4 * count < length then length else longerLength count (2 * length) tries

/-- The row, or a longer one if three fifths of its places are taken. -/
def grown (row : Row) : Row :=
  let held := row.members
  if 5 * held.length < 3 * (row.length - 1) then row
  else held.foldl put (empty (longerLength held.length leastLength held.length))

/-- The row of members that were given one after another. -/
def ofList (given : List Value) : Row :=
  given.foldl (fun row member => grown (row.put member)) (empty leastLength)

/-- What a walk finds is free. -/
theorem getElem?_freePlace
    {row : Row}
    {place rest tries found : Nat}
    (free : freePlace row place rest tries = some found) :
    row[found]? = some Option.none := by
  induction tries generalizing place rest with
  | zero =>
      obtain ⟨inside, empty, _⟩ := List.findIdx?_eq_some_iff_getElem.mp free
      simp [List.getElem?_eq_getElem inside, Option.isNone_iff_eq_none.mp empty]
  | succ tries hypothesis =>
      unfold freePlace at free
      dsimp only at free
      split at free
      · next offset located =>
          obtain ⟨inside, empty, _⟩ := List.findIdx?_eq_some_iff_getElem.mp located
          simp only [Option.some.injEq] at free
          subst free
          simp only [List.getElem_take, List.getElem_drop] at empty
          simp only [List.length_take, List.length_drop] at inside
          rw [List.getElem?_eq_getElem (by omega), Option.isNone_iff_eq_none.mp empty]
      · exact hypothesis free

/-- A member set at a free place is one more, and no other is lost. -/
theorem members_set
    {row : Row}
    {place : Nat}
    (free : row[place]? = some Option.none)
    (member : Value) :
    (members (row.set place (some member))).Perm (member :: members row) := by
  induction row generalizing place with
  | nil => simp at free
  | cons first rest hypothesis =>
      cases place with
      | zero =>
          simp only [List.getElem?_cons_zero, Option.some.injEq] at free
          simp [members, free]
      | succ place =>
          simp only [List.getElem?_cons_succ] at free
          have inner := hypothesis free
          cases first with
          | none => simpa [members] using inner
          | some value =>
              simpa [members] using (inner.cons value).trans (List.Perm.swap member value _)

/-- Putting a member into a row loses none. -/
theorem members_put (row : Row) (member : Value) :
    (row.put member).members.Perm (member :: row.members) := by
  unfold put
  dsimp only
  split
  · next place found => exact members_set (getElem?_freePlace found) member
  · simp [members]

@[simp] theorem members_empty (length : Nat) : (empty length).members = [] := by
  simp [members, empty]

/-- Putting several members into a row loses none. -/
theorem members_foldl_put (given : List Value) (row : Row) :
    (given.foldl put row).members.Perm (given ++ row.members) := by
  induction given generalizing row with
  | nil => exact List.Perm.refl _
  | cons member rest hypothesis =>
      exact (hypothesis (row.put member)).trans
        (((members_put row member).append_left rest).trans List.perm_middle)

/-- A longer row holds the same members. -/
theorem members_grown (row : Row) : row.grown.members.Perm row.members := by
  unfold grown
  dsimp only
  split
  · exact List.Perm.refl _
  · simpa using members_foldl_put row.members (empty _)

/-- The row of members that were given holds just these. -/
theorem members_ofList (given : List Value) : (ofList given).members.Perm given := by
  have general : ∀ row : Row,
      (given.foldl (fun row member => grown (row.put member)) row).members.Perm
        (given ++ row.members) := by
    induction given with
    | nil => exact fun row => List.Perm.refl _
    | cons member rest hypothesis =>
        intro row
        have step := (members_grown (row.put member)).trans (members_put row member)
        exact (hypothesis (grown (row.put member))).trans
          ((step.append_left rest).trans List.perm_middle)
  simpa [ofList] using general (empty leastLength)

end Row

/-- The members of a set in its order. Among members that have no place the order stays as it
is. -/
def placed (members : List Value) : List Value :=
  if members.all fun member => member.word?.isSome then (Row.ofList members).members
  else members

/-- No member is lost when a set is put into its order. -/
theorem placed_perm (members : List Value) : (placed members).Perm members := by
  unfold placed
  split
  · exact Row.members_ofList members
  · exact List.Perm.refl _

end Handbook.Value
