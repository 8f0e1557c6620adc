import Handbook.Slot.Basic

/-!
# Runs

The positions of a slot table, taken in order, fall into runs of one name. A run
longer than a help sheet tells apart is recorded as unbounded and ends the walk.
`collapse` takes the slots one by one; `collapseNames` walks the positions
themselves, testing a run's length each time it draws a name.
-/

namespace Handbook

/-- A run of consecutive positions bound to one name. -/
structure Run where
  name : Text
  count : Int
  deriving DecidableEq, Repr

/-- The longest run that is counted. -/
def longestRun : Nat := 256

namespace Run

/-- The record of a run of the given length: nothing for an empty one, and an unbounded count
for one that is longer than can be counted. -/
def record (name : Text) (length : Nat) : List Run :=
  if length = 0 then []
  else if longestRun < length then [⟨name, unboundedCount⟩]
  else [⟨name, length⟩]

@[simp] theorem record_zero (name : Text) : record name 0 = [] := rfl

theorem record_of_le
    {length : Nat}
    (positive : 0 < length)
    (counted : length ≤ longestRun)
    (name : Text) :
    record name length = [⟨name, length⟩] := by
  simp [record, Nat.ne_of_gt positive, Nat.not_lt.mpr counted]

theorem record_of_lt
    {length : Nat}
    (long : longestRun < length)
    (name : Text) :
    record name length = [⟨name, unboundedCount⟩] := by
  have positive : length ≠ 0 := by omega
  simp [record, positive, long]

end Run

/-- The outcome of a walk over the positions: the recorded runs, and whether the walk was
refused at a slot too large to lay out. -/
structure Collapse where
  runs : List Run
  refused : Bool
  deriving DecidableEq, Repr

namespace SlotTable

/-- The walk over the slots. `finished` holds the recorded runs; the open run has the given
name and length, a length of zero meaning that none is open. The walk stops when a name is
drawn while the open run is already too long. -/
def collapseFrom (finished : List Run) (name : Text) (length : Nat) : List Slot → Collapse
  | [] => ⟨finished ++ Run.record name length, false⟩
  | slot :: rest =>
      match slot.count with
      | .exactly 0 => collapseFrom finished name length rest
      | .exactly (more + 1) =>
          if largestCount < more + 1 then ⟨finished, true⟩
          else if longestRun < length then ⟨finished ++ Run.record name length, false⟩
          else if length = 0 ∨ slot.name = name then
            if longestRun + 1 < length + (more + 1) then
              ⟨finished ++ Run.record slot.name (longestRun + 1), false⟩
            else
              collapseFrom finished slot.name (length + (more + 1)) rest
          else if longestRun + 1 < more + 1 then
            ⟨finished ++ Run.record name length ++ Run.record slot.name (longestRun + 1), false⟩
          else
            collapseFrom (finished ++ Run.record name length) slot.name (more + 1) rest
      | .unbounded =>
          if longestRun < length then ⟨finished ++ Run.record name length, false⟩
          else if length = 0 ∨ slot.name = name then
            ⟨finished ++ Run.record slot.name (longestRun + 1), false⟩
          else
            ⟨finished ++ Run.record name length ++ Run.record slot.name (longestRun + 1), false⟩

/-- The runs of a slot table. -/
def collapse (table : SlotTable) : Collapse :=
  collapseFrom [] [] 0 table.items

end SlotTable

/-- The walk over the names of the positions, one draw at a time. -/
def collapseNamesFrom (finished : List Run) (name : Text) (length : Nat) : List Text → List Run
  | [] => finished ++ Run.record name length
  | drawn :: rest =>
      if longestRun < length then finished ++ Run.record name length
      else if length = 0 ∨ drawn = name then
        collapseNamesFrom finished drawn (length + 1) rest
      else
        collapseNamesFrom (finished ++ Run.record name length) drawn 1 rest

/-- The runs of a list of names, up to the first that is too long. -/
def collapseNames (names : List Text) : List Run :=
  collapseNamesFrom [] [] 0 names

end Handbook
