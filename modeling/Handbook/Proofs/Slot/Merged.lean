import Handbook.Slot.Runs

/-!
# Merged slots

The runs of a slot table, said without a walk: slots that reserve nothing are
left out, neighbours of one name are made one, and the list is cut off behind the
first slot that is too long to be counted.
-/

namespace Handbook

namespace Count

/-- Two counts together; an unbounded one absorbs the other. -/
def plus : Count → Count → Count
  | exactly first, exactly second => exactly (first + second)
  | _, _ => unbounded

/-- Whether a count is beyond what is told apart. -/
def isLong : Count → Bool
  | exactly number => longestRun < number
  | unbounded => true

@[simp] theorem plus_exactly (first second : Nat) :
    (exactly first).plus (exactly second) = exactly (first + second) := rfl

@[simp] theorem plus_unbounded (count : Count) : count.plus unbounded = unbounded := by
  cases count <;> rfl

@[simp] theorem unbounded_plus (count : Count) : unbounded.plus count = unbounded := rfl

@[simp] theorem zero_plus (count : Count) : (exactly 0).plus count = count := by
  cases count <;> simp

theorem plus_assoc (first second third : Count) :
    (first.plus second).plus third = first.plus (second.plus third) := by
  cases first <;> cases second <;> cases third <;> simp [Nat.add_assoc]

/-- Nothing that is added to a count makes it none. -/
theorem plus_ne_zero {first : Count} (nonempty : first ≠ exactly 0) (second : Count) :
    first.plus second ≠ exactly 0 := by
  cases first with
  | unbounded => simp
  | exactly number =>
      cases second with
      | unbounded => simp
      | exactly more =>
          simp only [ne_eq, exactly.injEq, plus_exactly] at nonempty ⊢
          omega

@[simp] theorem isLong_exactly (number : Nat) :
    (exactly number).isLong = decide (longestRun < number) := rfl

@[simp] theorem isLong_unbounded : unbounded.isLong = true := rfl

/-- Nothing that is added makes a long count short. -/
theorem isLong_plus {first : Count} (long : first.isLong = true) (second : Count) :
    (first.plus second).isLong = true := by
  cases first with
  | unbounded => rfl
  | exactly number =>
      cases second with
      | unbounded => rfl
      | exactly more =>
          simp only [isLong_exactly, decide_eq_true_eq, plus_exactly] at long ⊢
          omega

end Count

/-- Whether a slot reserves no position. -/
def Slot.isEmpty (slot : Slot) : Bool :=
  slot.count = .exactly 0

theorem Slot.isEmpty_of_count {slot : Slot} (none : slot.count = .exactly 0) :
    slot.isEmpty = true := by
  simp [isEmpty, none]

theorem Slot.not_isEmpty_of_count {slot : Slot} (some : slot.count ≠ .exactly 0) :
    slot.isEmpty = false := by
  simp [isEmpty, some]

namespace SlotTable

/-- The slots that reserve a position. -/
def reserved (slots : List Slot) : List Slot :=
  slots.filter fun slot => !slot.isEmpty

/-- The slots with neighbours of one name made one. -/
def merge : List Slot → List Slot
  | [] => []
  | slot :: rest =>
      match merge rest with
      | [] => [slot]
      | next :: others =>
          if slot.name = next.name then
            ⟨slot.name, slot.count.plus next.count⟩ :: others
          else
            slot :: next :: others

/-- The slots as runs, up to the first long one, which is recorded as unbounded. -/
def cut : List Slot → List Run
  | [] => []
  | slot :: rest =>
      if slot.count.isLong then [⟨slot.name, unboundedCount⟩]
      else ⟨slot.name, slot.count.toInt⟩ :: cut rest

/-- The runs that the declared slots stand for. -/
def mergedRuns (table : SlotTable) : List Run :=
  cut (merge (reserved table.items))

@[simp] theorem reserved_nil : reserved [] = [] := rfl

theorem reserved_cons_of_empty
    {slot : Slot}
    (empty : slot.count = .exactly 0)
    (rest : List Slot) :
    reserved (slot :: rest) = reserved rest := by
  simp [reserved, Slot.isEmpty_of_count empty]

theorem reserved_cons_of_nonempty
    {slot : Slot}
    (nonempty : slot.count ≠ .exactly 0)
    (rest : List Slot) :
    reserved (slot :: rest) = slot :: reserved rest := by
  simp [reserved, Slot.not_isEmpty_of_count nonempty]

theorem count_ne_of_mem_reserved
    {slot : Slot}
    {slots : List Slot}
    (member : slot ∈ reserved slots) :
    slot.count ≠ .exactly 0 := by
  intro empty
  simp [reserved, Slot.isEmpty_of_count empty] at member

/-! ## Merging -/

@[simp] theorem merge_nil : merge [] = [] := rfl

@[simp] theorem merge_singleton (slot : Slot) : merge [slot] = [slot] := rfl

/-- The first merged slot has the name of the first slot, and at least its length. -/
theorem exists_merge_cons (slot : Slot) (rest : List Slot) :
    ∃ count others, merge (slot :: rest) = ⟨slot.name, count⟩ :: others ∧
      (slot.count.isLong = true → count.isLong = true) := by
  unfold merge
  split
  · exact ⟨slot.count, [], rfl, id⟩
  · next next others _ =>
      split
      · exact ⟨_, others, rfl, fun long => Count.isLong_plus long next.count⟩
      · exact ⟨slot.count, next :: others, rfl, id⟩

theorem merge_cons_of_same
    {first second : Slot}
    (same : first.name = second.name)
    (rest : List Slot) :
    merge (first :: second :: rest) =
      merge (⟨first.name, first.count.plus second.count⟩ :: rest) := by
  cases merged : merge rest with
  | nil => simp [merge, merged, same]
  | cons next others =>
      by_cases equal : second.name = next.name
      · simp [merge, merged, same, equal, Count.plus_assoc]
      · simp [merge, merged, same, equal]

theorem merge_cons_of_ne
    {first second : Slot}
    (different : first.name ≠ second.name)
    (rest : List Slot) :
    merge (first :: second :: rest) = first :: merge (second :: rest) := by
  obtain ⟨count, others, merged, _⟩ := exists_merge_cons second rest
  rw [merge, merged]
  simp [different]

/-! ## Cutting -/

@[simp] theorem cut_nil : cut [] = [] := rfl

theorem cut_cons_of_long
    {slot : Slot}
    (long : slot.count.isLong = true)
    (rest : List Slot) :
    cut (slot :: rest) = [⟨slot.name, unboundedCount⟩] := by
  simp [cut, long]

theorem cut_cons_of_short
    {slot : Slot}
    (short : slot.count.isLong = false)
    (rest : List Slot) :
    cut (slot :: rest) = ⟨slot.name, slot.count.toInt⟩ :: cut rest := by
  simp [cut, short]

/-- A long slot ends the list, whatever it is merged with. -/
theorem cut_merge_cons_of_long
    {slot : Slot}
    (long : slot.count.isLong = true)
    (rest : List Slot) :
    cut (merge (slot :: rest)) = [⟨slot.name, unboundedCount⟩] := by
  obtain ⟨count, others, merged, stillLong⟩ := exists_merge_cons slot rest
  rw [merged]
  exact cut_cons_of_long (stillLong long) others

end SlotTable
end Handbook
