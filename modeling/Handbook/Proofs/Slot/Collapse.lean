import Handbook.Proofs.Slot.Merged
import Mathlib.Tactic.ByContra

/-!
# The walk over the slots

The walk over the slots of a table, with its open run and its early stop, records
the merged runs whenever it is not refused. The open run counts as one more slot
in front of the rest: a slot of its name is added to it, and a slot of another
name closes it.
-/

namespace Handbook
namespace SlotTable

/-- Whether every slot can be laid out position by position. -/
def Countable (slots : List Slot) : Prop :=
  ∀ slot ∈ slots, slot.isTooLarge = false

theorem Countable.head
    {slot : Slot}
    {rest : List Slot}
    (countable : Countable (slot :: rest)) :
    slot.isTooLarge = false :=
  countable slot List.mem_cons_self

theorem Countable.tail
    {slot : Slot}
    {rest : List Slot}
    (countable : Countable (slot :: rest)) :
    Countable rest :=
  fun member present => countable member (List.mem_cons_of_mem slot present)

/-! ## One slot -/

theorem collapseFrom_cons_of_empty
    {slot : Slot}
    (empty : slot.count = .exactly 0)
    (finished : List Run)
    (name : Text)
    (length : Nat)
    (rest : List Slot) :
    collapseFrom finished name length (slot :: rest) =
      collapseFrom finished name length rest := by
  simp [collapseFrom, empty]

/-- A slot that is too large to be laid out refuses the walk as soon as it is met. -/
theorem collapseFrom_cons_of_isTooLarge
    {slot : Slot}
    (tooLarge : slot.isTooLarge = true)
    (finished : List Run)
    (name : Text)
    (length : Nat)
    (rest : List Slot) :
    collapseFrom finished name length (slot :: rest) = ⟨finished, true⟩ := by
  cases counted : slot.count with
  | unbounded => simp [Slot.isTooLarge, counted] at tooLarge
  | exactly number =>
      cases number with
      | zero => simp [Slot.isTooLarge, counted] at tooLarge
      | succ more =>
          have exceeds : largestCount < more + 1 := by
            simpa [Slot.isTooLarge, counted] using tooLarge
          simp [collapseFrom, counted, exceeds]

/-- A run that is too long already ends the walk at the next position. -/
theorem collapseFrom_cons_of_long
    {slot : Slot}
    {length : Nat}
    (nonempty : slot.count ≠ .exactly 0)
    (fits : slot.isTooLarge = false)
    (long : longestRun < length)
    (finished : List Run)
    (name : Text)
    (rest : List Slot) :
    collapseFrom finished name length (slot :: rest) =
      ⟨finished ++ Run.record name length, false⟩ := by
  cases counted : slot.count with
  | unbounded => simp [collapseFrom, counted, long]
  | exactly number =>
      cases number with
      | zero => exact absurd counted nonempty
      | succ more =>
          have small : ¬ largestCount < more + 1 := by
            simpa [Slot.isTooLarge, counted] using fits
          simp [collapseFrom, counted, small, long]

/-- A slot of another name ends the open run and is then met without one. -/
theorem collapseFrom_cons_of_ne
    {slot : Slot}
    {name : Text}
    {length : Nat}
    (nonempty : slot.count ≠ .exactly 0)
    (fits : slot.isTooLarge = false)
    (opened : 0 < length)
    (short : length ≤ longestRun)
    (different : slot.name ≠ name)
    (finished : List Run)
    (rest : List Slot) :
    collapseFrom finished name length (slot :: rest) =
      collapseFrom (finished ++ Run.record name length) slot.name 0 (slot :: rest) := by
  have notLong : ¬ longestRun < length := Nat.not_lt.mpr short
  have some : length ≠ 0 := Nat.ne_of_gt opened
  cases counted : slot.count with
  | unbounded => simp [collapseFrom, counted, notLong, some, different]
  | exactly number =>
      cases number with
      | zero => exact absurd counted nonempty
      | succ more =>
          have small : ¬ largestCount < more + 1 := by
            simpa [Slot.isTooLarge, counted] using fits
          simp [collapseFrom, counted, small, notLong, some, different]

/-- A slot goes on with the open run of its name, up to one position more than is counted. -/
theorem collapseFrom_cons_of_same
    {slot : Slot}
    {length : Nat}
    (nonempty : slot.count ≠ .exactly 0)
    (fits : slot.isTooLarge = false)
    (short : length ≤ longestRun)
    (finished : List Run)
    (rest : List Slot) :
    collapseFrom finished slot.name length (slot :: rest) =
      match (Count.exactly length).plus slot.count with
      | .unbounded => ⟨finished ++ Run.record slot.name (longestRun + 1), false⟩
      | .exactly total =>
          if longestRun + 1 < total then
            ⟨finished ++ Run.record slot.name (longestRun + 1), false⟩
          else collapseFrom finished slot.name total rest := by
  have notLong : ¬ longestRun < length := Nat.not_lt.mpr short
  cases counted : slot.count with
  | unbounded => simp [collapseFrom, counted, notLong]
  | exactly number =>
      cases number with
      | zero => exact absurd counted nonempty
      | succ more =>
          have small : ¬ largestCount < more + 1 := by
            simpa [Slot.isTooLarge, counted] using fits
          simp [collapseFrom, counted, small, notLong]

/-- Without an open run the name at hand does not matter. -/
theorem collapseFrom_zero
    (finished : List Run)
    (name other : Text)
    (slots : List Slot) :
    collapseFrom finished name 0 slots = collapseFrom finished other 0 slots := by
  induction slots with
  | nil => rfl
  | cons slot rest hypothesis =>
      cases counted : slot.count with
      | unbounded => simp [collapseFrom, counted]
      | exactly number =>
          cases number with
          | zero =>
              simp only [collapseFrom, counted]
              exact hypothesis
          | succ more => simp [collapseFrom, counted]

/-! ## Refusal -/

/-- The walk is not refused where every slot can be laid out. -/
theorem refused_collapseFrom
    {slots : List Slot}
    (countable : Countable slots)
    (finished : List Run)
    (name : Text)
    (length : Nat) :
    (collapseFrom finished name length slots).refused = false := by
  induction slots generalizing finished name length with
  | nil => rfl
  | cons slot rest hypothesis =>
      have following := hypothesis countable.tail
      have fits := countable.head
      cases counted : slot.count with
      | unbounded =>
          simp only [collapseFrom, counted]
          split
          · rfl
          · split <;> rfl
      | exactly number =>
          cases number with
          | zero =>
              rw [collapseFrom_cons_of_empty counted]
              exact following finished name length
          | succ more =>
              have small : ¬ largestCount < more + 1 := by
                simpa [Slot.isTooLarge, counted] using fits
              simp only [collapseFrom, counted, small, if_false]
              repeat' split
              all_goals first | rfl | exact following _ _ _

/-- A walk that is not refused has laid out every slot it met. -/
theorem isTooLarge_eq_false
    {slot : Slot}
    {rest : List Slot}
    {finished : List Run}
    {name : Text}
    {length : Nat}
    (accepted : (collapseFrom finished name length (slot :: rest)).refused = false) :
    slot.isTooLarge = false := by
  by_contra tooLarge
  rw [collapseFrom_cons_of_isTooLarge (by simpa using tooLarge)] at accepted
  exact absurd accepted (by simp)

/-- After a run that is too long, a walk that is not refused records it and nothing else. -/
theorem collapseFrom_of_long
    {length : Nat}
    {slots : List Slot}
    {finished : List Run}
    {name : Text}
    (long : longestRun < length)
    (accepted : (collapseFrom finished name length slots).refused = false) :
    collapseFrom finished name length slots = ⟨finished ++ Run.record name length, false⟩ := by
  induction slots with
  | nil => rfl
  | cons slot rest hypothesis =>
      by_cases empty : slot.count = .exactly 0
      · rw [collapseFrom_cons_of_empty empty] at accepted ⊢
        exact hypothesis accepted
      · exact collapseFrom_cons_of_long empty (isTooLarge_eq_false accepted) long finished name
          rest

/-! ## The recorded runs -/

/-- What one slot adds, provided that the walk over the rest is known. -/
theorem collapseFrom_cons
    {slot : Slot}
    {rest : List Slot}
    {length : Nat}
    {finished : List Run}
    (nonempty : slot.count ≠ .exactly 0)
    (short : length ≤ longestRun)
    (accepted : (collapseFrom finished slot.name length (slot :: rest)).refused = false)
    (following : ∀ total, 0 < total → total ≤ longestRun + 1 →
      (collapseFrom finished slot.name total rest).refused = false →
        collapseFrom finished slot.name total rest =
          ⟨finished ++ cut (merge (⟨slot.name, .exactly total⟩ :: reserved rest)), false⟩) :
    collapseFrom finished slot.name length (slot :: rest) =
      ⟨finished ++ cut (merge
        (⟨slot.name, (Count.exactly length).plus slot.count⟩ :: reserved rest)), false⟩ := by
  have tooLong : Run.record slot.name (longestRun + 1) = [⟨slot.name, unboundedCount⟩] :=
    Run.record_of_lt (Nat.lt_succ_self longestRun) slot.name
  have fits := isTooLarge_eq_false accepted
  rw [collapseFrom_cons_of_same nonempty fits short] at accepted ⊢
  cases counted : slot.count with
  | unbounded =>
      rw [Count.plus_unbounded, cut_merge_cons_of_long rfl, tooLong]
  | exactly number =>
      have positive : 0 < number := by
        apply Nat.pos_of_ne_zero
        rintro rfl
        exact nonempty counted
      simp only [counted, Count.plus_exactly] at accepted ⊢
      split
      · next exceeded =>
          rw [cut_merge_cons_of_long (by simp; omega), tooLong]
      · next within =>
          rw [if_neg within] at accepted
          exact following (length + number) (by omega) (by omega) accepted

/-- With a run open, the walk records the merged slots that begin with it. -/
theorem collapseFrom_eq_cut
    {slots : List Slot}
    {length : Nat}
    {finished : List Run}
    {name : Text}
    (opened : 0 < length)
    (bounded : length ≤ longestRun + 1)
    (accepted : (collapseFrom finished name length slots).refused = false) :
    collapseFrom finished name length slots =
      ⟨finished ++ cut (merge (⟨name, .exactly length⟩ :: reserved slots)), false⟩ := by
  induction slots generalizing finished name length with
  | nil =>
      rw [reserved_nil, merge_singleton]
      rcases Nat.lt_or_ge longestRun length with long | short
      · simp [collapseFrom, Run.record_of_lt long, cut, long]
      · simp [collapseFrom, Run.record_of_le opened short, cut, Nat.not_lt.mpr short]
  | cons slot rest hypothesis =>
      rcases Nat.lt_or_ge longestRun length with long | short
      · have longCount : (Count.exactly length).isLong = true := by simp [long]
        rw [collapseFrom_of_long long accepted, Run.record_of_lt long,
          cut_merge_cons_of_long longCount]
      by_cases empty : slot.count = .exactly 0
      · rw [collapseFrom_cons_of_empty empty] at accepted ⊢
        rw [reserved_cons_of_empty empty]
        exact hypothesis opened bounded accepted
      rw [reserved_cons_of_nonempty empty]
      by_cases same : slot.name = name
      · subst same
        have joined :
            merge (⟨slot.name, .exactly length⟩ :: slot :: reserved rest) =
              merge (⟨slot.name, (Count.exactly length).plus slot.count⟩ :: reserved rest) :=
          merge_cons_of_same (by rfl) _
        rw [joined]
        exact collapseFrom_cons empty short accepted fun _ => hypothesis
      · have shortCount : (Count.exactly length).isLong = false := by
          simp [Nat.not_lt.mpr short]
        have closed : Run.record name length = [⟨name, (Count.exactly length).toInt⟩] :=
          Run.record_of_le opened short name
        have fits := isTooLarge_eq_false accepted
        rw [collapseFrom_cons_of_ne empty fits opened short same] at accepted ⊢
        rw [collapseFrom_cons empty (Nat.zero_le _) accepted fun _ => hypothesis,
          merge_cons_of_ne (Ne.symm same), cut_cons_of_short shortCount, closed]
        simp

/-- Without an open run, the walk records the merged slots. -/
theorem collapseFrom_zero_eq_cut
    {slots : List Slot}
    {finished : List Run}
    {name : Text}
    (accepted : (collapseFrom finished name 0 slots).refused = false) :
    collapseFrom finished name 0 slots = ⟨finished ++ cut (merge (reserved slots)), false⟩ := by
  induction slots with
  | nil => simp [collapseFrom]
  | cons slot rest hypothesis =>
      by_cases empty : slot.count = .exactly 0
      · rw [collapseFrom_cons_of_empty empty] at accepted ⊢
        rw [reserved_cons_of_empty empty]
        exact hypothesis accepted
      · rw [collapseFrom_zero finished name slot.name] at accepted ⊢
        rw [reserved_cons_of_nonempty empty,
          collapseFrom_cons empty (Nat.zero_le _) accepted fun _ => collapseFrom_eq_cut]
        simp

/-- A walk over the slots of a table that is not refused records its merged runs. -/
theorem collapse_eq_mergedRuns
    {table : SlotTable}
    (accepted : table.collapse.refused = false) :
    table.collapse = ⟨table.mergedRuns, false⟩ := by
  unfold collapse at accepted ⊢
  rw [collapseFrom_zero_eq_cut accepted, mergedRuns, List.nil_append]

end SlotTable
end Handbook
