import Handbook.Proofs.Slot.Collapse
import Handbook.Sheet.Basic

/-!
# The walk over the positions

The walk that draws one position after another records the same runs as the walk
over the slots, as soon as it is given enough of the expansion, which may have no
end. A slot that reserves a position costs at most as many draws as a run is
counted for, and only the last run can cost one more.
-/

namespace Handbook

/-! ## Drawing names -/

/-- Once a run is too long, no further name matters. -/
theorem collapseNamesFrom_of_long
    {length : Nat}
    (long : longestRun < length)
    (finished : List Run)
    (name : Text)
    (names : List Text) :
    collapseNamesFrom finished name length names = finished ++ Run.record name length := by
  cases names with
  | nil => rfl
  | cons drawn rest => simp [collapseNamesFrom, long]

/-- Without an open run the name at hand does not matter. -/
theorem collapseNamesFrom_zero
    (finished : List Run)
    (name other : Text)
    (names : List Text) :
    collapseNamesFrom finished name 0 names = collapseNamesFrom finished other 0 names := by
  cases names with
  | nil => rfl
  | cons drawn rest => simp [collapseNamesFrom]

/-- Another name ends the open run and is then met without one. -/
theorem collapseNamesFrom_cons_of_ne
    {name drawn : Text}
    {length : Nat}
    (opened : 0 < length)
    (short : length ≤ longestRun)
    (different : drawn ≠ name)
    (finished : List Run)
    (rest : List Text) :
    collapseNamesFrom finished name length (drawn :: rest) =
      collapseNamesFrom (finished ++ Run.record name length) drawn 0 (drawn :: rest) := by
  have counted : ¬ longestRun < length := Nat.not_lt.mpr short
  simp [collapseNamesFrom, counted, Nat.ne_of_gt opened, different]

/-- The name of the open run is counted, up to one time more than is told apart. -/
theorem collapseNamesFrom_replicate
    {length count : Nat}
    (within : length + count ≤ longestRun + 1)
    (finished : List Run)
    (name : Text)
    (rest : List Text) :
    collapseNamesFrom finished name length (List.replicate count name ++ rest) =
      collapseNamesFrom finished name (length + count) rest := by
  induction count generalizing length with
  | zero => simp
  | succ more hypothesis =>
      have counted : ¬ longestRun < length := by omega
      rw [List.replicate_succ, List.cons_append, collapseNamesFrom, if_neg counted,
        if_pos (Or.inr rfl), hypothesis (by omega)]
      congr 1
      omega

/-- A name drawn too often closes the walk, whatever comes after it. -/
theorem collapseNamesFrom_replicate_of_long
    {length count : Nat}
    (bounded : length ≤ longestRun + 1)
    (long : longestRun < length + count)
    (finished : List Run)
    (name : Text)
    (rest : List Text) :
    collapseNamesFrom finished name length (List.replicate count name ++ rest) =
      finished ++ Run.record name (longestRun + 1) := by
  obtain ⟨more, rfl⟩ : ∃ more, count = (longestRun + 1 - length) + more :=
    ⟨count - (longestRun + 1 - length), by omega⟩
  have reached : length + (longestRun + 1 - length) = longestRun + 1 := by omega
  rw [← List.replicate_append_replicate, List.append_assoc,
    collapseNamesFrom_replicate (by omega), reached, collapseNamesFrom_of_long (Nat.lt_succ_self longestRun)]

namespace SlotTable

/-! ## Expansions -/

@[simp] theorem expandList_zero (slots : List Slot) : expandList 0 slots = .ok [] := by
  cases slots <;> simp [expandList]

theorem expandList_cons_of_empty
    {slot : Slot}
    (empty : slot.count = .exactly 0)
    (limit : Nat)
    (rest : List Slot) :
    expandList limit (slot :: rest) = expandList limit rest := by
  have fits : slot.isTooLarge = false := by simp [Slot.isTooLarge, empty]
  rcases Nat.eq_zero_or_pos limit with rfl | positive
  · rw [expandList_zero, expandList_zero]
  · simp only [expandList, Nat.ne_of_gt positive, fits, empty, if_false, Bool.false_eq_true]
    cases expandList limit rest <;> simp [Except.map, *]

theorem expandList_cons_of_exactly
    {slot : Slot}
    {rest : List Slot}
    {number limit : Nat}
    (fits : slot.isTooLarge = false)
    (counted : slot.count = .exactly number)
    (positive : 0 < limit) :
    expandList limit (slot :: rest) =
      (expandList (limit - number) rest).map
        (List.replicate (min limit number) slot.name ++ ·) := by
  simp [expandList, Nat.ne_of_gt positive, fits, counted]

theorem expandList_cons_of_unbounded
    {slot : Slot}
    (endless : slot.count = .unbounded)
    (limit : Nat)
    (rest : List Slot) :
    expandList limit (slot :: rest) = .ok (List.replicate limit slot.name) := by
  have fits : slot.isTooLarge = false := by simp [Slot.isTooLarge, endless]
  rcases Nat.eq_zero_or_pos limit with rfl | positive
  · simp
  · simp [expandList, Nat.ne_of_gt positive, fits, endless]

/-- The expansion of countable slots is never refused. -/
theorem exists_expandList
    {slots : List Slot}
    (countable : Countable slots)
    (limit : Nat) :
    ∃ names, expandList limit slots = .ok names := by
  induction slots generalizing limit with
  | nil => exact ⟨[], rfl⟩
  | cons slot rest hypothesis =>
      rcases Nat.eq_zero_or_pos limit with rfl | positive
      · exact ⟨[], expandList_zero _⟩
      cases counted : slot.count with
      | unbounded => exact ⟨_, expandList_cons_of_unbounded counted limit rest⟩
      | exactly number =>
          obtain ⟨names, expanded⟩ := hypothesis countable.tail (limit - number)
          rw [expandList_cons_of_exactly countable.head counted positive,
            expanded]
          exact ⟨_, rfl⟩

/-! ## Drawing the positions of slots -/

/-- A slot that fills the open run beyond what is counted ends the walk. -/
theorem collapseFrom_cons_of_full
    {slot : Slot}
    {rest : List Slot}
    {length number : Nat}
    (counted : slot.count = .exactly number)
    (nonempty : slot.count ≠ .exactly 0)
    (countable : Countable (slot :: rest))
    (short : length ≤ longestRun)
    (full : longestRun < length + number)
    (finished : List Run) :
    collapseFrom finished slot.name length (slot :: rest) =
      ⟨finished ++ Run.record slot.name (longestRun + 1), false⟩ := by
  rw [collapseFrom_cons_of_same nonempty countable.head short, counted, Count.plus_exactly]
  dsimp only
  split
  · rfl
  · have reached : length + number = longestRun + 1 := by omega
    rw [reached]
    exact collapseFrom_of_long (Nat.lt_succ_self longestRun)
      (refused_collapseFrom countable.tail _ _ _)

/-- A slot that does not fill the open run is counted with it. -/
theorem collapseFrom_cons_of_within
    {slot : Slot}
    {rest : List Slot}
    {length number : Nat}
    (counted : slot.count = .exactly number)
    (nonempty : slot.count ≠ .exactly 0)
    (fits : slot.isTooLarge = false)
    (within : length + number ≤ longestRun)
    (finished : List Run) :
    collapseFrom finished slot.name length (slot :: rest) =
      collapseFrom finished slot.name (length + number) rest := by
  have short : length ≤ longestRun := Nat.le_of_add_right_le within
  have notFull : ¬ longestRun + 1 < length + number := by omega
  rw [collapseFrom_cons_of_same nonempty fits short, counted, Count.plus_exactly]
  dsimp only
  rw [if_neg notFull]

/-- The first position of a slot that reserves some is drawn first. -/
theorem exists_expandList_cons
    {slot : Slot}
    {rest : List Slot}
    {number limit : Nat}
    {names : List Text}
    (fits : slot.isTooLarge = false)
    (counted : slot.count = .exactly number)
    (nonempty : slot.count ≠ .exactly 0)
    (positive : 0 < limit)
    (expanded : expandList (limit - number) rest = .ok names) :
    ∃ drawn, min limit number = drawn + 1 ∧
      expandList limit (slot :: rest) =
        .ok (slot.name :: (List.replicate drawn slot.name ++ names)) := by
  have reserving : number ≠ 0 := by
    rintro rfl
    exact nonempty counted
  obtain ⟨drawn, first⟩ : ∃ drawn, min limit number = drawn + 1 :=
    ⟨min limit number - 1, by omega⟩
  refine ⟨drawn, first, ?_⟩
  rw [expandList_cons_of_exactly fits counted positive, expanded, first]
  rfl

/-- What drawing the positions of one slot records, provided that the rest is known. -/
theorem exists_draws_cons
    {slot : Slot}
    {rest : List Slot}
    {length limit : Nat}
    {finished : List Run}
    (nonempty : slot.count ≠ .exactly 0)
    (countable : Countable (slot :: rest))
    (short : length ≤ longestRun)
    (enough : longestRun < limit)
    (following : ∀ number total, number ≤ longestRun → total ≤ longestRun →
      ∃ names, expandList (limit - number) rest = .ok names ∧
        collapseNamesFrom finished slot.name total names =
          (collapseFrom finished slot.name total rest).runs) :
    ∃ names, expandList limit (slot :: rest) = .ok (slot.name :: names) ∧
      collapseNamesFrom finished slot.name length (slot.name :: names) =
        (collapseFrom finished slot.name length (slot :: rest)).runs := by
  have positive : 0 < limit := Nat.zero_lt_of_lt enough
  cases counted : slot.count with
  | unbounded =>
      obtain ⟨more, rfl⟩ : ∃ more, limit = more + 1 := ⟨limit - 1, by omega⟩
      refine ⟨List.replicate more slot.name, expandList_cons_of_unbounded counted _ rest, ?_⟩
      have drawn :
          collapseNamesFrom finished slot.name length
              (List.replicate (more + 1) slot.name ++ []) =
            finished ++ Run.record slot.name (longestRun + 1) :=
        collapseNamesFrom_replicate_of_long (by omega) (by omega) finished slot.name []
      rw [collapseFrom_cons_of_same nonempty countable.head short, counted, Count.plus_unbounded]
      simpa [List.replicate_succ] using drawn
  | exactly number =>
      rcases Nat.lt_or_ge longestRun (length + number) with full | within
      · obtain ⟨names, expanded⟩ := exists_expandList countable.tail (limit - number)
        obtain ⟨drawn, first, whole⟩ :=
          exists_expandList_cons countable.head counted nonempty positive expanded
        refine ⟨List.replicate drawn slot.name ++ names, whole, ?_⟩
        rw [collapseFrom_cons_of_full counted nonempty countable short full,
          ← List.cons_append, ← List.replicate_succ]
        exact collapseNamesFrom_replicate_of_long (by omega) (by omega) finished slot.name names
      · obtain ⟨names, expanded, recorded⟩ :=
          following number (length + number) (by omega) within
        obtain ⟨drawn, first, whole⟩ :=
          exists_expandList_cons countable.head counted nonempty positive expanded
        have all : number = drawn + 1 := by omega
        refine ⟨List.replicate drawn slot.name ++ names, whole, ?_⟩
        rw [collapseFrom_cons_of_within counted nonempty countable.head within, ← recorded,
          ← List.cons_append, ← List.replicate_succ, ← all]
        exact collapseNamesFrom_replicate (by omega) finished slot.name names

/-- Given enough positions, both walks record the same runs. -/
theorem exists_draws
    {slots : List Slot}
    {length limit : Nat}
    (countable : Countable slots)
    (bounded : length ≤ longestRun + 1)
    (enough : longestRun * (reserved slots).length < limit)
    (finished : List Run)
    (name : Text) :
    ∃ names, expandList limit slots = .ok names ∧
      collapseNamesFrom finished name length names =
        (collapseFrom finished name length slots).runs := by
  induction slots generalizing finished name length limit with
  | nil => exact ⟨[], rfl, rfl⟩
  | cons slot rest hypothesis =>
      rcases Nat.lt_or_ge longestRun length with long | short
      · obtain ⟨names, expanded⟩ := exists_expandList countable limit
        refine ⟨names, expanded, ?_⟩
        rw [collapseNamesFrom_of_long long,
          collapseFrom_of_long long (refused_collapseFrom countable _ _ _)]
      by_cases empty : slot.count = .exactly 0
      · rw [reserved_cons_of_empty empty] at enough
        rw [expandList_cons_of_empty empty, collapseFrom_cons_of_empty empty]
        exact hypothesis countable.tail bounded enough finished name
      rw [reserved_cons_of_nonempty empty, List.length_cons, Nat.mul_succ] at enough
      have following : ∀ finished number total, number ≤ longestRun → total ≤ longestRun →
          ∃ names, expandList (limit - number) rest = .ok names ∧
            collapseNamesFrom finished slot.name total names =
              (collapseFrom finished slot.name total rest).runs := by
        intro finished number total spent within
        exact hypothesis countable.tail (by omega) (by omega) finished slot.name
      by_cases same : slot.name = name
      · subst same
        obtain ⟨names, expanded, recorded⟩ :=
          exists_draws_cons empty countable short (by omega) (following finished)
        exact ⟨slot.name :: names, expanded, recorded⟩
      rcases Nat.eq_zero_or_pos length with rfl | opened
      · obtain ⟨names, expanded, recorded⟩ :=
          exists_draws_cons empty countable short (by omega) (following finished)
        refine ⟨slot.name :: names, expanded, ?_⟩
        rw [collapseNamesFrom_zero finished name slot.name, recorded,
          collapseFrom_zero finished name slot.name]
      · obtain ⟨names, expanded, recorded⟩ :=
          exists_draws_cons empty countable (Nat.zero_le _) (by omega)
            (following (finished ++ Run.record name length))
        refine ⟨slot.name :: names, expanded, ?_⟩
        rw [collapseNamesFrom_cons_of_ne opened short same, recorded,
          collapseFrom_cons_of_ne empty countable.head opened short same]

end SlotTable

namespace Sheet

/-- Making the runs of a sheet anew always comes to an end, with the merged runs of its slots and
nothing of the runs that were there before. A walk over the positions that is given enough of
them, however many, ends with the same runs. -/
theorem generateRuns_eq_mergedRuns
    {sheet : Sheet}
    (countable : SlotTable.Countable sheet.slots.items) :
    sheet.generateRuns = ⟨{ sheet with runs := sheet.slots.mergedRuns }, none⟩ ∧
      ∃ draws, ∀ limit, draws ≤ limit →
        ∃ names, sheet.slots.expand limit = .ok names ∧
          collapseNames names = sheet.slots.mergedRuns := by
  have collapsed : sheet.slots.collapse = ⟨sheet.slots.mergedRuns, false⟩ :=
    SlotTable.collapse_eq_mergedRuns (SlotTable.refused_collapseFrom countable _ _ _)
  refine ⟨by simp [generateRuns, collapsed], ?_⟩
  refine ⟨longestRun * (SlotTable.reserved sheet.slots.items).length + 1, fun limit enough => ?_⟩
  obtain ⟨names, expanded, recorded⟩ :=
    SlotTable.exists_draws countable (Nat.zero_le _) enough [] []
  refine ⟨names, expanded, ?_⟩
  calc
    collapseNames names = sheet.slots.collapse.runs := recorded
    _ = sheet.slots.mergedRuns := by rw [collapsed]

/-- A name that is declared twice around an empty slot makes one run, too long to be counted, and
the name behind it none. -/
theorem generateRuns_of_split_run :
    let slots : SlotTable := ⟨[⟨['A'], .exactly 3⟩, ⟨['B'], .exactly 200⟩, ⟨['C'], .exactly 0⟩,
      ⟨['B'], .exactly 57⟩, ⟨['D'], .exactly 1⟩]⟩
    let sheet : Sheet :=
      { application := [], category := [], command := [], description := [], slots := slots
        runs := [⟨['Z'], 9⟩] }
    SlotTable.Countable slots.items ∧
      sheet.generateRuns = ⟨{ sheet with runs := [⟨['A'], 3⟩, ⟨['B'], -1⟩] }, none⟩ := by
  intro slots sheet
  have countable : SlotTable.Countable sheet.slots.items := by
    unfold SlotTable.Countable
    decide
  exact ⟨countable, (generateRuns_eq_mergedRuns countable).1⟩

end Sheet
end Handbook
