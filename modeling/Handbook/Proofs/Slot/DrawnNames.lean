import Handbook.Proofs.Checks
import Handbook.Proofs.Slot.Draws

/-!
# How many names are drawn

The expansion of a slot table may have no end, yet the walk over it stops. The
names that it has drawn by then are a first part of the expansion, and nothing
behind them matters. A slot that reserves a position costs at most as many draws
as a run is counted for; only the run that ends the walk costs two more, the
position that makes it too long and the one at which this is noticed.
-/

namespace Handbook

variable {name drawn : Text} {length limit count bound : Nat} {names rest : List Text}

/-- The names that the walk draws from a list: all of them, or those up to the one at which it
stops because the open run is too long. -/
def drawnFrom (name : Text) (length : Nat) : List Text → List Text
  | [] => []
  | drawn :: rest =>
      drawn ::
        if longestRun < length then []
        else drawnFrom drawn (if length = 0 ∨ drawn = name then length + 1 else 1) rest

/-- The names that the walk draws from a list while no run is open yet. -/
def drawnNames (names : List Text) : List Text :=
  drawnFrom [] 0 names

/-! ## The drawn names are all that matters -/

/-- As many of the first names as are drawn are enough to draw the same. -/
theorem drawnFrom_take (enough : (drawnFrom name length names).length ≤ limit) :
    drawnFrom name length (names.take limit) = drawnFrom name length names := by
  induction names generalizing name length limit with
  | nil => rw [List.take_nil]
  | cons drawn rest hypothesis =>
      cases limit with
      | zero => simp [drawnFrom] at enough
      | succ more =>
          rw [drawnFrom, List.length_cons, Nat.add_le_add_iff_right] at enough
          rw [List.take_succ_cons, drawnFrom, drawnFrom]
          split
          · rfl
          · next short =>
              rw [if_neg short] at enough
              rw [hypothesis enough]

/-- The walk over the names that are drawn records the same runs as the walk over all. -/
theorem collapseNamesFrom_drawnFrom
    (finished : List Run)
    (name : Text)
    (length : Nat)
    (names : List Text) :
    collapseNamesFrom finished name length (drawnFrom name length names) =
      collapseNamesFrom finished name length names := by
  induction names generalizing finished name length with
  | nil => rfl
  | cons drawn rest hypothesis =>
      rcases Nat.lt_or_ge longestRun length with long | short
      · rw [collapseNamesFrom_of_long long, collapseNamesFrom_of_long long]
      · have counted : ¬ longestRun < length := Nat.not_lt.mpr short
        simp only [drawnFrom, collapseNamesFrom, if_neg counted]
        split <;> rw [hypothesis]

/-! ## Counting the drawn names -/

/-- Once a run is too long, no more than one name is drawn. -/
theorem length_drawnFrom_of_long (long : longestRun < length) (name : Text) (names : List Text) :
    (drawnFrom name length names).length ≤ 1 := by
  cases names <;> simp [drawnFrom, long]

/-- A name is drawn with the run that it goes on with, or with none if it differs. -/
theorem exists_drawnFrom_cons (short : length ≤ longestRun) (name drawn : Text) (rest : List Text) :
    ∃ opened ≤ longestRun,
      drawnFrom name length (drawn :: rest) = drawnFrom drawn opened (drawn :: rest) := by
  by_cases same : drawn = name
  · exact ⟨length, short, by rw [same]⟩
  · have counted : ¬ longestRun < length := Nat.not_lt.mpr short
    rcases Nat.eq_zero_or_pos length with rfl | opened
    · exact ⟨0, Nat.zero_le _, by simp [drawnFrom]⟩
    · exact ⟨0, Nat.zero_le _, by simp [drawnFrom, counted, same, Nat.ne_of_gt opened]⟩

/-- A name that is repeated is drawn each time, as long as the run is not too long. -/
theorem drawnFrom_replicate
    (within : length + count ≤ longestRun + 1)
    (name : Text)
    (rest : List Text) :
    drawnFrom name length (List.replicate count name ++ rest) =
      List.replicate count name ++ drawnFrom name (length + count) rest := by
  induction count generalizing length with
  | zero => rfl
  | succ more hypothesis =>
      have counted : ¬ longestRun < length := by omega
      rw [List.replicate_succ, List.cons_append, drawnFrom, if_neg counted, if_pos (Or.inr rfl),
        hypothesis (by omega), List.cons_append]
      congr 3
      omega

/-- A name that is repeated costs no more draws than a run is counted for, unless the run becomes
too long; and then two more end the walk. -/
theorem length_drawnFrom_replicate_le
    (short : length ≤ longestRun)
    (following : ∀ total, total ≤ longestRun + 1 → (drawnFrom name total rest).length ≤ bound)
    (ends : 2 ≤ bound)
    (count : Nat) :
    (drawnFrom name length (List.replicate count name ++ rest)).length ≤ longestRun + bound := by
  rcases Nat.lt_or_ge (longestRun + 1) (length + count) with full | within
  · -- The copies behind the one that makes the run too long belong to the rest.
    obtain ⟨more, rfl⟩ : ∃ more, count = (longestRun + 1 - length) + more :=
      ⟨count - (longestRun + 1 - length), by omega⟩
    have reached : longestRun < length + (longestRun + 1 - length) := by omega
    rw [← List.replicate_append_replicate, List.append_assoc, drawnFrom_replicate (by omega),
      List.length_append, List.length_replicate]
    have last := length_drawnFrom_of_long reached name (List.replicate more name ++ rest)
    omega
  · rw [drawnFrom_replicate within, List.length_append, List.length_replicate]
    rcases Nat.lt_or_ge longestRun (length + count) with long | counted
    · have last := length_drawnFrom_of_long long name rest
      omega
    · have others := following (length + count) within
      omega

namespace SlotTable

/-! ## Drawing from an expansion -/

/-- The first names of an expansion are those of a longer one. -/
theorem expandList_take
    {slots : List Slot}
    {more : Nat}
    (shorter : limit ≤ more)
    (expanded : expandList more slots = .ok names) :
    expandList limit slots = .ok (names.take limit) := by
  induction slots generalizing limit more names with
  | nil =>
      cases expanded
      rw [List.take_nil]
      rfl
  | cons slot rest hypothesis =>
      rcases Nat.eq_zero_or_pos limit with rfl | positive
      · exact expandList_zero _
      have longer : 0 < more := Nat.lt_of_lt_of_le positive shorter
      cases fits : slot.isTooLarge with
      | true => simp [expandList, Nat.ne_of_gt longer, fits] at expanded
      | false =>
          cases counted : slot.count with
          | unbounded =>
              rw [expandList_cons_of_unbounded counted] at expanded ⊢
              cases expanded
              rw [List.take_replicate, Nat.min_eq_left shorter]
          | exactly number =>
              rw [expandList_cons_of_exactly fits counted longer] at expanded
              obtain ⟨others, behind, rfl⟩ := exists_of_map_eq_ok expanded
              rw [expandList_cons_of_exactly fits counted positive,
                hypothesis (Nat.sub_le_sub_right shorter number) behind]
              have all : limit - min more number = limit - number := by omega
              simp [Except.map, List.take_append, List.take_replicate, all]
              omega

/-- What is drawn of slots are copies of the first one's name, and what is drawn of the others. -/
theorem exists_copies
    {slot : Slot}
    {slots : List Slot}
    (expanded : expandList limit (slot :: slots) = .ok names) :
    ∃ count others, names = List.replicate count slot.name ++ others ∧
      ∃ left, expandList left slots = .ok others := by
  rcases Nat.eq_zero_or_pos limit with rfl | positive
  · rw [expandList_zero] at expanded
    cases expanded
    exact ⟨0, [], rfl, 0, expandList_zero _⟩
  cases fits : slot.isTooLarge with
  | true => simp [expandList, Nat.ne_of_gt positive, fits] at expanded
  | false =>
      cases counted : slot.count with
      | unbounded =>
          rw [expandList_cons_of_unbounded counted] at expanded
          cases expanded
          exact ⟨limit, [], (List.append_nil _).symm, 0, expandList_zero _⟩
      | exactly number =>
          rw [expandList_cons_of_exactly fits counted positive] at expanded
          obtain ⟨others, behind, rfl⟩ := exists_of_map_eq_ok expanded
          exact ⟨min limit number, others, rfl, limit - number, behind⟩

/-- From the expansion of slots no more names are drawn than a run is counted for, for each slot
that reserves a position, and two. -/
theorem length_drawnFrom_le
    {slots : List Slot}
    (expanded : expandList limit slots = .ok names)
    (bounded : length ≤ longestRun + 1)
    (name : Text) :
    (drawnFrom name length names).length ≤ longestRun * (reserved slots).length + 2 := by
  induction slots generalizing limit length names name with
  | nil =>
      cases expanded
      exact Nat.zero_le _
  | cons slot rest hypothesis =>
      by_cases empty : slot.count = .exactly 0
      · rw [expandList_cons_of_empty empty] at expanded
        rw [reserved_cons_of_empty empty]
        exact hypothesis expanded bounded name
      rcases Nat.lt_or_ge longestRun length with long | short
      · have last := length_drawnFrom_of_long long name names
        omega
      rw [reserved_cons_of_nonempty empty, List.length_cons, Nat.mul_succ]
      obtain ⟨count, others, rfl, left, behind⟩ := exists_copies expanded
      cases count with
      | zero =>
          have few := hypothesis behind bounded name
          simp only [List.replicate_zero, List.nil_append]
          omega
      | succ more =>
          obtain ⟨opened, within, same⟩ :=
            exists_drawnFrom_cons short name slot.name (List.replicate more slot.name ++ others)
          rw [List.replicate_succ, List.cons_append, same, ← List.cons_append,
            ← List.replicate_succ]
          have few := length_drawnFrom_replicate_le within
            (fun total within => hypothesis behind within slot.name) (Nat.le_add_left 2 _) (more + 1)
          omega

end SlotTable

namespace Sheet

/-- The walk over the positions stops after few draws, however many positions there are and
whether or not they have an end. Of every part of the expansion that is at least so long it draws
no more names, the same ones each time; so it records the same runs, which are those of the
sheet. -/
theorem walk_draws_few_names
    {sheet : Sheet}
    (countable : SlotTable.Countable sheet.slots.items) :
    let most := longestRun * (SlotTable.reserved sheet.slots.items).length + 2
    ∃ first, sheet.slots.expand most = .ok first ∧
      sheet.generateRuns = ⟨{ sheet with runs := collapseNames first }, none⟩ ∧
      ∀ limit, most ≤ limit →
        ∃ names, sheet.slots.expand limit = .ok names ∧
          first = names.take most ∧
          (drawnNames names).length ≤ most ∧
          drawnNames names = drawnNames first ∧
          collapseNames names = collapseNames first := by
  intro most
  obtain ⟨first, expanded, recorded⟩ : ∃ first, sheet.slots.expand most = .ok first ∧
      collapseNames first = sheet.slots.collapse.runs :=
    SlotTable.exists_draws countable (Nat.zero_le _) (Nat.lt_add_of_pos_right Nat.two_pos) [] []
  refine ⟨first, expanded, ?_, ?_⟩
  · have accepted : sheet.slots.collapse.refused = false :=
      SlotTable.refused_collapseFrom countable _ _ _
    simp [generateRuns, recorded, accepted]
  intro limit longer
  obtain ⟨names, whole⟩ := SlotTable.exists_expandList countable limit
  have front : first = names.take most := by
    have taken := SlotTable.expandList_take longer whole
    exact Except.ok.inj (expanded.symm.trans taken)
  have few : (drawnNames names).length ≤ most :=
    SlotTable.length_drawnFrom_le whole (Nat.zero_le _) []
  have same : drawnNames first = drawnNames names := front ▸ drawnFrom_take few
  refine ⟨names, whole, front, few, same.symm, ?_⟩
  calc
    collapseNames names = collapseNames (drawnNames names) :=
      (collapseNamesFrom_drawnFrom [] [] 0 names).symm
    _ = collapseNames (drawnNames first) := by rw [same]
    _ = collapseNames first := collapseNamesFrom_drawnFrom [] [] 0 first

/-- A name that is counted to the last, and another one without end behind an empty slot: as many
names are drawn as two slots can cost. -/
theorem walk_draws_few_names_of_endless_table :
    let slots : SlotTable :=
      ⟨[⟨['a'], .exactly 256⟩, ⟨['b'], .exactly 0⟩, ⟨['c'], .unbounded⟩]⟩
    let sheet : Sheet :=
      { application := [], category := [], command := [], description := [], slots := slots }
    SlotTable.Countable slots.items ∧
      longestRun * (SlotTable.reserved slots.items).length + 2 = 514 ∧
      (∃ names, slots.expand 1000 = .ok names ∧ (drawnNames names).length = 514) ∧
      sheet.generateRuns = ⟨{ sheet with runs := [⟨['a'], 256⟩, ⟨['c'], -1⟩] }, none⟩ := by
  intro slots sheet
  have countable : SlotTable.Countable slots.items := by
    unfold SlotTable.Countable
    decide
  obtain ⟨first, expanded, runs, longer⟩ := @walk_draws_few_names sheet countable
  have positions :
      slots.expand 514 = .ok (List.replicate 256 ['a'] ++ List.replicate 258 ['c']) := by
    with_unfolding_all rfl
  cases expanded.symm.trans positions
  obtain ⟨names, whole, _, _, drawn, _⟩ := longer 1000 (by decide)
  have counted : (drawnNames
      (List.replicate 256 ['a'] ++ List.replicate 258 ['c'])).length = 514 := by
    decide +kernel
  have recorded : collapseNames (List.replicate 256 ['a'] ++ List.replicate 258 ['c']) =
      [⟨['a'], 256⟩, ⟨['c'], -1⟩] := by
    decide +kernel
  exact ⟨countable, by decide, ⟨names, whole, drawn ▸ counted⟩, recorded ▸ runs⟩

end Sheet
end Handbook
