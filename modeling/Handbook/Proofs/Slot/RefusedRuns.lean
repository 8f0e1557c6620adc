import Handbook.Proofs.Slot.Readings
import Mathlib.Algebra.Group.Int.Defs
import Mathlib.Data.List.SplitBy
import Mathlib.Data.List.TakeWhile

/-!
# What a refused walk leaves behind

A slot too large to be laid out refuses the walk over the positions if the walk
comes to it. Whether it does can be read off the names in front of the slot, cut
into maximal runs of equal names: the walk draws a name before it looks at the
length of the open run, so the last run may be one name longer than those that are
closed. A refused walk leaves all of these runs recorded but the open one.
-/

namespace Handbook

/-! ## Maximal runs -/

/-- The maximal runs of equal names in a list. -/
def maximalRuns (names : List Text) : List (List Text) :=
  names.splitBy (· == ·)

/-- The name and the length of a run of equal names. -/
def Run.ofEqualNames (names : List Text) : Run :=
  ⟨names.headD [], names.length⟩

/-- Runs that the walk over positions goes through without coming to an end: every one but the last
is short enough to be counted, and the last one, which is still open, may have one name more. -/
structure Passable (runs : List (List Text)) : Prop where
  closed : ∀ run ∈ runs.dropLast, run.length ≤ longestRun
  opened : ∀ run ∈ runs.getLast?, run.length ≤ longestRun + 1

section

variable {name : Text} {names : List Text} {length : Nat}

@[simp] theorem maximalRuns_nil : maximalRuns [] = [] := rfl

theorem maximalRuns_ne_nil (nonempty : names ≠ []) : maximalRuns names ≠ [] :=
  List.splitBy_ne_nil.mpr nonempty

theorem maximalRuns_replicate (opened : 0 < length) (name : Text) :
    maximalRuns (List.replicate length name) = [List.replicate length name] := by
  have nonempty : List.replicate length name ≠ [] := by
    rw [ne_eq, List.replicate_eq_nil_iff]
    omega
  refine List.splitBy_of_isChain nonempty ?_
  exact List.isChain_replicate_of_rel length (by simp)

/-- A name that is repeated in front of another one is a run of its own. -/
theorem maximalRuns_replicate_append
    (opened : 0 < length)
    (different : names.head? ≠ some name) :
    maximalRuns (List.replicate length name ++ names) =
      List.replicate length name :: maximalRuns names := by
  have closed : maximalRuns (List.replicate length name ++ names) =
      maximalRuns (List.replicate length name) ++ maximalRuns names := by
    refine List.splitBy_append fun last lastIs next nextIs => ?_
    have same : last = name := List.eq_of_mem_replicate (List.mem_of_mem_getLast? lastIs)
    rw [beq_eq_false_iff_ne, same]
    rintro rfl
    exact different nextIs
  rw [closed, maximalRuns_replicate opened]
  rfl

/-- A name that is repeated in front of others stands in one run, which is no shorter. -/
theorem exists_maximalRuns_replicate_append
    (opened : 0 < length)
    (name : Text)
    (names : List Text) :
    ∃ run rest, maximalRuns (List.replicate length name ++ names) = run :: rest ∧
      length ≤ run.length := by
  let more := names.takeWhile (· == name)
  have repeated : more = List.replicate more.length name :=
    List.eq_replicate_of_mem fun other member => by simpa using List.mem_takeWhile_imp member
  refine ⟨List.replicate (length + more.length) name, maximalRuns (names.dropWhile (· == name)), ?_,
    by simp⟩
  rw [← maximalRuns_replicate_append (by omega), ← List.replicate_append_replicate, ← repeated,
    List.append_assoc, List.takeWhile_append_dropWhile]
  intro next
  have stops := List.head?_dropWhile_not (· == name) names
  simp [next] at stops

theorem passable_singleton
    {run : List Text}
    (within : run.length ≤ longestRun + 1) :
    Passable [run] :=
  ⟨by simp, by simpa using within⟩

theorem Passable.length_head_le
    {run : List Text}
    {rest : List (List Text)}
    (passable : Passable (run :: rest)) :
    run.length ≤ longestRun + 1 := by
  cases rest with
  | nil => exact passable.opened run rfl
  | cons next others =>
      have closed := passable.closed run (by simp)
      omega

theorem passable_cons_iff
    {run : List Text}
    {rest : List (List Text)}
    (followed : rest ≠ []) :
    Passable (run :: rest) ↔ run.length ≤ longestRun ∧ Passable rest := by
  obtain ⟨next, others, rfl⟩ := List.exists_cons_of_ne_nil followed
  constructor
  · intro passable
    exact ⟨passable.closed run (by simp),
      fun other member => passable.closed other (by simp [member]),
      passable.opened⟩
  · rintro ⟨short, passable⟩
    refine ⟨?_, passable.opened⟩
    rw [List.dropLast_cons_cons, List.forall_mem_cons]
    exact ⟨short, passable.closed⟩

/-- A name that is repeated too often keeps the walk from going on. -/
theorem not_passable_of_long
    (long : longestRun + 1 < length)
    (name : Text)
    (names : List Text) :
    ¬ Passable (maximalRuns (List.replicate length name ++ names)) := by
  intro passable
  obtain ⟨run, rest, runs, longer⟩ :=
    exists_maximalRuns_replicate_append (Nat.zero_lt_of_lt long) name names
  rw [runs] at passable
  have bounded := passable.length_head_le
  omega

/-- Behind a run that is too long to be counted no further name is passed. -/
theorem not_passable_of_full
    (followed : names ≠ [])
    (name : Text) :
    ¬ Passable (maximalRuns (List.replicate (longestRun + 1) name ++ names)) := by
  obtain ⟨next, others, rfl⟩ := List.exists_cons_of_ne_nil followed
  by_cases same : next = name
  · subst same
    rw [← List.singleton_append, ← List.append_assoc, ← List.replicate_succ']
    exact not_passable_of_long (Nat.lt_succ_self _) next others
  · rw [maximalRuns_replicate_append (Nat.succ_pos longestRun) (by simpa using same),
      passable_cons_iff (maximalRuns_ne_nil followed), List.length_replicate]
    omega

end

/-! ## Names in front of a slot -/

namespace Slot

/-- A slot is too large to be laid out when its count is above the largest that can be. -/
theorem isTooLarge_iff (slot : Slot) :
    slot.isTooLarge = true ↔ (2 ^ 63 - 1 : Int) < slot.count.toInt := by
  cases counted : slot.count with
  | unbounded => simp [isTooLarge, counted]
  | exactly number =>
      simp only [isTooLarge, counted, decide_eq_true_eq, Count.toInt_exactly]
      unfold largestCount
      omega

/-- The names of the positions of a bounded slot. -/
def positions (slot : Slot) : List Text :=
  match slot.count with
  | .exactly number => List.replicate number slot.name
  | .unbounded => []

theorem positions_of_exactly
    {slot : Slot}
    {number : Nat}
    (counted : slot.count = .exactly number) :
    slot.positions = List.replicate number slot.name := by
  simp [positions, counted]

end Slot

namespace SlotTable

variable {slot : Slot} {before rest : List Slot} {finished : List Run} {name : Text}
  {length number : Nat}

/-- Bounded slots that can be laid out are drawn to their end, each position giving its name. -/
theorem expandList_eq_positions
    {slots : List Slot}
    {limit : Nat}
    (countable : Countable slots)
    (bounded : ∀ slot ∈ slots, slot.count ≠ .unbounded)
    (enough : totalOf slots ≤ limit) :
    expandList limit slots = .ok (slots.flatMap Slot.positions) := by
  induction slots generalizing limit with
  | nil => rfl
  | cons slot rest hypothesis =>
      obtain ⟨own, others⟩ := List.forall_mem_cons.mp bounded
      cases counted : slot.count with
      | unbounded => exact absurd counted own
      | exactly number =>
          simp only [totalOf, counted] at enough
          rw [List.flatMap_cons, Slot.positions_of_exactly counted]
          rcases Nat.eq_zero_or_pos limit with rfl | positive
          · obtain rfl : number = 0 := by omega
            have none : totalOf rest ≤ 0 := by omega
            have following := hypothesis countable.tail others none
            rw [expandList_zero] at following ⊢
            exact following
          · have whole : min limit number = number := by omega
            rw [expandList_cons_of_exactly countable.head counted positive,
              hypothesis countable.tail others (by omega), whole]
            rfl

theorem expandTo_none_eq_positions
    (countable : Countable before)
    (bounded : ∀ slot ∈ before, slot.count ≠ .unbounded) :
    (⟨before⟩ : SlotTable).expandTo .none = .ok (before.flatMap Slot.positions) :=
  expandList_eq_positions countable bounded (Nat.le_refl _)

/-- How the walk ends that goes through the given runs and then comes to a slot too large to be laid
out: it is refused there, with all runs recorded but the open one, or it has ended before. -/
inductive EndsAt (finished : List Run) (runs : List (List Text)) : Collapse → Prop
  | refusal (passable : Passable runs) :
      EndsAt finished runs ⟨finished ++ runs.dropLast.map Run.ofEqualNames, true⟩
  | stop (blocked : ¬ Passable runs) (recorded : List Run) : EndsAt finished runs ⟨recorded, false⟩

/-- A slot of the name of the open run, once the walk behind it is known. -/
theorem endsAt_cons_of_same
    {names : List Text}
    (counted : slot.count = .exactly number)
    (positive : 0 < number)
    (fits : slot.isTooLarge = false)
    (short : length ≤ longestRun)
    (following : ∀ total ≤ longestRun + 1,
      EndsAt finished (maximalRuns (List.replicate total slot.name ++ names))
        (collapseFrom finished slot.name total rest)) :
    EndsAt finished (maximalRuns (List.replicate (length + number) slot.name ++ names))
      (collapseFrom finished slot.name length (slot :: rest)) := by
  have nonempty : slot.count ≠ .exactly 0 := by simp [counted, Nat.ne_of_gt positive]
  rw [collapseFrom_cons_of_same nonempty fits short, counted, Count.plus_exactly]
  dsimp only
  split
  · next exceeded => exact .stop (not_passable_of_long exceeded slot.name names) _
  · next within => exact following (length + number) (by omega)

/-- A short open run is closed by a slot of another name. -/
theorem EndsAt.of_closed
    {runs : List (List Text)}
    {collapse : Collapse}
    (followed : runs ≠ [])
    (short : length ≤ longestRun)
    (opened : 0 < length)
    (ends : EndsAt (finished ++ Run.record name length) runs collapse) :
    EndsAt finished (List.replicate length name :: runs) collapse := by
  have closed : Passable (List.replicate length name :: runs) ↔ Passable runs := by
    rw [passable_cons_iff followed, List.length_replicate, and_iff_right short]
  cases ends with
  | stop blocked recorded => exact .stop (closed.not.mpr blocked) recorded
  | refusal passable =>
      have recorded : finished ++ Run.record name length ++ runs.dropLast.map Run.ofEqualNames =
          finished ++ (List.replicate length name :: runs).dropLast.map Run.ofEqualNames := by
        rw [Run.record_of_le opened short, List.dropLast_cons_of_ne_nil followed, List.map_cons,
          List.append_assoc]
        obtain ⟨more, rfl⟩ := Nat.exists_eq_add_one.mpr opened
        simp [Run.ofEqualNames, List.replicate_succ]
      rw [recorded]
      exact .refusal (closed.mpr passable)

/-- A slot of another name than the open run, once it is known how the walk goes on with that run
closed. -/
theorem endsAt_cons_of_ne
    {names : List Text}
    (counted : slot.count = .exactly number)
    (positive : 0 < number)
    (fits : slot.isTooLarge = false)
    (opened : 0 < length)
    (short : length ≤ longestRun)
    (different : slot.name ≠ name)
    (ends : EndsAt (finished ++ Run.record name length)
      (maximalRuns (List.replicate number slot.name ++ names))
      (collapseFrom (finished ++ Run.record name length) slot.name 0 (slot :: rest))) :
    EndsAt finished
      (maximalRuns (List.replicate length name ++ (List.replicate number slot.name ++ names)))
      (collapseFrom finished name length (slot :: rest)) := by
  obtain ⟨more, rfl⟩ := Nat.exists_eq_add_one.mpr positive
  have nonempty : slot.count ≠ .exactly 0 := by simp [counted]
  have next : (List.replicate (more + 1) slot.name ++ names).head? ≠ some name := by
    simpa [List.replicate_succ] using different
  have followed : List.replicate (more + 1) slot.name ++ names ≠ [] := by
    simp [List.replicate_succ]
  rw [maximalRuns_replicate_append opened next,
    collapseFrom_cons_of_ne nonempty fits opened short different]
  exact ends.of_closed (maximalRuns_ne_nil followed) short opened

/-- The walk is refused at a slot too large to be laid out, whatever run is open. -/
theorem endsAt_cons_of_isTooLarge
    (tooLarge : slot.isTooLarge = true)
    (within : length ≤ longestRun + 1)
    (finished : List Run)
    (name : Text)
    (rest : List Slot) :
    EndsAt finished (maximalRuns (List.replicate length name))
      (collapseFrom finished name length (slot :: rest)) := by
  rw [collapseFrom_cons_of_isTooLarge tooLarge]
  rcases Nat.eq_zero_or_pos length with rfl | opened
  · have passable : Passable [] := ⟨by simp, by simp⟩
    simpa using (EndsAt.refusal passable : EndsAt finished [] _)
  · have passable : Passable [List.replicate length name] :=
      passable_singleton (List.length_replicate.trans_le within)
    rw [maximalRuns_replicate opened]
    simpa using (EndsAt.refusal passable : EndsAt finished [List.replicate length name] _)

/-- The walk over slots in front of one that is too large to be laid out, the open run counting as
names in front of theirs. -/
theorem endsAt_collapseFrom
    (tooLarge : slot.isTooLarge = true)
    (countable : Countable before)
    (bounded : ∀ slot ∈ before, slot.count ≠ .unbounded)
    (within : length ≤ longestRun + 1)
    (finished : List Run)
    (name : Text)
    (rest : List Slot) :
    EndsAt finished
      (maximalRuns (List.replicate length name ++ before.flatMap Slot.positions))
      (collapseFrom finished name length (before ++ slot :: rest)) := by
  -- A slot in front passes into the open run, so the name and the length of that run vary.
  induction before generalizing finished name length with
  | nil =>
      rw [List.flatMap_nil, List.append_nil]
      exact endsAt_cons_of_isTooLarge tooLarge within finished name rest
  | cons first others hypothesis =>
      obtain ⟨own, othersBounded⟩ := List.forall_mem_cons.mp bounded
      have fits := countable.head
      rw [List.cons_append, List.flatMap_cons]
      cases counted : first.count with
      | unbounded => exact absurd counted own
      | exactly number =>
          rw [Slot.positions_of_exactly counted]
          rcases Nat.eq_zero_or_pos number with rfl | positive
          · rw [collapseFrom_cons_of_empty counted]
            exact hypothesis countable.tail othersBounded within finished name
          rcases Nat.lt_or_ge longestRun length with long | short
          · obtain rfl : length = longestRun + 1 := by omega
            have nonempty : first.count ≠ .exactly 0 := by simp [counted, Nat.ne_of_gt positive]
            have followed :
                List.replicate number first.name ++ others.flatMap Slot.positions ≠ [] := by
              simp [Nat.ne_of_gt positive]
            rw [collapseFrom_cons_of_long nonempty fits long]
            exact .stop (not_passable_of_full followed name) _
          have following (closed : List Run) (total : Nat) (bound : total ≤ longestRun + 1) :=
            hypothesis countable.tail othersBounded bound closed first.name
          -- With no run open, the slot opens one of its own.
          have fresh (closed : List Run) :=
            endsAt_cons_of_same counted positive fits (Nat.zero_le _) (following closed)
          rw [Nat.zero_add] at fresh
          by_cases same : first.name = name
          · subst same
            rw [← List.append_assoc, List.replicate_append_replicate]
            exact endsAt_cons_of_same counted positive fits short (following finished)
          rcases Nat.eq_zero_or_pos length with rfl | opened
          · rw [collapseFrom_zero finished name first.name]
            exact fresh finished
          · exact endsAt_cons_of_ne counted positive fits opened short same (fresh _)

/-- A table that cannot be laid out as a whole has a first slot that is too large for it. -/
theorem exists_first_isTooLarge
    {slots : List Slot}
    (notCountable : ¬ Countable slots) :
    ∃ before slot rest, slots = before ++ slot :: rest ∧ Countable before ∧
      slot.isTooLarge = true := by
  cases found : slots.find? Slot.isTooLarge with
  | none =>
      refine absurd (fun slot member => ?_) notCountable
      simpa using List.find?_eq_none.mp found slot member
  | some slot =>
      obtain ⟨tooLarge, before, rest, whole, earlier⟩ := List.find?_eq_some_iff_append.mp found
      exact ⟨before, slot, rest, whole, fun other member => by simpa using earlier other member,
        tooLarge⟩

theorem countable_iff (slots : List Slot) :
    Countable slots ↔ ∀ slot ∈ slots, slot.count.toInt ≤ 2 ^ 63 - 1 := by
  unfold Countable
  simp only [← Bool.not_eq_true, Slot.isTooLarge_iff, Int.not_lt]

/-- The walk over a built table in which a slot too large to be laid out stands behind slots that
are not. -/
theorem Built.exists_endsAt_collapse
    {table : SlotTable}
    (built : table.Built)
    (whole : table.items = before ++ slot :: rest)
    (countable : Countable before)
    (tooLarge : slot.isTooLarge = true) :
    ∃ names, (⟨before⟩ : SlotTable).expandTo .none = .ok names ∧
      EndsAt [] (maximalRuns names) table.collapse := by
  -- Only the last slot of a built table can be unbounded, so none in front of another one is.
  have bounded : ∀ earlier ∈ before, earlier.count ≠ .unbounded := by
    intro earlier member
    apply built.count_ne_of_mem_dropLast
    rw [whole, List.dropLast_append_of_ne_nil (List.cons_ne_nil slot rest)]
    exact List.mem_append_left _ member
  refine ⟨_, expandTo_none_eq_positions countable bounded, ?_⟩
  rw [collapse, whole]
  exact endsAt_collapseFrom tooLarge countable bounded (Nat.zero_le _) [] [] rest

end SlotTable

namespace Sheet

/-- Listing the runs of a sheet is refused exactly when a slot has a count above the largest that
can be laid out and the names in front of the first such slot fall into maximal runs that can be
passed: at most 256 names in each of them, and at most 257 in the last. The sheet is then left with
the names and lengths of these runs except the last one, and otherwise as it was. -/
theorem generateRuns_refused_iff
    {sheet : Sheet}
    (built : sheet.slots.Built)
    (after : Sheet) :
    sheet.generateRuns = ⟨after, some .countTooLarge⟩ ↔
      ∃ before slot rest names,
        sheet.slots.items = before ++ slot :: rest ∧
          (∀ earlier ∈ before, earlier.count.toInt ≤ 2 ^ 63 - 1) ∧
          2 ^ 63 - 1 < slot.count.toInt ∧
          (⟨before⟩ : SlotTable).expandTo .none = .ok names ∧
          Passable (maximalRuns names) ∧
          after = { sheet with runs := (maximalRuns names).dropLast.map Run.ofEqualNames } := by
  have outcome : sheet.generateRuns = ⟨after, some .countTooLarge⟩ ↔
      sheet.slots.collapse.refused = true ∧
        after = { sheet with runs := sheet.slots.collapse.runs } := by
    rw [generateRuns, Aftermath.mk.injEq, and_comm, eq_comm (b := after)]
    simp
  rw [outcome]
  constructor
  · rintro ⟨refused, rfl⟩
    have notCountable : ¬ SlotTable.Countable sheet.slots.items := by
      intro countable
      rw [SlotTable.collapse, SlotTable.refused_collapseFrom countable] at refused
      cases refused
    obtain ⟨before, slot, rest, whole, countable, tooLarge⟩ :=
      SlotTable.exists_first_isTooLarge notCountable
    obtain ⟨names, expanded, ends⟩ := built.exists_endsAt_collapse whole countable tooLarge
    refine ⟨before, slot, rest, names, whole, (SlotTable.countable_iff before).mp countable,
      slot.isTooLarge_iff.mp tooLarge, expanded, ?_⟩
    generalize sheet.slots.collapse = collapse at ends refused ⊢
    cases ends with
    | refusal passable => exact ⟨passable, rfl⟩
    | stop blocked recorded => cases refused
  · rintro ⟨before, slot, rest, names, whole, fits, exceeds, expanded, passable, rfl⟩
    obtain ⟨_, drawn, ends⟩ := built.exists_endsAt_collapse whole
      ((SlotTable.countable_iff before).mpr fits) (slot.isTooLarge_iff.mpr exceeds)
    obtain rfl := Except.ok.inj (expanded.symm.trans drawn)
    generalize sheet.slots.collapse = collapse at ends
    cases ends with
    | refusal passable => exact ⟨rfl, rfl⟩
    | stop blocked recorded => exact absurd passable blocked

/-- An open run of 257 names, reserved around an empty slot, does not keep the walk from a slot that
is too large; the walk is refused there, and only the run in front of the open one is recorded. -/
theorem generateRuns_refused_of_full_run :
    let offers : List (Value × Value) :=
      [(.str ['x'], .int 3), (.str ['a'], .int 200), (.str ['b'], .int 0), (.str ['a'], .int 57),
        (.str ['c'], .int (2 ^ 63))]
    let sheet : Sheet :=
      { application := ['b'], category := [], command := ['c'], description := ['d']
        slots := attemptAll SlotTable.accept {} offers }
    sheet.slots.Built ∧
      sheet.generateRuns = ⟨{ sheet with runs := [⟨['x'], 3⟩] }, some .countTooLarge⟩ := by
  intro offers sheet
  have built : sheet.slots.Built := SlotTable.built_attemptAll offers
  let before : List Slot :=
    [⟨['x'], .exactly 3⟩, ⟨['a'], .exactly 200⟩, ⟨['b'], .exactly 0⟩, ⟨['a'], .exactly 57⟩]
  have runs : maximalRuns (List.replicate 3 ['x'] ++ List.replicate 257 ['a']) =
      [List.replicate 3 ['x'], List.replicate 257 ['a']] := by
    rw [maximalRuns_replicate_append (by decide) (by decide), maximalRuns_replicate (by decide)]
  refine ⟨built, (generateRuns_refused_iff built _).mpr ⟨before, ⟨['c'], .exactly (2 ^ 63)⟩, [],
    List.replicate 3 ['x'] ++ List.replicate 257 ['a'], rfl, by decide, by decide, by cbv, ?_, ?_⟩⟩
  · rw [runs, passable_cons_iff (List.cons_ne_nil _ _)]
    exact ⟨by decide, passable_singleton (by rw [List.length_replicate, longestRun])⟩
  · rw [runs]
    rfl

end Sheet
end Handbook
