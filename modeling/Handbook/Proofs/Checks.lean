/-!
# Checks in sequence

A sequence of checks is passed when every check of it is.
-/

namespace Handbook

variable {Error Item Checked Result State : Type}

/-- A passed sequence of two checks passed the first one, and then the second. -/
theorem exists_of_bind_eq_ok
    {check : Except Error Checked}
    {next : Checked → Except Error Result}
    {result : Result}
    (passed : (check >>= next) = .ok result) :
    ∃ checked, check = .ok checked ∧ next checked = .ok result := by
  cases check with
  | error error => cases passed
  | ok checked => exact ⟨checked, rfl, passed⟩

theorem exists_of_map_eq_ok
    {check : Except Error Checked}
    {shown : Checked → Result}
    {result : Result}
    (passed : check.map shown = .ok result) :
    ∃ checked, check = .ok checked ∧ shown checked = result := by
  cases check with
  | error error => cases passed
  | ok checked => exact ⟨checked, rfl, by injection passed⟩

/-- Items that all pass a check are checked one by one. -/
theorem mapM_eq_ok_map
    {check : Item → Except Error Checked}
    {checked : Item → Checked}
    {items : List Item}
    (passed : ∀ item ∈ items, check item = .ok (checked item)) :
    items.mapM check = .ok (items.map checked) := by
  induction items with
  | nil => rfl
  | cons item rest hypothesis =>
      obtain ⟨first, others⟩ := List.forall_mem_cons.mp passed
      rw [List.mapM_cons, first, hypothesis others]
      rfl

/-- Checks that agree on each item agree on all of them in sequence. -/
theorem mapM_congr
    {check other : Item → Except Error Checked}
    {items : List Item}
    (same : ∀ item ∈ items, check item = other item) :
    items.mapM check = items.mapM other := by
  induction items with
  | nil => rfl
  | cons item rest hypothesis =>
      obtain ⟨here, others⟩ := List.forall_mem_cons.mp same
      rw [List.mapM_cons, List.mapM_cons, here, hypothesis others]

/-- A check whose results are those of another one, shown in some way, has results shown in this
way. -/
theorem mapM_eq_map_mapM
    {Shown : Type}
    {check : Item → Except Error Checked}
    {other : Item → Except Error Shown}
    {shown : Checked → Shown}
    {items : List Item}
    (same : ∀ item ∈ items, other item = (check item).map shown) :
    items.mapM other = (items.mapM check).map (List.map shown) := by
  induction items with
  | nil => rfl
  | cons item rest hypothesis =>
      obtain ⟨here, others⟩ := List.forall_mem_cons.mp same
      rw [List.mapM_cons, List.mapM_cons, here, hypothesis others]
      cases check item with
      | error error => rfl
      | ok checked => cases rest.mapM check <;> rfl

/-- Items that are all checked have one result each, in order. -/
theorem map_eq_of_mapM_eq_ok
    {check : Item → Except Error Checked}
    {items : List Item}
    {results : List Checked}
    (passed : items.mapM check = .ok results) :
    items.map check = results.map .ok := by
  induction items generalizing results with
  | nil =>
      cases passed
      rfl
  | cons item rest hypothesis =>
      rw [List.mapM_cons] at passed
      obtain ⟨first, firstPassed, following⟩ := exists_of_bind_eq_ok passed
      obtain ⟨others, othersPassed, whole⟩ := exists_of_bind_eq_ok following
      cases whole
      rw [List.map_cons, firstPassed, hypothesis othersPassed]
      rfl

/-- The results of checking items one by one are what the items were checked to be. -/
theorem mem_iff_of_mapM_eq_ok
    {check : Item → Except Error Checked}
    {items : List Item}
    {results : List Checked}
    (passed : items.mapM check = .ok results)
    (result : Checked) :
    result ∈ results ↔ ∃ item ∈ items, check item = .ok result := by
  have inResults : result ∈ results ↔ (.ok result : Except Error Checked) ∈ results.map .ok := by
    simp
  rw [inResults, ← map_eq_of_mapM_eq_ok passed, List.mem_map]

/-- Checking items one by one is refused at the first item that does not pass. -/
theorem mapM_eq_error_iff
    {check : Item → Except Error Checked}
    {items : List Item}
    {error : Error} :
    items.mapM check = .error error ↔
      ∃ front item rest, items = front ++ item :: rest ∧
        (∃ results, front.mapM check = .ok results) ∧ check item = .error error := by
  constructor
  · intro refused
    induction items with
    | nil => cases refused
    | cons first others hypothesis =>
        rw [List.mapM_cons] at refused
        cases passed : check first with
        | error _ =>
            rw [passed] at refused
            cases refused
            exact ⟨[], first, others, rfl, ⟨[], rfl⟩, passed⟩
        | ok result =>
            rw [passed] at refused
            cases following : others.mapM check with
            | ok results =>
                rw [following] at refused
                cases refused
            | error _ =>
                rw [following] at refused
                cases refused
                obtain ⟨front, item, rest, rfl, ⟨results, before⟩, stopped⟩ := hypothesis following
                refine ⟨first :: front, item, rest, rfl, ⟨result :: results, ?_⟩, stopped⟩
                rw [List.mapM_cons, passed, before]
                rfl
  · rintro ⟨front, item, rest, rfl, ⟨results, before⟩, stopped⟩
    rw [List.mapM_append, before, List.mapM_cons, stopped]
    rfl

/-- A sequence of two checks is refused by the first one, or by the second behind the first. -/
theorem bind_eq_error_iff
    {check : Except Error Checked}
    {next : Checked → Except Error Result}
    {error : Error} :
    (check >>= next) = .error error ↔
      check = .error error ∨ ∃ checked, check = .ok checked ∧ next checked = .error error := by
  cases check with
  | error refusal => simp [bind, Except.bind]
  | ok checked => simp [bind, Except.bind]

/-- A sequence of steps is refused at the first step that does not pass. -/
theorem foldlM_eq_error_iff
    {step : State → Item → Except Error State}
    {items : List Item}
    {state : State}
    {error : Error} :
    items.foldlM step state = .error error ↔
      ∃ front item rest before, items = front ++ item :: rest ∧
        front.foldlM step state = .ok before ∧ step before item = .error error := by
  constructor
  · intro refused
    induction items generalizing state with
    | nil => cases refused
    | cons first others hypothesis =>
        rw [List.foldlM_cons, bind_eq_error_iff] at refused
        rcases refused with stopped | ⟨next, passed, following⟩
        · exact ⟨[], first, others, state, rfl, rfl, stopped⟩
        · obtain ⟨front, item, rest, before, rfl, reached, stopped⟩ := hypothesis following
          refine ⟨first :: front, item, rest, before, rfl, ?_, stopped⟩
          rw [List.foldlM_cons, passed]
          exact reached
  · rintro ⟨front, item, rest, before, rfl, reached, stopped⟩
    rw [List.foldlM_append, reached]
    exact bind_eq_error_iff.mpr (.inr ⟨before, rfl, by rw [List.foldlM_cons, stopped]; rfl⟩)

/-- Going through items that all pass is passed. -/
theorem forM_eq_ok
    {check : Item → Except Error Unit}
    {items : List Item}
    (passed : ∀ item ∈ items, check item = .ok ()) :
    items.forM check = .ok () := by
  induction items with
  | nil => rfl
  | cons item rest hypothesis =>
      obtain ⟨here, others⟩ := List.forall_mem_cons.mp passed
      change (check item >>= fun _ => rest.forM check) = .ok ()
      rw [here]
      exact hypothesis others

/-- What every passed step keeps holds behind a sequence of passed steps. -/
theorem foldlM_keeps
    {step : State → Item → Except Error State}
    {holds : State → Prop}
    {items : List Item}
    {state after : State}
    (start : holds state)
    (kept : ∀ state item after, holds state → step state item = .ok after → holds after)
    (passed : items.foldlM step state = .ok after) :
    holds after := by
  induction items generalizing state with
  | nil =>
      cases passed
      exact start
  | cons item rest hypothesis =>
      rw [List.foldlM_cons] at passed
      obtain ⟨next, stepped, following⟩ := exists_of_bind_eq_ok passed
      exact hypothesis (kept state item next start stepped) following

end Handbook
