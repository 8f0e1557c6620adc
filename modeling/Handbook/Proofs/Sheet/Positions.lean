import Handbook.Proofs.Sheet.Parameters
import Handbook.Sheet.Layout

/-!
# Parameters and positions

The positional parameters of an initialized sheet agree with the positions of its
slots: each stands at the first position bound to its name and has the length of
the run that begins there. A descriptor is positional exactly when a position of
its long name is not left behind a run that is too long to be counted.
-/

namespace Handbook

namespace SlotTable

theorem exists_mem_of_nameIn
    {slots : List Slot}
    {position : Nat}
    {name : Text}
    (bound : nameIn slots position = some name) :
    ∃ slot ∈ slots, slot.name = name := by
  induction slots generalizing position with
  | nil => simp at bound
  | cons slot rest hypothesis =>
      cases counted : slot.count with
      | unbounded =>
          rw [nameIn_cons_of_unbounded counted] at bound
          exact ⟨slot, List.mem_cons_self, Option.some.inj bound⟩
      | exactly number =>
          rcases Nat.lt_or_ge position number with inside | behind
          · rw [nameIn_cons_of_lt counted inside] at bound
            exact ⟨slot, List.mem_cons_self, Option.some.inj bound⟩
          · obtain ⟨offset, rfl⟩ := Nat.exists_eq_add_of_le behind
            rw [nameIn_cons_add counted] at bound
            obtain ⟨other, member, named⟩ := hypothesis bound
            exact ⟨other, List.mem_cons_of_mem slot member, named⟩

/-- No position of a built table is bound to an empty name. -/
theorem Built.boundName_ne_nil
    {table : SlotTable}
    {position : Nat}
    {name : Text}
    (built : table.Built)
    (bound : table.boundName position = some name) :
    name ≠ [] := by
  rw [boundName_eq_nameIn] at bound
  obtain ⟨slot, member, rfl⟩ := exists_mem_of_nameIn bound
  exact built.name_ne_nil slot member

/-- The position of a name among merged runs is one when the name has one of them. -/
theorem isPosition_position (table : SlotTable) (name : Text) :
    Parameter.isPosition (.int (Run.position name table.mergedRuns)) =
      (Run.first? name table.mergedRuns).isSome := by
  unfold Run.position
  cases first : Run.first? name table.mergedRuns with
  | none => simp
  | some run =>
      obtain ⟨start, offset, _⟩ := exists_firstRun_mergedRuns first
      simp [offset, Parameter.noPosition]

end SlotTable

namespace Descriptor

/-- A descriptor is positional among merged runs when its long name has one. -/
theorem isPositional_parameterIn (descriptor : Descriptor) (table : SlotTable) :
    (descriptor.parameterIn table.mergedRuns).isPositional =
      (Run.first? descriptor.longText table.mergedRuns).isSome :=
  table.isPosition_position descriptor.longText

/-- The position and the limit of a positional descriptor are those of the first run of its long
name. -/
theorem exists_firstRun_parameterIn
    {descriptor : Descriptor}
    {table : SlotTable}
    (positional : (descriptor.parameterIn table.mergedRuns).isPositional = true) :
    ∃ (start : Nat) (limit : Int),
      (descriptor.parameterIn table.mergedRuns).position = .int start ∧
        (descriptor.parameterIn table.mergedRuns).limit = .int limit ∧
        FirstRun table.boundName descriptor.longText start limit := by
  have found := positional
  rw [isPositional_parameterIn] at found
  obtain ⟨run, first⟩ := Option.isSome_iff_exists.mp found
  obtain ⟨start, offset, firstRun⟩ := SlotTable.exists_firstRun_mergedRuns first
  have position : Run.position descriptor.longText table.mergedRuns = start := by
    rw [Run.position, if_pos found, offset]
  have placed : Run.position descriptor.longText table.mergedRuns ≠ Parameter.noPosition := by
    rw [position]
    simp [Parameter.noPosition]
  have limit : descriptor.limitIn table.mergedRuns = run.count := by
    rw [limitIn, if_neg placed, first]
  exact ⟨start, run.count, congrArg Value.int position, congrArg Value.int limit, firstRun⟩

end Descriptor

namespace Sheet

variable {sheet : Sheet}

/-- Distinct descriptors never come to stand at one position. -/
theorem Built.pairwise_position (built : sheet.Built) :
    (sheet.declaredParameters.filter Parameter.isPositional).Pairwise
      fun first second => first.position ≠ second.position := by
  rw [List.pairwise_filter, declaredParameters, List.pairwise_map]
  refine built.options.distinct.imp ?_
  intro first second distinct firstPositional secondPositional equal
  obtain ⟨start, _, firstPosition, _, firstRun⟩ :=
    Descriptor.exists_firstRun_parameterIn firstPositional
  obtain ⟨other, _, secondPosition, _, secondRun⟩ :=
    Descriptor.exists_firstRun_parameterIn secondPositional
  have sameStart : start = other := by
    rw [firstPosition, secondPosition, Value.int.injEq] at equal
    exact_mod_cast equal
  subst sameStart
  have sameName : first.longText = second.longText :=
    Option.some.inj (firstRun.bound.symm.trans secondRun.bound)
  exact distinct.1 (built.slots.boundName_ne_nil firstRun.bound) sameName

/-- Every positional parameter of an initialized sheet stands at the least position bound to its
name, and its limit tells how many positions the run from there on has: exactly as many for a
number, which is at most the longest run that is counted, and more than that run for an unbounded
limit. No two positional parameters stand at one position. -/
theorem positional_parameters_agree
    (built : sheet.Built)
    (succeeded : sheet.initialized.failure = none) :
    (∀ parameter ∈ sheet.initialized.state.parameters, parameter.isPositional = true →
      ∃ (name : Text) (start : Nat) (limit : Int),
        parameter.longName = .str name ∧ parameter.position = .int start ∧
          parameter.limit = .int limit ∧ FirstRun sheet.slots.boundName name start limit) ∧
      (sheet.initialized.state.parameters.filter Parameter.isPositional).Pairwise
        fun first second => first.position ≠ second.position := by
  have accepted := built.failure_initialized_iff.mp succeeded
  rw [built.initialized_eq accepted]
  dsimp only
  constructor
  · intro parameter member positional
    obtain ⟨descriptor, _, rfl⟩ := List.mem_map.mp (mem_arranged.mp member)
    obtain ⟨start, limit, position, limitEqual, firstRun⟩ :=
      Descriptor.exists_firstRun_parameterIn positional
    exact ⟨descriptor.longText, start, limit, rfl, position, limitEqual, firstRun⟩
  · rw [filter_isPositional_arranged]
    exact built.pairwise_position

/-- A name that is declared in two parts around an empty slot, and an unbounded slot behind it whose
option comes first. -/
theorem positional_parameters_agree_of_split_slot :
    let slots : SlotTable := ⟨[⟨['A'], .exactly 2⟩, ⟨['B'], .exactly 0⟩, ⟨['A'], .exactly 3⟩,
      ⟨['C'], .unbounded⟩]⟩
    let options : OptionTable := ⟨[⟨.str ['C'], .str [], .str [], .toggle, .unset, .bool false⟩,
      ⟨.str ['A'], .str [], .str [], .toggle, .unset, .bool false⟩]⟩
    let sheet : Sheet :=
      { application := [], category := [], command := [], description := [], slots, options }
    sheet.Built ∧ sheet.initialized.failure = none ∧
      FirstRun slots.boundName ['C'] 5 unboundedCount := by
  intro slots options sheet
  have slotsAdded : SlotTable.addAll {} [(.str ['A'], .int 2), (.str ['B'], .int 0),
      (.str ['A'], .int 3), (.str ['C'], .int (-1))] = .ok slots := rfl
  have optionsAdded : OptionTable.addAll {}
      ([{ names := .str ['C'] }, { names := .str ['A'] }].map .declared) = .ok options := by cbv
  have built : sheet.Built := ⟨.addAll .empty slotsAdded, .addAll .empty optionsAdded, rfl⟩
  have succeeded : sheet.initialized.failure = none := by cbv
  have parameters : sheet.initialized.state.parameters =
      [{ position := .int 5, longName := .str ['C'], limit := .int (-1) },
        { position := .int 0, longName := .str ['A'], limit := .int 5 }] := by cbv
  obtain ⟨name, start, limit, named, placed, limited, run⟩ :=
    (positional_parameters_agree built succeeded).1
      { position := .int 5, longName := .str ['C'], limit := .int (-1) }
      (by rw [parameters]; exact List.mem_cons_self) (by cbv)
  cases named
  cases limited
  obtain rfl : 5 = start := Int.ofNat.inj (Value.int.inj placed)
  exact ⟨built, succeeded, run⟩

/-! ## Positional descriptors -/

/-- The groups of the usage line that show an argument. -/
def argumentGroups : List UsageGroup :=
  [.requiredArgument, .singleArgument, .multipleArgument]

/-- A positional parameter that accepts a value is shown as an argument. -/
theorem usageGroup_mem_argumentGroups
    {parameter : Parameter}
    {limit : Int}
    (positional : parameter.isPositional = true)
    (limited : parameter.limit = .int limit)
    (accepting : limit ≠ 0) :
    usageGroup parameter ∈ argumentGroups := by
  have placed : usageGroup parameter =
      if parameter.required.truthy then .requiredArgument
      else if parameter.limit.equals (.int 1) then .singleArgument
      else .multipleArgument := by
    simp [usageGroup, limited, accepting, positional]
  rw [placed]
  split_ifs <;> decide

/-- The name of a positional descriptor stands for itself, in its table and in the usage line. -/
theorem shown_of_isPositional
    {descriptor : Descriptor}
    (positional : (descriptor.parameterIn sheet.slots.mergedRuns).isPositional = true) :
    (descriptor.parameterIn sheet.slots.mergedRuns).rowName = .str descriptor.longText ∧
      usageGroup (descriptor.parameterIn sheet.slots.mergedRuns) ∈ argumentGroups := by
  obtain ⟨start, limit, _, limited, firstRun⟩ :=
    Descriptor.exists_firstRun_parameterIn positional
  have accepting : limit ≠ 0 := by
    rcases firstRun.told with endless | ⟨positive, _⟩
    · rw [endless]
      decide
    · exact Int.ne_of_gt positive
  exact ⟨Parameter.rowName_of_positional positional,
    usageGroup_mem_argumentGroups positional limited accepting⟩

/-- Initializing a sheet of countable slots always succeeds. An option comes out positional exactly
when its long name has a position that is not left behind a run too long to be counted; it is then
shown by its bare name, and among the arguments. -/
theorem isPositional_iff_reached
    (built : sheet.Built)
    (countable : SlotTable.Countable sheet.slots.items) :
    sheet.initialized.failure = none ∧
      ∀ descriptor ∈ sheet.options.items,
        ∃ parameter ∈ sheet.initialized.state.parameters,
          sheet.classifier.classifyDescriptor descriptor
              (sheet.initialized.state.runs.map Run.binding) = .ok parameter ∧
            (parameter.isPositional = true ↔
              ∃ position, sheet.slots.boundName position = some descriptor.longText ∧
                Reached sheet.slots.boundName position) ∧
            (parameter.isPositional = true →
              parameter.rowName = .str descriptor.longText ∧
                usageGroup parameter ∈ argumentGroups) := by
  have accepted : sheet.slots.collapse.refused = false :=
    SlotTable.refused_collapseFrom countable _ _ _
  rw [built.initialized_eq accepted]
  refine ⟨rfl, ?_⟩
  intro descriptor member
  refine ⟨descriptor.parameterIn sheet.slots.mergedRuns, ?_, ?_, ?_, shown_of_isPositional⟩
  · exact mem_arranged.mpr (List.mem_map_of_mem member)
  · rw [built.classifier]
    exact (built.options.checked descriptor member).classifyDescriptor _
  · rw [Descriptor.isPositional_parameterIn]
    exact SlotTable.isSome_first?_mergedRuns_iff sheet.slots descriptor.longText

/-- The option of a run that is too long to be counted is positional, since the run itself is
reached. -/
theorem isPositional_of_reached_long_run :
    let slots : SlotTable := ⟨[⟨['B'], .exactly 1⟩, ⟨['A'], .exactly 300⟩]⟩
    let descriptor : Descriptor := ⟨.str ['A'], .str [], .str [], .toggle, .unset, .bool false⟩
    let sheet : Sheet :=
      { application := [], category := [], command := [], description := [], slots
        options := ⟨[descriptor]⟩ }
    sheet.Built ∧ SlotTable.Countable slots.items ∧
      ∃ parameter ∈ sheet.initialized.state.parameters,
        parameter.isPositional = true ∧ parameter.rowName = .str ['A'] := by
  intro slots descriptor sheet
  have slotsAdded : SlotTable.addAll {} [(.str ['B'], .int 1), (.str ['A'], .int 300)] =
      .ok slots := rfl
  have optionsAdded : OptionTable.addAll {} ([{ names := .str ['A'] }].map .declared) =
      .ok sheet.options := by cbv
  have built : sheet.Built := ⟨.addAll .empty slotsAdded, .addAll .empty optionsAdded, rfl⟩
  have countable : SlotTable.Countable sheet.slots.items := by
    unfold SlotTable.Countable
    decide
  obtain ⟨parameter, member, _, positional, shown⟩ :=
    (isPositional_iff_reached built countable).2 descriptor List.mem_cons_self
  have isPositional : parameter.isPositional = true :=
    positional.mpr ⟨1, by cbv, fun _ start _ => by unfold longestRun; omega⟩
  exact ⟨built, countable, parameter, member, isPositional, (shown isPositional).1⟩

/-- The option of a name that is bound only behind 257 positions of another one is no positional
one, but a named one. -/
theorem not_isPositional_of_long_run :
    let slots : SlotTable := ⟨[⟨['a'], .exactly 257⟩, ⟨['b'], .exactly 1⟩]⟩
    let descriptor : Descriptor := ⟨.str ['b'], .str [], .str ['x'], .toggle, .unset, .bool false⟩
    let sheet : Sheet :=
      { application := [], category := [], command := [], description := [], slots
        options := ⟨[descriptor]⟩ }
    let parameter : Parameter := { longName := .str ['b'], description := .str ['x'] }
    sheet.Built ∧ SlotTable.Countable slots.items ∧ sheet.initialized.failure = none ∧
      sheet.initialized.state.parameters = [parameter] ∧
      sheet.classifier.classifyDescriptor descriptor
          (sheet.initialized.state.runs.map Run.binding) = .ok parameter ∧
      parameter.rowName = .str ['-', '-', 'b'] ∧
      ¬ (parameter.isPositional = true ↔
        ∃ position, slots.boundName position = some descriptor.longText) := by
  intro slots descriptor sheet parameter
  have slotsAdded : SlotTable.addAll {} [(.str ['a'], .int 257), (.str ['b'], .int 1)] =
      .ok slots := rfl
  have optionsAdded : OptionTable.addAll {}
      ([{ names := .str ['b'], description := .str ['x'] }].map .declared) =
      .ok sheet.options := by cbv
  have built : sheet.Built := ⟨.addAll .empty slotsAdded, .addAll .empty optionsAdded, rfl⟩
  have countable : SlotTable.Countable sheet.slots.items := by
    unfold SlotTable.Countable
    decide
  have named : parameter.isPositional = false := by cbv
  have bound : slots.boundName 257 = some descriptor.longText := by cbv
  refine ⟨built, countable, by cbv, by cbv, by cbv, by cbv, ?_⟩
  intro agree
  rw [named] at agree
  exact Bool.false_ne_true (agree.mpr ⟨257, bound⟩)

end Sheet
end Handbook
