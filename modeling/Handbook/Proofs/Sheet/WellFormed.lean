import Handbook.Proofs.Sheet.Positions

/-!
# Well-formed parameters

Minus one is written for a missing position and for an unlimited number of
values, and zero stands for the first position as well as for the limit of a
toggle. The parameters of an initialized sheet never confuse them: a named
parameter has no position and the limit of its cardinality, a positional one has
a position and the limit of its run. None that must be given is a toggle.
-/

namespace Handbook

namespace Cardinality

/-- What can be required takes a value and does not fall back on a default. -/
theorem canBeRequired_iff {cardinality : Cardinality} :
    cardinality.canBeRequired = true ↔ cardinality ≠ .defaulted ∧ cardinality ≠ .toggle := by
  cases cardinality <;> simp [canBeRequired]

theorem limit_eq_zero_iff {cardinality : Cardinality} :
    cardinality.limit = 0 ↔ cardinality = .toggle := by
  cases cardinality <;> simp [limit, unboundedCount]

theorem limit_cases (cardinality : Cardinality) :
    cardinality.limit = 0 ∨ cardinality.limit = 1 ∨ cardinality.limit = unboundedCount := by
  cases cardinality <;> simp [limit]

end Cardinality

/-- The fields of a parameter agree with each other and with the descriptor that it is made of. -/
structure Parameter.WellFormed (parameter : Parameter) (descriptor : Descriptor) : Prop where
  named : parameter.isPositional = false →
    parameter.position = .int noPosition ∧
      (parameter.limit = .int 0 ∨ parameter.limit = .int 1 ∨
        parameter.limit = .int unboundedCount) ∧
      (parameter.limit = .int 0 ↔ descriptor.cardinality = .toggle)
  positional : parameter.isPositional = true →
    ∃ (start : Nat) (name : Text) (limit : Int),
      parameter.position = .int start ∧ parameter.longName = .str name ∧ name ≠ [] ∧
        parameter.limit = .int limit ∧
        (1 ≤ limit ∧ limit ≤ longestRun ∨ limit = unboundedCount)
  required_eq : ∃ flag, parameter.required = .bool flag
  required_iff : parameter.required = .bool true ↔
    descriptor.required = .bool true ∧ descriptor.default = .unset ∧
      descriptor.cardinality ≠ .toggle
  limit_ne_zero : parameter.required = .bool true → parameter.limit ≠ .int 0

namespace Descriptor

variable {descriptor : Descriptor} {runs : List Run}

/-- A parameter is positional when its descriptor has a position. -/
theorem isPositional_parameterIn_eq_false_iff :
    (descriptor.parameterIn runs).isPositional = false ↔
      Run.position descriptor.longText runs = Parameter.noPosition := by
  simp [Parameter.isPositional, parameterIn]

/-- The limit of a named parameter is that of its cardinality. -/
theorem limit_parameterIn_of_named
    (named : (descriptor.parameterIn runs).isPositional = false) :
    (descriptor.parameterIn runs).limit = .int descriptor.cardinality.limit := by
  rw [isPositional_parameterIn_eq_false_iff] at named
  simp [parameterIn, limitIn, named]

/-- A named parameter is a toggle when its descriptor is one. -/
theorem limit_parameterIn_eq_zero_iff
    (named : (descriptor.parameterIn runs).isPositional = false) :
    (descriptor.parameterIn runs).limit = .int 0 ↔ descriptor.cardinality = .toggle := by
  rw [limit_parameterIn_of_named named, Value.int.injEq, Cardinality.limit_eq_zero_iff]

/-- The parameter of an accepted declaration must be given exactly when the declaration says so,
has no default and is no toggle. -/
theorem required_parameterIn_iff
    {declaration : Declaration}
    (accepted : declaration.check = .ok descriptor) :
    (descriptor.parameterIn runs).required = .bool true ↔
      descriptor.required = .bool true ∧ descriptor.default = .unset ∧
        descriptor.cardinality ≠ .toggle := by
  obtain ⟨flag, required⟩ := (Declaration.checked_of_check accepted).required_eq
  have noDefault : descriptor.cardinality ≠ .defaulted ↔ descriptor.default = .unset := by
    rw [ne_eq, Declaration.cardinality_eq_defaulted_iff accepted, not_not]
  rw [← noDefault, ← Cardinality.canBeRequired_iff]
  simp [parameterIn, required]

/-- Among the runs of a built table, a positional parameter has a position, a name and the limit of
a run. -/
theorem exists_limit_parameterIn
    {table : SlotTable}
    (built : table.Built)
    (positional : (descriptor.parameterIn table.mergedRuns).isPositional = true) :
    ∃ (start : Nat) (name : Text) (limit : Int),
      (descriptor.parameterIn table.mergedRuns).position = .int start ∧
        (descriptor.parameterIn table.mergedRuns).longName = .str name ∧ name ≠ [] ∧
        (descriptor.parameterIn table.mergedRuns).limit = .int limit ∧
        (1 ≤ limit ∧ limit ≤ longestRun ∨ limit = unboundedCount) := by
  obtain ⟨start, limit, position, limited, firstRun⟩ := exists_firstRun_parameterIn positional
  exact ⟨start, descriptor.longText, limit, position, rfl,
    built.boundName_ne_nil firstRun.bound, limited, firstRun.told.symm⟩

/-- Among the runs of a built table, the parameter of an accepted declaration is well-formed. -/
theorem wellFormed_parameterIn
    {declaration : Declaration}
    {table : SlotTable}
    (accepted : declaration.check = .ok descriptor)
    (built : table.Built) :
    (descriptor.parameterIn table.mergedRuns).WellFormed descriptor where
  named := by
    intro named
    refine ⟨?_, ?_, limit_parameterIn_eq_zero_iff named⟩
    · exact congrArg Value.int (isPositional_parameterIn_eq_false_iff.mp named)
    · rw [limit_parameterIn_of_named named]
      simpa using descriptor.cardinality.limit_cases
  positional := exists_limit_parameterIn built
  required_eq := ⟨_, rfl⟩
  required_iff := required_parameterIn_iff accepted
  limit_ne_zero := by
    intro required
    cases placed : (descriptor.parameterIn table.mergedRuns).isPositional with
    | false =>
        rw [ne_eq, limit_parameterIn_eq_zero_iff placed]
        exact ((required_parameterIn_iff accepted).mp required).2.2
    | true =>
        obtain ⟨_, _, limit, _, _, _, limited, told⟩ := exists_limit_parameterIn built placed
        rw [limited, ne_eq, Value.int.injEq]
        unfold unboundedCount at told
        omega

end Descriptor

/-- Every parameter of an initialized sheet is made of one of its options, and agrees with it: a
named one has no position and the limit of its cardinality, zero only for a toggle; a positional one
has a position, a name and a limit that is a counted run or none at all, whatever its option was
declared as; and one must be given exactly when its option says so, has no default and is no toggle.
-/
theorem Sheet.wellFormed_parameters
    {sheet : Sheet}
    (built : sheet.Built)
    (succeeded : sheet.initialized.failure = none) :
    ∀ parameter ∈ sheet.initialized.state.parameters,
      ∃ descriptor ∈ sheet.options.items,
        sheet.classifier.classifyDescriptor descriptor
            (sheet.initialized.state.runs.map Run.binding) = .ok parameter ∧
          parameter.WellFormed descriptor := by
  rw [built.initialized_eq (built.failure_initialized_iff.mp succeeded)]
  intro parameter member
  obtain ⟨descriptor, declared, rfl⟩ := List.mem_map.mp (mem_arranged.mp member)
  obtain ⟨declaration, accepted⟩ := built.options.exists_check descriptor declared
  refine ⟨descriptor, declared, ?_, Descriptor.wellFormed_parameterIn accepted built.slots⟩
  rw [built.classifier]
  exact (built.options.checked descriptor declared).classifyDescriptor _

/-- An option that is declared as a toggle, whose name is bound to more positions than are counted.
-/
theorem Sheet.wellFormed_parameters_of_positional_toggle :
    let slots : SlotTable := ⟨[⟨['B'], .exactly 1⟩, ⟨['A'], .exactly 300⟩]⟩
    let toggle : Descriptor := ⟨.str ['A'], .str [], .str [], .toggle, .unset, .bool true⟩
    let sheet : Sheet :=
      { application := [], category := [], command := [], description := [], slots
        options := ⟨[toggle]⟩ }
    let parameter : Parameter :=
      { position := .int 1, longName := .str ['A'], limit := .int (-1) }
    sheet.Built ∧ sheet.initialized.failure = none ∧
      sheet.initialized.state.parameters = [parameter] ∧ parameter.WellFormed toggle := by
  intro slots toggle sheet parameter
  have slotsAdded : SlotTable.addAll {} [(.str ['B'], .int 1), (.str ['A'], .int 300)] =
      .ok slots := rfl
  have optionsAdded : OptionTable.addAll {}
      ([{ names := .str ['A'], required := .bool true }].map .declared) = .ok sheet.options := by
    cbv
  have built : sheet.Built := ⟨.addAll .empty slotsAdded, .addAll .empty optionsAdded, rfl⟩
  have succeeded : sheet.initialized.failure = none := by cbv
  have parameters : sheet.initialized.state.parameters = [parameter] := by cbv
  obtain ⟨descriptor, member, _, wellFormed⟩ :=
    wellFormed_parameters built succeeded parameter (by rw [parameters]; exact List.mem_cons_self)
  rw [List.mem_singleton.mp member] at wellFormed
  exact ⟨built, succeeded, parameters, wellFormed⟩

end Handbook
