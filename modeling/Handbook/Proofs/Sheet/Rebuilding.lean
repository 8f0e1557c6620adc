import Handbook.Proofs.Checks
import Handbook.Sheet.Shared

/-!
# Making a sheet anew

Nothing of what was done to a sheet outlives its next initialization: of its
past only the texts it was created with and the entries accepted by its tables
matter, and a new sheet of these comes out the same.
-/

namespace Handbook

/-! ## Tables -/

namespace Operation

/-- The slots after an operation on a sheet that has the given ones: nothing but an accepted slot
changes them. -/
def slots (table : SlotTable) : Operation → SlotTable
  | addSlot name count => (table.add name count).toOption.getD table
  | _ => table

/-- The options after an operation on a sheet that has the given ones: nothing but an accepted option
changes them. -/
def options (table : OptionTable) : Operation → OptionTable
  | addOption entry => (table.add entry).toOption.getD table
  | _ => table

end Operation

namespace Sheet

variable {sheet : Sheet}

/-- The sheet with nothing made out of its tables yet. -/
def declared (sheet : Sheet) : Sheet :=
  { sheet with runs := [], parameters := [] }

@[simp] theorem declared_generateRuns (sheet : Sheet) :
    sheet.generateRuns.state.declared = sheet.declared := rfl

@[simp] theorem declared_generateParameters (sheet : Sheet) :
    sheet.generateParameters.state.declared = sheet.declared := by
  unfold generateParameters
  dsimp only
  split <;> rfl

@[simp] theorem declared_initialized (sheet : Sheet) :
    sheet.initialized.state.declared = sheet.declared := by
  unfold initialized
  dsimp only
  split
  · rfl
  · rw [declared_generateParameters, declared_generateRuns]

/-- Changing a parameter leaves the tables of a sheet alone. -/
theorem declared_changeParameter
    {index field value : Value}
    {changed : Sheet × Parameter}
    (accepted : sheet.changeParameter index field value = .ok changed) :
    changed.1.declared = sheet.declared := by
  obtain ⟨_, _, afterItem⟩ := exists_of_bind_eq_ok accepted
  obtain ⟨_, _, result⟩ := exists_of_bind_eq_ok afterItem
  cases result
  rfl

/-- Whether a sheet can be initialized depends on its tables alone, and if it can, so does what comes
of it. -/
theorem initialized_declared (sheet : Sheet) :
    sheet.declared.initialized.failure = sheet.initialized.failure ∧
      (sheet.initialized.failure = none → sheet.declared.initialized = sheet.initialized) := by
  have runs : sheet.declared.generateRuns.failure = sheet.generateRuns.failure := rfl
  unfold initialized
  dsimp only
  rw [runs]
  cases sheet.generateRuns.failure with
  | some error => exact ⟨rfl, fun succeeded => by cases succeeded⟩
  | none =>
      unfold generateParameters
      dsimp only [declared, generateRuns]
      split
      · exact ⟨rfl, fun _ => rfl⟩
      · exact ⟨rfl, fun succeeded => by cases succeeded⟩

end Sheet

namespace SharedSheet

variable {shared : SharedSheet}

/-- What no step changes is not changed by attempting one. -/
theorem declared_attempt
    {step : Except Error SharedSheet}
    (kept : ∀ after, step = .ok after → after.sheet.declared = shared.sheet.declared) :
    (shared.attempt step).state.sheet.declared = shared.sheet.declared := by
  cases step with
  | ok after => exact kept after rfl
  | error error => rfl

/-- A sheet lists what was made for it, whether its parameters came out of that or not. -/
@[simp] theorem sheet_relist (shared : SharedSheet) (made : Aftermath Sheet) :
    (shared.relist made).state.sheet = made.state := by
  unfold relist
  split <;> rfl

@[simp] theorem failure_relist (shared : SharedSheet) (made : Aftermath Sheet) :
    (shared.relist made).failure = made.failure := by
  unfold relist
  split
  · next succeeded => exact succeeded.symm
  · next failed => exact failed.symm

/-- Changing a parameter leaves the tables of a sheet alone, whether the sheet lists it or not. -/
theorem declared_assign
    {after : SharedSheet}
    {place : Nat}
    {field value : Value}
    (accepted : shared.assign place field value = .ok after) :
    after.sheet.declared = shared.sheet.declared := by
  unfold assign at accepted
  split at accepted
  · obtain ⟨_, _, rfl⟩ := exists_of_map_eq_ok accepted
    rfl
  · obtain ⟨changed, listed, rfl⟩ := exists_of_map_eq_ok accepted
    exact Sheet.declared_changeParameter listed

/-- An operation changes no text of a sheet, and its tables only by what it adds to them. -/
theorem declared_perform (shared : SharedSheet) (operation : Operation) :
    (shared.perform operation).state.sheet.declared =
      { shared.sheet.declared with
        slots := operation.slots shared.sheet.slots
        options := operation.options shared.sheet.options } := by
  cases operation with
  | addOption entry =>
      cases added : shared.sheet.options.add entry <;>
        simp [perform, attempt, Sheet.addOption, Sheet.declared, Operation.slots,
          Operation.options, added, Except.map, Except.toOption]
  | addSlot name count =>
      cases added : shared.sheet.slots.add name count <;>
        simp [perform, attempt, Sheet.addSlot, Sheet.declared, Operation.slots,
          Operation.options, added, Except.map, Except.toOption]
  | renewRuns => rfl
  | renewParameters =>
      rw [perform, sheet_relist]
      exact Sheet.declared_generateParameters _
  | renew =>
      rw [perform, sheet_relist]
      exact Sheet.declared_initialized _
  | assign place field value => exact declared_attempt fun _ => declared_assign
  | clearCopies => rfl
  | render rendering =>
      refine declared_attempt fun after asked => ?_
      obtain ⟨_, _, rfl⟩ := exists_of_map_eq_ok asked
      rfl

/-- Of all that is done to a sheet, its texts and tables show the accepted entries alone. -/
theorem declared_run (shared : SharedSheet) (operations : List Operation) :
    (shared.run operations).sheet.declared =
      { shared.sheet.declared with
        slots := operations.foldl Operation.slots shared.sheet.slots
        options := operations.foldl Operation.options shared.sheet.options } := by
  induction operations generalizing shared with
  | nil => rfl
  | cons operation rest hypothesis =>
      have step := declared_perform shared operation
      have slots : (shared.perform operation).state.sheet.slots =
          operation.slots shared.sheet.slots := congrArg Sheet.slots step
      have options : (shared.perform operation).state.sheet.options =
          operation.options shared.sheet.options := congrArg Sheet.options step
      rw [run_cons, hypothesis, step, slots, options]
      rfl

/-- A sheet that is made anew, whatever was done to it before, is the same as a new sheet with its
texts and with all entries that its tables have accepted, made once. -/
theorem renew_eq_initialized
    (shared : SharedSheet)
    (operations : List Operation)
    (succeeded : ((shared.run operations).perform .renew).failure = none) :
    ∃ fresh,
      Sheet.create (.str shared.sheet.application) (.str shared.sheet.category)
          (.str shared.sheet.command) (.str shared.sheet.description)
          (.table (operations.foldl Operation.slots shared.sheet.slots))
          (.table (operations.foldl Operation.options shared.sheet.options))
          shared.sheet.classifier = .ok fresh ∧
        fresh.initialized = ⟨((shared.run operations).perform .renew).state.sheet, none⟩ := by
  have made : (shared.run operations).sheet.initialized.failure = none := by
    rw [perform, failure_relist] at succeeded
    exact succeeded
  refine ⟨(shared.run operations).sheet.declared, ?_, ?_⟩
  · rw [declared_run]
    rfl
  · rw [(Sheet.initialized_declared _).2 made, perform, sheet_relist, ← made]

/-- A sheet with a changed parameter, a refused slot, runs made after its parameters, and a former
parameter that is changed once more. -/
theorem renew_eq_initialized_of_changed_sheet :
    let file : Descriptor := ⟨.str ['F'], .str [], .str ['y'], .toggle, .unset, .bool false⟩
    let all : Descriptor := ⟨.str ['a'], .str [], .str ['z'], .toggle, .unset, .bool false⟩
    let sheet : Sheet :=
      { application := ['b'], category := [], command := ['c'], description := ['d']
        options := ⟨[file]⟩ }
    let shared : SharedSheet := { sheet }
    let operations : List Operation :=
      [.renew, .assign 0 (.str "long_name") (.str ['q']), .addSlot (.str ['F']) (.int (-2)),
        .addSlot (.str ['F']) (.int 2), .renewRuns, .render .page,
        .addOption (.declared { names := .str ['a'], description := .str ['z'] }),
        .renewParameters, .assign 0 (.str "position") (.int 7),
        .assign 1 (.str "args_limit") (.int 7), .clearCopies]
    ((shared.run operations).perform .renew).failure = none ∧
      ∃ fresh,
        Sheet.create (.str ['b']) (.str []) (.str ['c']) (.str ['d'])
            (.table ⟨[⟨['F'], .exactly 2⟩]⟩) (.table ⟨[file, all]⟩) {} = .ok fresh ∧
          fresh.initialized = ⟨((shared.run operations).perform .renew).state.sheet, none⟩ := by
  intro file all sheet shared operations
  have slots : operations.foldl Operation.slots sheet.slots = ⟨[⟨['F'], .exactly 2⟩]⟩ := by cbv
  have options : operations.foldl Operation.options sheet.options = ⟨[file, all]⟩ := by cbv
  have succeeded : ((shared.run operations).perform .renew).failure = none := by
    rw [perform, failure_relist, ← (Sheet.initialized_declared _).1, declared_run, slots, options]
    cbv
  obtain ⟨fresh, created, made⟩ := renew_eq_initialized shared operations succeeded
  rw [slots, options] at created
  exact ⟨succeeded, fresh, created, made⟩

end SharedSheet
end Handbook
