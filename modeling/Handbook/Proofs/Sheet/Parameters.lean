import Handbook.Proofs.Classification
import Handbook.Proofs.Sheet.Insertion
import Handbook.Proofs.Slot.Built
import Handbook.Proofs.Slot.Collapse

/-!
# The parameters of a sheet

Making the parameters anew classifies every option; the named ones are inserted
by format name, the positional ones follow as declared. For a sheet whose tables
are built, this never fails, and the outcome is a function of the tables alone.
-/

namespace Handbook

/-- The order in which a sheet keeps parameters: the named ones by format name, then the
positional ones as they come. -/
def arranged (parameters : List Parameter) : List Parameter :=
  insertAllByName [] (parameters.filter fun parameter => !parameter.isPositional) ++
    parameters.filter Parameter.isPositional

theorem arranged_perm (parameters : List Parameter) :
    (arranged parameters).Perm parameters := by
  have named := insertAllByName_perm [] (parameters.filter fun parameter => !parameter.isPositional)
  rw [List.append_nil] at named
  exact (named.append_right _).trans
    (List.perm_append_comm.trans (List.filter_append_perm Parameter.isPositional parameters))

theorem mem_arranged {parameter : Parameter} {parameters : List Parameter} :
    parameter ∈ arranged parameters ↔ parameter ∈ parameters :=
  (arranged_perm parameters).mem_iff

theorem isPositional_of_mem_insertAllByName
    {parameter : Parameter}
    {parameters : List Parameter}
    (member : parameter ∈
      insertAllByName [] (parameters.filter fun parameter => !parameter.isPositional)) :
    parameter.isPositional = false := by
  have original := (insertAllByName_perm [] _).mem_iff.mp member
  rw [List.append_nil, List.mem_filter, Bool.not_eq_true'] at original
  exact original.2

/-- The positional parameters keep their order. -/
theorem filter_isPositional_arranged (parameters : List Parameter) :
    (arranged parameters).filter Parameter.isPositional =
      parameters.filter Parameter.isPositional := by
  have named : ∀ parameter ∈
      insertAllByName [] (parameters.filter fun parameter => !parameter.isPositional),
      ¬ parameter.isPositional = true := by
    intro parameter member
    simp [isPositional_of_mem_insertAllByName member]
  rw [arranged, List.filter_append, List.filter_eq_nil_iff.mpr named, List.filter_filter]
  simp

/-- The named parameters are ordered by format name. -/
theorem filter_not_isPositional_arranged (parameters : List Parameter) :
    (arranged parameters).filter (fun parameter => !parameter.isPositional) =
      insertAllByName [] (parameters.filter fun parameter => !parameter.isPositional) := by
  have named : ∀ parameter ∈
      insertAllByName [] (parameters.filter fun parameter => !parameter.isPositional),
      !parameter.isPositional := by
    intro parameter member
    simp [isPositional_of_mem_insertAllByName member]
  rw [arranged, List.filter_append, List.filter_eq_self.mpr named, List.filter_filter]
  simp

namespace Sheet

/-- Sorting classifies all descriptors first, and inserts their parameters afterwards. -/
theorem sortParameters_eq
    (classifier : Classifier)
    (bindings : List Binding)
    {named : List Parameter}
    (ordered : OrderedByName named)
    (positional : List Parameter)
    (descriptors : List Descriptor) :
    sortParameters classifier bindings named positional descriptors =
      (descriptors.mapM fun descriptor =>
        classifier.classifyDescriptor descriptor bindings).map fun parameters =>
          insertAllByName named (parameters.filter fun parameter => !parameter.isPositional) ++
            (positional ++ parameters.filter Parameter.isPositional) := by
  -- The induction carries that the named parameters are in order, which each insertion keeps.
  induction descriptors generalizing named positional with
  | nil => simp [sortParameters, pure, Except.pure, Except.map]
  | cons descriptor rest hypothesis =>
      rw [sortParameters, List.mapM_cons]
      cases classifier.classifyDescriptor descriptor bindings with
      | error error => rfl
      | ok parameter =>
          dsimp only
          split
          · next positionalOne =>
              rw [hypothesis ordered]
              cases rest.mapM fun descriptor => classifier.classifyDescriptor descriptor bindings <;>
                simp [bind, Except.bind, pure, Except.pure, Except.map, positionalOne]
          · next namedOne =>
              rw [ordered.insertAtPlace_eq, hypothesis (ordered.insertByName parameter)]
              cases rest.mapM fun descriptor => classifier.classifyDescriptor descriptor bindings <;>
                simp [bind, Except.bind, pure, Except.pure, Except.map, namedOne]

/-- Sorting all descriptors from the start arranges their parameters. -/
theorem sortParameters_nil_eq
    (classifier : Classifier)
    (bindings : List Binding)
    (descriptors : List Descriptor) :
    sortParameters classifier bindings [] [] descriptors =
      (descriptors.mapM fun descriptor =>
        classifier.classifyDescriptor descriptor bindings).map arranged :=
  sortParameters_eq classifier bindings List.Pairwise.nil [] descriptors

variable {sheet : Sheet}

/-- Descriptors that can all be classified give the parameters anew, arranged. -/
theorem generateParameters_eq_of_classified
    {parameters : List Parameter}
    (passed : (sheet.options.items.mapM fun descriptor =>
      sheet.classifier.classifyDescriptor descriptor (sheet.runs.map Run.binding)) =
      .ok parameters) :
    sheet.generateParameters = ⟨{ sheet with parameters := arranged parameters }, none⟩ := by
  rw [generateParameters, sortParameters_nil_eq, passed]
  rfl

/-- A descriptor that cannot be classified leaves a sheet as it is. -/
theorem generateParameters_eq_of_unclassified
    {error : Error}
    (failed : (sheet.options.items.mapM fun descriptor =>
      sheet.classifier.classifyDescriptor descriptor (sheet.runs.map Run.binding)) =
      .error error) :
    sheet.generateParameters = ⟨sheet, some error⟩ := by
  rw [generateParameters, sortParameters_nil_eq, failed]
  rfl

/-- A walk over the slots that is not refused gives the merged runs, out of which the parameters are
made. -/
theorem initialized_eq_generateParameters
    (accepted : sheet.slots.collapse.refused = false) :
    sheet.initialized = { sheet with runs := sheet.slots.mergedRuns : Sheet }.generateParameters := by
  simp [initialized, generateRuns, SlotTable.collapse_eq_mergedRuns accepted]

/-- What the descriptors of a sheet are classified to be among the runs of its slots. -/
def classified (sheet : Sheet) : Except Error (List Parameter) :=
  sheet.options.items.mapM fun descriptor =>
    sheet.classifier.classifyDescriptor descriptor (sheet.slots.mergedRuns.map Run.binding)

/-- A sheet whose slots can be walked over and whose descriptors can be classified is initialized.
-/
theorem initialized_eq_of_classified
    {parameters : List Parameter}
    (accepted : sheet.slots.collapse.refused = false)
    (passed : sheet.classified = .ok parameters) :
    sheet.initialized =
      ⟨{ sheet with
          runs := sheet.slots.mergedRuns
          parameters := arranged parameters }, none⟩ := by
  rw [initialized_eq_generateParameters accepted]
  exact generateParameters_eq_of_classified passed

/-- A walk that is refused ends the initialization. -/
theorem failure_initialized_of_refused
    (refused : sheet.slots.collapse.refused = true) :
    sheet.initialized.failure = some .countTooLarge := by
  simp [initialized, generateRuns, refused]

/-- A descriptor that cannot be classified ends the initialization. -/
theorem failure_initialized_of_unclassified
    {error : Error}
    (accepted : sheet.slots.collapse.refused = false)
    (failed : sheet.classified = .error error) :
    sheet.initialized.failure = some error := by
  let walked : Sheet := { sheet with runs := sheet.slots.mergedRuns }
  have unmade : walked.generateParameters = ⟨walked, some error⟩ :=
    generateParameters_eq_of_unclassified failed
  rw [initialized_eq_generateParameters accepted, unmade]

/-- The parameters of an initialized sheet are those that its descriptors are classified to be. -/
theorem mem_parameters_initialized_iff
    (succeeded : sheet.initialized.failure = none)
    (parameter : Parameter) :
    parameter ∈ sheet.initialized.state.parameters ↔
      ∃ descriptor ∈ sheet.options.items,
        sheet.classifier.classifyDescriptor descriptor (sheet.slots.mergedRuns.map Run.binding) =
          .ok parameter := by
  cases accepted : sheet.slots.collapse.refused with
  | true =>
      rw [failure_initialized_of_refused accepted] at succeeded
      cases succeeded
  | false =>
      cases outcome : sheet.classified with
      | error error =>
          rw [failure_initialized_of_unclassified accepted outcome] at succeeded
          cases succeeded
      | ok parameters =>
          rw [initialized_eq_of_classified accepted outcome]
          exact mem_arranged.trans (mem_iff_of_mapM_eq_ok outcome parameter)

/-- A sheet whose tables are built by adding slots and declarations, and whose classifier has no
rule pinned. -/
structure Built (sheet : Sheet) : Prop where
  slots : sheet.slots.Built
  options : sheet.options.Built
  classifier : sheet.classifier = {}

/-- The parameters that the tables of a sheet stand for. -/
def declaredParameters (sheet : Sheet) : List Parameter :=
  sheet.options.items.map fun descriptor => descriptor.parameterIn sheet.slots.mergedRuns

/-- An initialized sheet has the runs and the parameters that its tables stand for. -/
theorem Built.initialized_eq
    (built : sheet.Built)
    (accepted : sheet.slots.collapse.refused = false) :
    sheet.initialized =
      ⟨{ sheet with
          runs := sheet.slots.mergedRuns
          parameters := arranged sheet.declaredParameters }, none⟩ := by
  apply initialized_eq_of_classified accepted
  apply mapM_eq_ok_map
  intro descriptor member
  rw [built.classifier]
  exact (built.options.checked descriptor member).classifyDescriptor _

/-- A sheet is initialized unless the walk over its positions is refused. -/
theorem Built.failure_initialized_iff (built : sheet.Built) :
    sheet.initialized.failure = none ↔ sheet.slots.collapse.refused = false := by
  constructor
  · intro succeeded
    by_contra refused
    rw [Bool.not_eq_false] at refused
    rw [failure_initialized_of_refused refused] at succeeded
    cases succeeded
  · intro accepted
    rw [built.initialized_eq accepted]

/-- Every parameter of an initialized sheet is that of a descriptor, among the runs of its slots. -/
theorem Built.exists_parameterIn
    (built : sheet.Built)
    (succeeded : sheet.initialized.failure = none)
    {parameter : Parameter}
    (member : parameter ∈ sheet.initialized.state.parameters) :
    ∃ descriptor ∈ sheet.options.items,
      descriptor.parameterIn sheet.slots.mergedRuns = parameter := by
  rw [built.initialized_eq (built.failure_initialized_iff.mp succeeded)] at member
  exact List.mem_map.mp (mem_arranged.mp member)

end Sheet
end Handbook
