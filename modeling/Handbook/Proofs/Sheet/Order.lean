import Handbook.Proofs.Descriptor.FormatName
import Handbook.Proofs.Sheet.Page

/-!
# The order of options

An ordered list of parameters with different format names is determined by its
members. The format names of a built table differ, so the order in which its named
options are declared leaves no trace on a page; only the order of its arguments
does.
-/

namespace Handbook

/-- Ordered lists with the same members are equal if the format names of the members differ. -/
theorem OrderedByName.eq_of_perm
    {first second : List Parameter}
    (firstOrdered : OrderedByName first)
    (secondOrdered : OrderedByName second)
    (permuted : first.Perm second)
    (distinct : ∀ parameter ∈ first, ∀ other ∈ first,
      parameter.formatName = other.formatName → parameter = other) :
    first = second := by
  apply List.Perm.eq_of_pairwise _ firstOrdered secondOrdered permuted
  intro parameter other member otherMember notAbove notBelow
  have sameName : parameter.formatName = other.formatName := Text.eq_of_not_lt notAbove notBelow
  exact distinct parameter member other (permuted.mem_iff.mpr otherMember) sameName

/-- The order in which parameters are arranged depends on that of the positional ones alone, if the
format names of the named ones differ. -/
theorem arranged_eq_of_perm
    {first second : List Parameter}
    (permuted : first.Perm second)
    (samePositional :
      first.filter Parameter.isPositional = second.filter Parameter.isPositional)
    (distinct : ∀ parameter ∈ first, ∀ other ∈ first,
      parameter.formatName = other.formatName → parameter = other) :
    arranged first = arranged second := by
  have inserted (parameters : List Parameter) :
      (insertAllByName [] parameters).Perm parameters := by
    simpa using insertAllByName_perm [] parameters
  have ordered (parameters : List Parameter) : OrderedByName (insertAllByName [] parameters) :=
    OrderedByName.insertAllByName List.Pairwise.nil parameters
  have sameNamed :
      insertAllByName [] (first.filter fun parameter => !parameter.isPositional) =
        insertAllByName [] (second.filter fun parameter => !parameter.isPositional) := by
    apply (ordered _).eq_of_perm (ordered _)
    · exact (inserted _).trans ((permuted.filter _).trans (inserted _).symm)
    · intro parameter member other otherMember
      have original := (inserted _).mem_iff.mp member
      have otherOriginal := (inserted _).mem_iff.mp otherMember
      exact distinct parameter (List.mem_filter.mp original).1
        other (List.mem_filter.mp otherOriginal).1
  rw [arranged, arranged, sameNamed, samePositional]

namespace Sheet

variable {sheet first second : Sheet}

/-- Whether a descriptor is classified as an argument among the runs of a sheet. -/
def isArgument (sheet : Sheet) (descriptor : Descriptor) : Bool :=
  match sheet.classifier.classifyDescriptor descriptor
      (sheet.generateRuns.state.runs.map Run.binding) with
  | .ok parameter => parameter.isPositional
  | .error _ => false

/-- The positional options of a sheet, in the order of their declaration. -/
def arguments (sheet : Sheet) : List Descriptor :=
  sheet.options.items.filter sheet.isArgument

theorem Built.isArgument_eq
    (built : sheet.Built)
    (accepted : sheet.slots.collapse.refused = false)
    {descriptor : Descriptor}
    (member : descriptor ∈ sheet.options.items) :
    sheet.isArgument descriptor =
      (descriptor.parameterIn sheet.slots.mergedRuns).isPositional := by
  have runs : sheet.generateRuns.state.runs = sheet.slots.mergedRuns := by
    rw [generateRuns, SlotTable.collapse_eq_mergedRuns accepted]
  rw [isArgument, runs, built.classifier,
    (built.options.checked descriptor member).classifyDescriptor]

/-- The positional parameters of a built sheet are those of its arguments. -/
theorem Built.filter_isPositional_declaredParameters
    (built : sheet.Built)
    (accepted : sheet.slots.collapse.refused = false) :
    sheet.declaredParameters.filter Parameter.isPositional =
      sheet.arguments.map fun descriptor => descriptor.parameterIn sheet.slots.mergedRuns := by
  rw [declaredParameters, List.filter_map, arguments]
  congr 1
  apply List.filter_congr
  intro descriptor member
  exact (built.isArgument_eq accepted member).symm

/-- No two parameters of a built sheet have one format name, if no short name is the reserved
one. -/
theorem Built.eq_of_formatName
    (built : sheet.Built)
    (unreserved : ∀ descriptor ∈ sheet.options.items,
      descriptor.shortText ≠ Parameter.noShortName) :
    ∀ parameter ∈ sheet.declaredParameters, ∀ other ∈ sheet.declaredParameters,
      parameter.formatName = other.formatName → parameter = other := by
  intro parameter member other otherMember equal
  obtain ⟨descriptor, declared, rfl⟩ := List.mem_map.mp member
  obtain ⟨otherDescriptor, otherDeclared, rfl⟩ := List.mem_map.mp otherMember
  rw [Descriptor.formatName_parameterIn (unreserved _ declared),
    Descriptor.formatName_parameterIn (unreserved _ otherDeclared)] at equal
  rw [built.options.eq_of_formatText declared otherDeclared equal]

/-- Two sheets with the same texts and slots, whose options are the same but for an order that keeps
the arguments in place: if one of them can be initialized so can the other, and both have the same
page. -/
theorem page_eq_of_options_perm
    (firstBuilt : first.Built)
    (secondBuilt : second.Built)
    (sameApplication : first.application = second.application)
    (sameCommand : first.command = second.command)
    (sameDescription : first.description = second.description)
    (sameSlots : first.slots = second.slots)
    (permuted : first.options.items.Perm second.options.items)
    (sameArguments : first.arguments = second.arguments)
    (unreserved : ∀ descriptor ∈ first.options.items,
      descriptor.shortText ≠ Parameter.noShortName)
    (succeeded : first.initialized.failure = none) :
    second.initialized.failure = none ∧
      ∃ page, first.initialized.state.page = .ok page ∧
        second.initialized.state.page = .ok page := by
  have firstAccepted : first.slots.collapse.refused = false :=
    firstBuilt.failure_initialized_iff.mp succeeded
  have secondAccepted : second.slots.collapse.refused = false := by
    rw [← sameSlots]
    exact firstAccepted
  have parametersPermuted : first.declaredParameters.Perm second.declaredParameters := by
    rw [declaredParameters, declaredParameters, sameSlots]
    exact permuted.map _
  have samePositional :
      first.declaredParameters.filter Parameter.isPositional =
        second.declaredParameters.filter Parameter.isPositional := by
    rw [firstBuilt.filter_isPositional_declaredParameters firstAccepted,
      secondBuilt.filter_isPositional_declaredParameters secondAccepted, sameSlots, sameArguments]
  have sameParameters :
      arranged first.declaredParameters = arranged second.declaredParameters :=
    arranged_eq_of_perm parametersPermuted samePositional (firstBuilt.eq_of_formatName unreserved)
  refine ⟨secondBuilt.failure_initialized_iff.mpr secondAccepted, _,
    firstBuilt.page_initialized firstAccepted, ?_⟩
  rw [secondBuilt.page_initialized secondAccepted, sameApplication, sameCommand, sameDescription,
    sameParameters]

/-- Two named options and an argument between them, with the named ones exchanged. -/
theorem page_eq_of_exchanged_options :
    let slots : SlotTable := ⟨[⟨['F'], .exactly 1⟩]⟩
    let verbose : Descriptor :=
      ⟨.str ['v', 'v'], .str ['v'], .str ['x'], .toggle, .unset, .bool false⟩
    let file : Descriptor := ⟨.str ['F'], .str [], .str ['y'], .toggle, .unset, .bool false⟩
    let all : Descriptor := ⟨.str ['a'], .str [], .str ['z'], .single, .unset, .bool true⟩
    let first : Sheet :=
      { application := ['b'], category := [], command := ['c'], description := ['d'], slots
        options := ⟨[verbose, file, all]⟩ }
    let second : Sheet := { first with options := ⟨[all, file, verbose]⟩ }
    second.initialized.failure = none ∧
      ∃ page, first.initialized.state.page = .ok page ∧
        second.initialized.state.page = .ok page := by
  intro slots verbose file all first second
  have slotsAdded : SlotTable.addAll {} [(.str ['F'], .int 1)] = .ok slots := rfl
  have firstAdded : OptionTable.addAll {}
      ([{ names := .str ['v', 'v', ',', 'v'], description := .str ['x'] },
        { names := .str ['F'], description := .str ['y'] },
        { names := .str ['a'], description := .str ['z'], cardinality := .known .single,
          required := .bool true }].map .declared) = .ok first.options := by cbv
  have secondAdded : OptionTable.addAll {}
      ([{ names := .str ['a'], description := .str ['z'], cardinality := .known .single,
          required := .bool true },
        { names := .str ['F'], description := .str ['y'] },
        { names := .str ['v', 'v', ',', 'v'], description := .str ['x'] }].map .declared) =
      .ok second.options := by cbv
  have firstBuilt : first.Built := ⟨.addAll .empty slotsAdded, .addAll .empty firstAdded, rfl⟩
  have secondBuilt : second.Built := ⟨.addAll .empty slotsAdded, .addAll .empty secondAdded, rfl⟩
  have permuted : first.options.items.Perm second.options.items :=
    (List.reverse_perm [verbose, file, all]).symm
  have unreserved : ∀ descriptor ∈ first.options.items,
      descriptor.shortText ≠ Parameter.noShortName := by
    simp [first, verbose, file, all, Descriptor.shortText, Value.text?, Parameter.noShortName]
  have sameArguments : first.arguments = second.arguments := by cbv
  have succeeded : first.initialized.failure = none :=
    firstBuilt.failure_initialized_iff.mpr (by cbv)
  exact page_eq_of_options_perm firstBuilt secondBuilt rfl rfl rfl rfl permuted sameArguments
    unreserved succeeded

end Sheet
end Handbook
