import Handbook.Proofs.Descriptor.DeclaredNames
import Handbook.Proofs.Descriptor.FormatName
import Handbook.Proofs.Sheet.Parameters
import Handbook.Proofs.Text.Sorting

/-!
# The order of the named parameters

The named parameters of a sheet are ordered by their format names, as texts. Those
without a short name ascend by their long names, and those with one by their short
names. The former come first only as far as a short name is greater than a hyphen:
some punctuation is not, and a parameter with such a short name stands in front of
every one that has none.
-/

namespace Handbook
namespace Parameter

/-- A parameter with a short name is ordered behind one without: its short name is greater than the
hyphen, or it is the hyphen and what comes of the long name is greater than the other long name. -/
def FollowsLong (parameter long : Parameter) : Prop :=
  ∃ letter, parameter.shortName = .str [letter] ∧
    ('-' < letter ∨ letter = '-' ∧
      long.longName.displayed < Descriptor.bracketed parameter.longName.displayed)

/-- Two parameters without a short name have different long names, and two with one have different
short names. -/
def Distinct (first second : Parameter) : Prop :=
  (first.hasShortName = false → second.hasShortName = false →
      first.longName ≠ second.longName) ∧
    (first.hasShortName = true → second.hasShortName = true →
      first.shortName ≠ second.shortName)

/-- Names of a parameter that come of a declaration: a long name that does not begin with a space,
and a letter for a short name, if there is one. -/
structure Lettered (parameter : Parameter) : Prop where
  long : ∃ name, parameter.longName = .str name ∧ ∀ rest, name ≠ ' ' :: rest
  short : parameter.hasShortName = true → ∃ letter, parameter.shortName = .str [letter]

variable {long parameter first second : Parameter}

theorem Distinct.symm (distinct : first.Distinct second) : second.Distinct first :=
  ⟨fun own other => (distinct.1 other own).symm, fun own other => (distinct.2 other own).symm⟩

/-- With a short name, the format name is made of its letter and what comes of the long name. -/
theorem Lettered.exists_formatName
    (lettered : parameter.Lettered)
    (marked : parameter.hasShortName = true) :
    ∃ letter, parameter.shortName = .str [letter] ∧
      parameter.formatName =
        '-' :: letter :: Descriptor.bracketed parameter.longName.displayed := by
  obtain ⟨name, longName, _⟩ := lettered.long
  obtain ⟨letter, shortName⟩ := lettered.short marked
  refine ⟨letter, shortName, ?_⟩
  unfold formatName namesBetween
  rw [marked, longName, shortName]
  by_cases empty : name = [] <;> simp [empty, Descriptor.bracketed]

/-- The format name of a parameter without a short name is less than that of one with a short name
exactly when the other one follows. -/
theorem Lettered.formatName_lt_iff
    (lettered : parameter.Lettered)
    (marked : parameter.hasShortName = true)
    (unmarked : long.hasShortName = false) :
    long.formatName < parameter.formatName ↔ parameter.FollowsLong long := by
  obtain ⟨letter, shortName, formatName⟩ := lettered.exists_formatName marked
  rw [formatName_of_long unmarked, formatName]
  unfold FollowsLong
  rw [shortName]
  simp [List.cons_lt_cons_iff, eq_comm]

/-- A parameter without a short name but with a long one shares its format name with none that has a
short name. -/
theorem Lettered.formatName_ne
    (lettered : parameter.Lettered)
    (marked : parameter.hasShortName = true)
    (longLettered : long.Lettered)
    (unmarked : long.hasShortName = false)
    (named : long.longName ≠ .str []) :
    long.formatName ≠ parameter.formatName := by
  obtain ⟨name, longName, unspaced⟩ := longLettered.long
  obtain ⟨letter, _, formatName⟩ := lettered.exists_formatName marked
  rw [formatName_of_long unmarked, formatName, longName, Value.displayed_str]
  intro equal
  have behind : name = Descriptor.bracketed parameter.longName.displayed :=
    (List.cons.inj (List.cons.inj equal).2).2
  unfold Descriptor.bracketed at behind
  split at behind
  · exact named (behind ▸ longName)
  · exact unspaced _ behind

end Parameter

/-- The parameters without a short name. -/
def longOnly (parameters : List Parameter) : List Parameter :=
  parameters.filter fun parameter => !parameter.hasShortName

/-- The parameters with a short name. -/
def shortNamed (parameters : List Parameter) : List Parameter :=
  parameters.filter Parameter.hasShortName

section

variable {parameters : List Parameter} {parameter : Parameter}

theorem mem_longOnly :
    parameter ∈ longOnly parameters ↔
      parameter ∈ parameters ∧ parameter.hasShortName = false := by
  simp [longOnly]

theorem mem_shortNamed :
    parameter ∈ shortNamed parameters ↔
      parameter ∈ parameters ∧ parameter.hasShortName = true := by
  simp [shortNamed]

/-- In order of their format names, parameters without a short name ascend by their long names. -/
theorem pairwise_longOnly
    (ordered : OrderedByName parameters)
    (distinct : parameters.Pairwise Parameter.Distinct)
    (lettered : ∀ parameter ∈ parameters, parameter.Lettered) :
    (longOnly parameters).Pairwise fun first second =>
      first.longName.displayed < second.longName.displayed := by
  refine ((List.Pairwise.and ordered distinct).filter _).imp_of_mem ?_
  rintro first second member otherMember ⟨notBelow, different, _⟩
  obtain ⟨listed, unmarked⟩ := mem_longOnly.mp member
  obtain ⟨otherListed, otherUnmarked⟩ := mem_longOnly.mp otherMember
  obtain ⟨name, longName, _⟩ := (lettered first listed).long
  obtain ⟨otherName, otherLongName, _⟩ := (lettered second otherListed).long
  rw [Parameter.formatName_of_long unmarked, Parameter.formatName_of_long otherUnmarked,
    longName, otherLongName] at notBelow
  have different := different unmarked otherUnmarked
  rw [longName, otherLongName] at different ⊢
  by_contra notLess
  refine different (congrArg Value.str (Text.eq_of_not_lt ?_ notLess))
  simpa [List.cons_lt_cons_iff] using notBelow

/-- In order of their format names, parameters with a short name ascend by their short names. -/
theorem pairwise_shortNamed
    (ordered : OrderedByName parameters)
    (distinct : parameters.Pairwise Parameter.Distinct)
    (lettered : ∀ parameter ∈ parameters, parameter.Lettered) :
    (shortNamed parameters).Pairwise fun first second =>
      first.shortName.displayed < second.shortName.displayed := by
  refine ((List.Pairwise.and ordered distinct).filter _).imp_of_mem ?_
  rintro first second member otherMember ⟨notBelow, _, different⟩
  obtain ⟨listed, marked⟩ := mem_shortNamed.mp member
  obtain ⟨otherListed, otherMarked⟩ := mem_shortNamed.mp otherMember
  obtain ⟨letter, shortName, formatName⟩ := (lettered first listed).exists_formatName marked
  obtain ⟨otherLetter, otherShortName, otherFormatName⟩ :=
    (lettered second otherListed).exists_formatName otherMarked
  rw [formatName, otherFormatName] at notBelow
  have different := different marked otherMarked
  rw [shortName, otherShortName] at different ⊢
  by_contra notLess
  refine different (congrArg Value.str (Text.eq_of_not_lt ?_ notLess))
  intro less
  have lessLetter : otherLetter < letter := by simpa [List.cons_lt_cons_iff] using less
  exact notBelow (by simp [List.cons_lt_cons_iff, lessLetter])

/-- Parameters in order of their format names have all those without a short name in front exactly
when all with a short name follow them. -/
theorem eq_longOnly_append_shortNamed_iff
    (ordered : OrderedByName parameters)
    (lettered : ∀ parameter ∈ parameters, parameter.Lettered)
    (named : ∀ long ∈ longOnly parameters, long.longName ≠ .str []) :
    parameters = longOnly parameters ++ shortNamed parameters ↔
      ∀ long ∈ longOnly parameters, ∀ parameter ∈ shortNamed parameters,
        parameter.FollowsLong long := by
  constructor
  · intro inFront long member parameter otherMember
    obtain ⟨listed, unmarked⟩ := mem_longOnly.mp member
    obtain ⟨otherListed, marked⟩ := mem_shortNamed.mp otherMember
    have different := (lettered parameter otherListed).formatName_ne marked (lettered long listed)
      unmarked (named long member)
    unfold OrderedByName at ordered
    rw [inFront, List.pairwise_append] at ordered
    rw [← (lettered parameter otherListed).formatName_lt_iff marked unmarked]
    by_contra notLess
    exact different (Text.eq_of_not_lt (ordered.2.2 long member parameter otherMember) notLess)
  · intro following
    have split := Text.eq_filter_append_filter (fun parameter => !parameter.hasShortName) ordered
      fun long listed leads parameter otherListed trails => by
        rw [Bool.not_eq_true'] at leads
        rw [Bool.not_eq_false'] at trails
        exact ((lettered parameter otherListed).formatName_lt_iff trails leads).mpr
          (following long (mem_longOnly.mpr ⟨listed, leads⟩) parameter
            (mem_shortNamed.mpr ⟨otherListed, trails⟩))
    simpa [longOnly, shortNamed] using split

end

namespace Descriptor

variable {first second : Descriptor}

/-- A checked descriptor without a long name, whose parameter has no short name either, has the mark
of a missing one for a name. -/
theorem Checked.shortText_eq_noShortName
    (checked : first.Checked)
    {runs : List Run}
    (unmarked : (first.parameterIn runs).hasShortName = false)
    (unnamed : first.longText = []) :
    first.shortText = Parameter.noShortName := by
  have short : first.shortText ≠ [] := checked.named.resolve_left (not_not.mpr unnamed)
  by_contra different
  have marked := (first.hasShortName_parameterIn runs).mpr ⟨short, different⟩
  rw [unmarked] at marked
  cases marked

theorem shortMark_eq_shortText
    {runs : List Run}
    (marked : (first.parameterIn runs).hasShortName = true) :
    first.shortMark = first.shortText :=
  if_neg ((first.hasShortName_parameterIn runs).mp marked).1

/-- The parameters of two descriptors that share no name are distinct. -/
theorem Distinct.parameterIn
    (distinct : first.Distinct second)
    (checked : first.Checked)
    (otherChecked : second.Checked)
    (runs : List Run) :
    (first.parameterIn runs).Distinct (second.parameterIn runs) := by
  obtain ⟨long, short⟩ := distinct
  constructor
  · intro unmarked otherUnmarked same
    have sameLong : first.longText = second.longText := Value.str.inj same
    by_cases unnamed : first.longText = []
    · have mark := checked.shortText_eq_noShortName unmarked unnamed
      have otherMark :=
        otherChecked.shortText_eq_noShortName otherUnmarked (sameLong.symm.trans unnamed)
      have nonempty : first.shortText ≠ [] := by
        rw [mark]
        exact List.cons_ne_nil _ _
      exact short nonempty (mark.trans otherMark.symm)
    · exact long unnamed sameLong
  · intro marked otherMarked same
    have sameMark : first.shortMark = second.shortMark := Value.str.inj same
    rw [shortMark_eq_shortText marked, shortMark_eq_shortText otherMarked] at sameMark
    exact short ((first.hasShortName_parameterIn runs).mp marked).1 sameMark

end Descriptor

namespace Sheet

variable {sheet : Sheet}

theorem Built.pairwise_distinct_parameters
    (built : sheet.Built)
    (succeeded : sheet.initialized.failure = none) :
    sheet.initialized.state.parameters.Pairwise Parameter.Distinct := by
  have declared : sheet.declaredParameters.Pairwise Parameter.Distinct := by
    rw [declaredParameters, List.pairwise_map]
    exact built.options.distinct.imp_of_mem fun member otherMember distinct =>
      distinct.parameterIn (built.options.checked _ member) (built.options.checked _ otherMember) _
  rw [built.initialized_eq (built.failure_initialized_iff.mp succeeded)]
  exact ((arranged_perm _).pairwise_iff Parameter.Distinct.symm).mpr declared

theorem Built.lettered_initialized
    (built : sheet.Built)
    (succeeded : sheet.initialized.failure = none)
    {parameter : Parameter}
    (member : parameter ∈ sheet.initialized.state.parameters) :
    parameter.Lettered := by
  obtain ⟨descriptor, declared, rfl⟩ := built.exists_parameterIn succeeded member
  have checked := built.options.checked descriptor declared
  refine ⟨⟨_, rfl, checked.longText_ne_space⟩, fun marked => ?_⟩
  obtain ⟨letter, _, shortName⟩ := checked.exists_letter marked
  exact ⟨letter, shortName⟩

/-- The named parameters of a sheet, in their order. -/
def namedParameters (sheet : Sheet) : List Parameter :=
  sheet.parameters.filter fun parameter => !parameter.isPositional

theorem Built.namedParameters_initialized
    (built : sheet.Built)
    (accepted : sheet.slots.collapse.refused = false) :
    sheet.initialized.state.namedParameters =
      insertAllByName []
        (sheet.declaredParameters.filter fun parameter => !parameter.isPositional) := by
  unfold namedParameters
  rw [built.initialized_eq accepted]
  exact filter_not_isPositional_arranged _

/-- In an initialized sheet the named parameters without a short name ascend by long name, and those
with one ascend by short name. If each of the former has a long name, they are all in front of the
latter exactly when every short name is greater than the hyphen, or is the hyphen and what comes of
the long name is greater than the other long names. -/
theorem named_parameters_ordered
    (built : sheet.Built)
    (succeeded : sheet.initialized.failure = none) :
    let named := sheet.initialized.state.namedParameters
    ((longOnly named).Pairwise fun first second =>
        first.longName.displayed < second.longName.displayed) ∧
      ((shortNamed named).Pairwise fun first second =>
        first.shortName.displayed < second.shortName.displayed) ∧
      ((∀ long ∈ longOnly named, long.longName ≠ .str []) →
        (named = longOnly named ++ shortNamed named ↔
          ∀ long ∈ longOnly named, ∀ parameter ∈ shortNamed named,
            parameter.FollowsLong long)) := by
  -- Classified parameters are told apart by their names, so the order by format names is strict.
  intro named
  have ordered : OrderedByName named := by
    unfold named
    rw [built.namedParameters_initialized (built.failure_initialized_iff.mp succeeded)]
    exact OrderedByName.insertAllByName List.Pairwise.nil _
  have distinct : named.Pairwise Parameter.Distinct :=
    (built.pairwise_distinct_parameters succeeded).filter _
  have lettered : ∀ parameter ∈ named, parameter.Lettered := fun parameter member =>
    built.lettered_initialized succeeded (List.mem_filter.mp member).1
  exact ⟨pairwise_longOnly ordered distinct lettered, pairwise_shortNamed ordered distinct lettered,
    eq_longOnly_append_shortNamed_iff ordered lettered⟩

/-- Of three options, the one without a short name comes first, and the letters decide about the
other two. -/
theorem named_parameters_ordered_of_letters :
    let options : List Descriptor :=
      [⟨.str ['s'], .str ['x'], .str [], .toggle, .unset, .bool false⟩,
        ⟨.str ['t'], .str [], .str [], .toggle, .unset, .bool false⟩,
        ⟨.str ['f'], .str ['f'], .str [], .toggle, .unset, .bool false⟩]
    let sheet : Sheet :=
      { application := [], category := [], command := [], description := []
        options := ⟨options⟩ }
    let long : Parameter := { longName := .str ['t'] }
    let first : Parameter := { shortName := .str ['f'], longName := .str ['f'] }
    let second : Parameter := { shortName := .str ['x'], longName := .str ['s'] }
    let named := sheet.initialized.state.namedParameters
    sheet.Built ∧ sheet.initialized.failure = none ∧
      longOnly named = [long] ∧ shortNamed named = [first, second] ∧
      named = longOnly named ++ shortNamed named := by
  intro options sheet long first second named
  have optionsAdded : OptionTable.addAll {}
      ([{ names := .str ['s', ',', 'x'] }, { names := .str ['t'] },
        { names := .str ['f', ',', 'f'] }].map .declared) = .ok sheet.options := by
    cbv
  have built : sheet.Built := ⟨.empty, .addAll .empty optionsAdded, rfl⟩
  have accepted : sheet.slots.collapse.refused = false := rfl
  have succeeded : sheet.initialized.failure = none := built.failure_initialized_iff.mpr accepted
  have declared : sheet.declaredParameters.filter (fun parameter => !parameter.isPositional) =
      [second, long, first] := by
    cbv
  have longName : long.formatName = "--t".toList := by cbv
  have firstName : first.formatName = "-f [ --f ]".toList := by cbv
  have secondName : second.formatName = "-x [ --s ]".toList := by cbv
  have order : named = [long, first, second] := by
    unfold named
    rw [built.namedParameters_initialized accepted, declared]
    simp [insertByName, List.cons_lt_cons_iff, longName, firstName, secondName]
  obtain ⟨_, _, inFront⟩ := named_parameters_ordered built succeeded
  change (∀ parameter ∈ longOnly named, _) → (named = longOnly named ++ shortNamed named ↔
    ∀ parameter ∈ longOnly named, ∀ other ∈ shortNamed named, _) at inFront
  have longOnes : longOnly named = [long] := by
    rw [order]
    cbv
  have shortOnes : shortNamed named = [first, second] := by
    rw [order]
    cbv
  rw [longOnes, shortOnes] at inFront ⊢
  refine ⟨built, succeeded, rfl, rfl, (inFront ?_).mpr ?_⟩
  · simp [long]
  · simp [Parameter.FollowsLong, first, second]

/-- An option whose short name is a plus sign stands in front of one that has a long name only. -/
theorem short_name_in_front_of_long_name :
    let options : List Descriptor :=
      [⟨.str ['a'], .str [], .str [], .toggle, .unset, .bool false⟩,
        ⟨.str [], .str ['+'], .str [], .toggle, .unset, .bool false⟩]
    let sheet : Sheet :=
      { application := [], category := [], command := [], description := []
        options := ⟨options⟩ }
    let long : Parameter := { longName := .str ['a'] }
    let signed : Parameter := { shortName := .str ['+'] }
    let named := sheet.initialized.state.namedParameters
    sheet.Built ∧ sheet.initialized.failure = none ∧ named = [signed, long] ∧
      longOnly named ++ shortNamed named = [long, signed] ∧
      named ≠ longOnly named ++ shortNamed named := by
  intro options sheet long signed named
  have optionsAdded : OptionTable.addAll {}
      ([{ names := .str ['a'] }, { names := .str [',', '+'] }].map .declared) =
      .ok sheet.options := by
    cbv
  have built : sheet.Built := ⟨.empty, .addAll .empty optionsAdded, rfl⟩
  have accepted : sheet.slots.collapse.refused = false := rfl
  have declared : sheet.declaredParameters.filter (fun parameter => !parameter.isPositional) =
      [long, signed] := by
    cbv
  have longName : long.formatName = "--a".toList := by cbv
  have signedName : signed.formatName = "-+".toList := by cbv
  have order : named = [signed, long] := by
    unfold named
    rw [built.namedParameters_initialized accepted, declared]
    simp [insertByName, List.cons_lt_cons_iff, longName, signedName]
  have documented : longOnly named ++ shortNamed named = [long, signed] := by
    rw [order]
    cbv
  refine ⟨built, built.failure_initialized_iff.mpr accepted, order, documented, ?_⟩
  rw [documented, order]
  simp [long, signed]

end Sheet
end Handbook
