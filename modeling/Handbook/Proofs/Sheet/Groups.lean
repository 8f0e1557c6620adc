import Handbook.Sheet.Layout
import Mathlib.Data.List.Basic
import Mathlib.Tactic.SplitIfs

/-!
# Groups of the usage line

The usage line shares the parameters out among eight groups. Toggles are told apart
by their short names, all others by three questions: how many values a parameter
accepts, whether it is positional and whether it must be given. What must be given
is asked before one value is told from several, so a parameter that must be given
and accepts several values is shown as one that accepts a single value. A table that
decides by the number of values first puts it among those that accept several; in
all other cases the two agree.
-/

namespace Handbook

section

variable {Item Key : Type} [DecidableEq Key] (keyOf : Item → Key)

/-- Leaving out the items of one key keeps those of every other. -/
theorem filter_filter_of_ne {key other : Key} (different : other ≠ key) (items : List Item) :
    (items.filter fun item => ¬ keyOf item = key).filter (fun item => keyOf item = other) =
      items.filter fun item => keyOf item = other := by
  rw [List.filter_filter]
  apply List.filter_congr
  intro item _
  by_cases own : keyOf item = other <;> simp [own, different]

/-- Items are shared out among distinct keys, each item to the one that it has, without a loss. -/
theorem flatMap_filter_perm
    {keys : List Key}
    (distinct : keys.Nodup)
    {items : List Item}
    (covered : ∀ item ∈ items, keyOf item ∈ keys) :
    (keys.flatMap fun key => items.filter fun item => keyOf item = key).Perm items := by
  -- The induction carries that the keys still to come cover the items still left.
  induction keys generalizing items with
  | nil =>
      have none : items = [] := List.eq_nil_iff_forall_not_mem.mpr fun item member =>
        List.not_mem_nil (covered item member)
      rw [none]
      rfl
  | cons key rest hypothesis =>
      obtain ⟨fresh, restDistinct⟩ := List.nodup_cons.mp distinct
      let others := items.filter fun item => ¬ keyOf item = key
      have othersCovered : ∀ item ∈ others, keyOf item ∈ rest := by
        intro item member
        obtain ⟨listed, different⟩ := List.mem_filter.mp member
        exact (List.mem_cons.mp (covered item listed)).resolve_left (of_decide_eq_true different)
      have later : (rest.flatMap fun other => items.filter fun item => keyOf item = other) =
          rest.flatMap fun other => others.filter fun item => keyOf item = other := by
        apply List.flatMap_congr
        intro other member
        have different : other ≠ key := fun same => fresh (same ▸ member)
        exact (filter_filter_of_ne keyOf different items).symm
      have shared := (hypothesis restDistinct othersCovered).append_left
        (items.filter fun item => keyOf item = key)
      rw [List.flatMap_cons, later]
      refine shared.trans ?_
      simpa [others] using List.filter_append_perm (fun item => decide (keyOf item = key)) items

end

namespace Parameter

/-- Whether a parameter accepts no value. -/
def isToggle (parameter : Parameter) : Bool :=
  parameter.limit.equals (.int 0)

/-- Whether a parameter accepts one value. -/
def acceptsOne (parameter : Parameter) : Bool :=
  parameter.limit.equals (.int 1)

/-- Whether a parameter accepts several values. -/
def acceptsSeveral (parameter : Parameter) : Bool :=
  !parameter.isToggle && !parameter.acceptsOne

/-- Whether a parameter must be given. -/
def isRequired (parameter : Parameter) : Bool :=
  parameter.required.truthy

end Parameter

namespace Sheet

variable {parameter : Parameter} {parameters : List Parameter}

/-- The questions that place a parameter, in the order in which they are asked. -/
theorem usageGroup_eq (parameter : Parameter) :
    usageGroup parameter =
      if parameter.isToggle then
        if parameter.hasShortName then .shortToggle else .longToggle
      else if !parameter.isPositional then
        if parameter.isRequired then .requiredOption
        else if parameter.acceptsOne then .singleOption
        else .multipleOption
      else
        if parameter.isRequired then .requiredArgument
        else if parameter.acceptsOne then .singleArgument
        else .multipleArgument :=
  rfl

/-! ## Groups -/

namespace UsageGroup

/-- Whether a parameter is one of a group. -/
def holds (group : UsageGroup) (parameter : Parameter) : Bool :=
  match group with
  | shortToggle => parameter.isToggle && parameter.hasShortName
  | requiredOption => !parameter.isToggle && !parameter.isPositional && parameter.isRequired
  | longToggle => parameter.isToggle && !parameter.hasShortName
  | singleOption =>
      !parameter.isToggle && !parameter.isPositional && !parameter.isRequired &&
        parameter.acceptsOne
  | multipleOption =>
      !parameter.isPositional && !parameter.isRequired && parameter.acceptsSeveral
  | requiredArgument => !parameter.isToggle && parameter.isPositional && parameter.isRequired
  | singleArgument =>
      !parameter.isToggle && parameter.isPositional && !parameter.isRequired &&
        parameter.acceptsOne
  | multipleArgument =>
      parameter.isPositional && !parameter.isRequired && parameter.acceptsSeveral

/-- The parameters of a group, in order. -/
def members (group : UsageGroup) (parameters : List Parameter) : List Parameter :=
  parameters.filter group.holds

/-- The groups whose parameters have a fragment each, in the order of the usage line. -/
def separate : List UsageGroup :=
  [requiredOption, longToggle, singleOption, multipleOption,
    requiredArgument, singleArgument, multipleArgument]

/-- All groups, in the order of the usage line. -/
def all : List UsageGroup :=
  shortToggle :: separate

/-- The fragment of a group for a name; that of the short toggles is for all their letters. -/
def fragment (group : UsageGroup) (name : Text) : Text :=
  match group with
  | shortToggle => "[-" ++ name ++ "]"
  | requiredOption => "--" ++ name ++ " VALUE"
  | longToggle => "[--" ++ name ++ "]"
  | singleOption => "[--" ++ name ++ " VALUE]"
  | multipleOption => "[--" ++ name ++ " VALUE]..."
  | requiredArgument => name
  | singleArgument => "[" ++ name ++ "]"
  | multipleArgument => "[" ++ name ++ "]..."

theorem mem_all (group : UsageGroup) : group ∈ all := by
  cases group <;> decide

theorem mem_separate {group : UsageGroup} (different : group ≠ shortToggle) : group ∈ separate :=
  (List.mem_cons.mp group.mem_all).resolve_left different

/-- A parameter is one of a group when it is placed there. -/
theorem holds_iff {group : UsageGroup} :
    group.holds parameter = true ↔ usageGroup parameter = group := by
  rw [usageGroup_eq]
  split_ifs <;> cases group <;> simp_all [holds, Parameter.acceptsSeveral]

theorem members_eq_usageMembers (group : UsageGroup) (parameters : List Parameter) :
    group.members parameters = usageMembers group parameters := by
  apply List.filter_congr
  intro parameter _
  rw [Bool.eq_iff_iff, holds_iff, decide_eq_true_eq]

/-- Every parameter is shared out to one group. -/
theorem flatMap_members_perm (parameters : List Parameter) :
    (all.flatMap fun group => group.members parameters).Perm parameters := by
  have distinct : all.Nodup := by decide
  simp only [members_eq_usageMembers]
  exact flatMap_filter_perm usageGroup distinct fun parameter _ => mem_all _

/-- The fragment of a group is what the usage line says of a parameter there, less the blank in
front of it. -/
theorem usageFragment_eq {group : UsageGroup} (different : group ≠ shortToggle) (name : Text) :
    usageFragment group name = ' ' :: group.fragment name := by
  cases group with
  | shortToggle => exact absurd rfl different
  | _ => rfl

end UsageGroup

/-! ## Fragments -/

/-- The fragments of all parameters that are no short toggles, in order. -/
def separateFragments (parameters : List Parameter) : List Text :=
  UsageGroup.separate.flatMap fun group =>
    (group.members parameters).map fun parameter => group.fragment parameter.longName.displayed

/-- The parameters of a list as the usage line shows them, before blanks are trimmed. -/
def untrimmedUsage (parameters : List Parameter) : Except Error Text :=
  (shortToggles parameters).map fun toggles =>
    toggles ++ usageOrder.flatMap (usagePart parameters)

theorem usageOf_eq_untrimmedUsage (parameters : List Parameter) :
    usageOf parameters = (untrimmedUsage parameters).map Text.trim := by
  unfold usageOf untrimmedUsage
  cases shortToggles parameters <;> rfl

/-- Behind the short toggles, the usage line consists of the fragments of all other parameters with
a blank in front of each. -/
theorem flatMap_usagePart (parameters : List Parameter) :
    usageOrder.flatMap (usagePart parameters) =
      (separateFragments parameters).flatMap fun fragment => ' ' :: fragment := by
  rw [separateFragments, List.flatMap_assoc]
  apply List.flatMap_congr
  intro group later
  have different : group ≠ .shortToggle := by
    rintro rfl
    exact absurd later (by decide)
  rw [usagePart, UsageGroup.members_eq_usageMembers, List.flatMap_map]
  exact List.flatMap_congr fun parameter _ => UsageGroup.usageFragment_eq different _

/-- A parameter that is no short toggle has its fragment among those of the others. -/
theorem fragment_mem_separateFragments
    {parameters : List Parameter}
    {group : UsageGroup}
    (member : parameter ∈ group.members parameters)
    (different : group ≠ .shortToggle) :
    group.fragment parameter.longName.displayed ∈ separateFragments parameters :=
  List.mem_flatMap.mpr
    ⟨group, UsageGroup.mem_separate different, List.mem_map.mpr ⟨parameter, member, rfl⟩⟩

/-! ## The table of groups -/

/-- The group of a parameter that accepts values by the table that asks for their number first:
several values are told apart from one whether or not the parameter must be given. -/
def tabledGroup (parameter : Parameter) : UsageGroup :=
  match parameter.isPositional, parameter.acceptsOne, parameter.isRequired with
  | false, true, true => .requiredOption
  | false, true, false => .singleOption
  | false, false, _ => .multipleOption
  | true, true, true => .requiredArgument
  | true, true, false => .singleArgument
  | true, false, _ => .multipleArgument

/-- The group of parameters that must be given, named or positional as the parameter. -/
def requiredGroup (parameter : Parameter) : UsageGroup :=
  if parameter.isPositional then .requiredArgument else .requiredOption

/-- Whether a parameter must be given and accepts several values. -/
def isRequiredSeveral (parameter : Parameter) : Bool :=
  parameter.isRequired && parameter.acceptsSeveral

/-- A parameter that accepts values is placed by the table, unless it must be given and accepts
several. -/
theorem usageGroup_eq_of_accepting (accepting : parameter.isToggle = false) :
    usageGroup parameter =
      if isRequiredSeveral parameter then requiredGroup parameter else tabledGroup parameter := by
  rw [usageGroup_eq, isRequiredSeveral, requiredGroup, tabledGroup, Parameter.acceptsSeveral,
    accepting]
  cases parameter.isPositional <;> cases parameter.acceptsOne <;>
    cases parameter.isRequired <;> rfl

/-- The table does not ask whether a parameter that accepts several values must be given. -/
theorem tabledGroup_of_several (several : parameter.acceptsSeveral = true) :
    tabledGroup parameter =
      if parameter.isPositional then .multipleArgument else .multipleOption := by
  have notOne : parameter.acceptsOne = false := by
    simpa using (Bool.and_eq_true_iff.mp several).2
  rw [tabledGroup, notOne]
  cases parameter.isPositional <;> rfl

theorem requiredGroup_ne_tabledGroup (exceptional : isRequiredSeveral parameter = true) :
    requiredGroup parameter ≠ tabledGroup parameter := by
  rw [tabledGroup_of_several (Bool.and_eq_true_iff.mp exceptional).2, requiredGroup]
  split <;> decide

theorem usageGroup_eq_tabledGroup_iff (accepting : parameter.isToggle = false) :
    usageGroup parameter = tabledGroup parameter ↔ isRequiredSeveral parameter = false := by
  rw [usageGroup_eq_of_accepting accepting]
  cases exceptional : isRequiredSeveral parameter with
  | true => simpa using requiredGroup_ne_tabledGroup exceptional
  | false => simp

/-! ## The mark of several values -/

/-- The mark of a fragment whose parameter accepts several values. -/
def ellipsis : Text := "..."

theorem ellipsis_suffix_fragment_multipleOption (name : Text) :
    ellipsis <:+ UsageGroup.multipleOption.fragment name :=
  ⟨"[--" ++ name ++ " VALUE]", by simp [ellipsis, UsageGroup.fragment]⟩

theorem ellipsis_suffix_fragment_multipleArgument (name : Text) :
    ellipsis <:+ UsageGroup.multipleArgument.fragment name :=
  ⟨"[" ++ name ++ "]", by simp [ellipsis, UsageGroup.fragment]⟩

theorem not_ellipsis_suffix_fragment_requiredOption (name : Text) :
    ¬ ellipsis <:+ UsageGroup.requiredOption.fragment name := by
  rintro ⟨front, whole⟩
  have ends : (UsageGroup.requiredOption.fragment name).getLast? = some 'E' := by
    rw [UsageGroup.fragment, List.getLast?_append]
    rfl
  rw [← whole, List.getLast?_append] at ends
  simp [ellipsis] at ends

/-- A parameter that accepts several values is marked so if it need not be given; if it must, only
the end of an argument's own name can look like the mark. -/
theorem ellipsis_suffix_fragment_iff (accepts : parameter.acceptsSeveral = true) (name : Text) :
    ellipsis <:+ (usageGroup parameter).fragment name ↔
      parameter.isRequired = false ∨ parameter.isPositional = true ∧ ellipsis <:+ name := by
  have accepting : parameter.isToggle = false := by
    simpa using (Bool.and_eq_true_iff.mp accepts).1
  rw [usageGroup_eq_of_accepting accepting, tabledGroup_of_several accepts, isRequiredSeveral,
    requiredGroup, accepts, Bool.and_true]
  cases required : parameter.isRequired with
  | false =>
      cases parameter.isPositional with
      | false => simpa using ellipsis_suffix_fragment_multipleOption name
      | true => simpa using ellipsis_suffix_fragment_multipleArgument name
  | true =>
      cases parameter.isPositional with
      | false => simpa using not_ellipsis_suffix_fragment_requiredOption name
      | true => simp [UsageGroup.fragment]

/-! ## Placement -/

/-- The usage line of any parameters consists of the short toggles and of one fragment for each of
the others. A parameter that accepts values is placed in one group. It is the one of the table
except when the parameter must be given and accepts several values: then it is the group of what
must be given, and a fragment without the mark of several values. -/
theorem usage_groups_by_table (parameters : List Parameter) :
    usageOf parameters =
        (shortToggles parameters).map (fun toggles =>
          Text.trim (toggles ++
            (separateFragments parameters).flatMap fun fragment => ' ' :: fragment)) ∧
      ∀ parameter ∈ parameters, parameter.isToggle = false →
        ∃ group,
          (∀ other, parameter ∈ usageMembers other parameters ↔ other = group) ∧
          group.fragment parameter.longName.displayed ∈ separateFragments parameters ∧
          (group = tabledGroup parameter ↔ isRequiredSeveral parameter = false) ∧
          (isRequiredSeveral parameter = true → group = requiredGroup parameter) ∧
          (parameter.acceptsSeveral = true →
            (ellipsis <:+ group.fragment parameter.longName.displayed ↔
              parameter.isRequired = false ∨
                parameter.isPositional = true ∧ ellipsis <:+ parameter.longName.displayed)) := by
  constructor
  · rw [usageOf, flatMap_usagePart]
  · intro parameter member accepting
    have placed := usageGroup_eq_of_accepting accepting
    have different : usageGroup parameter ≠ .shortToggle := by
      intro placedThere
      have toggle := UsageGroup.holds_iff.mpr placedThere
      simp [UsageGroup.holds, accepting] at toggle
    refine ⟨usageGroup parameter, ?_, ?_, usageGroup_eq_tabledGroup_iff accepting, ?_, ?_⟩
    · intro other
      rw [usageMembers, List.mem_filter, decide_eq_true_eq]
      exact ⟨fun placedThere => placedThere.2.symm, fun same => ⟨member, same.symm⟩⟩
    · refine fragment_mem_separateFragments (List.mem_filter.mpr ⟨member, ?_⟩) different
      exact UsageGroup.holds_iff.mpr rfl
    · intro exceptional
      rw [placed, if_pos exceptional]
    · intro accepts
      exact ellipsis_suffix_fragment_iff accepts _

/-- An argument that must be given and is bound to several positions is placed among the arguments
that must be given, and its fragment is its name. -/
theorem usage_groups_of_required_argument :
    let argument : Parameter :=
      { position := .int 0, required := .bool true, longName := .str ['F'], limit := .int 2 }
    argument.isToggle = false ∧ argument ∈ usageMembers .requiredArgument [argument] ∧
      tabledGroup argument = .multipleArgument ∧
      argument ∉ usageMembers .multipleArgument [argument] ∧
      ['F'] ∈ separateFragments [argument] := by
  intro argument
  have accepting : argument.isToggle = false := by cbv
  have exceptional : isRequiredSeveral argument = true := by cbv
  obtain ⟨_, placed⟩ := usage_groups_by_table [argument]
  obtain ⟨group, members, shown, _, required, _⟩ :=
    placed argument List.mem_cons_self accepting
  have given : group = .requiredArgument := (required exceptional).trans (by cbv)
  subst given
  refine ⟨accepting, (members _).mpr rfl, by cbv, ?_, shown⟩
  rw [members]
  decide

/-- An option that is declared to accept several values and must be given is shown as one that
accepts a single value. -/
theorem usage_of_required_several_option :
    let declaration : Declaration :=
      { names := .str ['x'], cardinality := .known .multiple, required := .bool true }
    let descriptor : Descriptor :=
      ⟨.str ['x'], .str [], .str [], .multiple, .unset, .bool true⟩
    let sheet : Sheet :=
      { application := [], category := [], command := [], description := []
        options := ⟨[descriptor]⟩ }
    let parameter : Parameter :=
      { required := .bool true, longName := .str ['x'], limit := .int (-1) }
    declaration.check = .ok descriptor ∧ sheet.initialized.failure = none ∧
      sheet.initialized.state.parameters = [parameter] ∧ parameter.acceptsSeveral = true ∧
      tabledGroup parameter = .multipleOption ∧
      parameter ∉ usageMembers .multipleOption [parameter] ∧
      sheet.initialized.state.usageParameters = .ok "--x VALUE".toList := by
  intro declaration descriptor sheet parameter
  have placed : usageGroup parameter = .requiredOption := by cbv
  have parameters : sheet.initialized.state.parameters = [parameter] := by cbv
  have usage : usageOf [parameter] = .ok "--x VALUE".toList := by
    rw [usageOf_eq_untrimmedUsage, untrimmedUsage, flatMap_usagePart]
    cbv
  refine ⟨by cbv, by cbv, parameters, by cbv, by cbv, ?_, (congrArg usageOf parameters).trans usage⟩
  rw [usageMembers, List.mem_filter, placed]
  simp

end Sheet
end Handbook
