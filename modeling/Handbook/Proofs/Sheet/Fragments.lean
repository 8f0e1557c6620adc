import Handbook.Proofs.Descriptor.DeclaredNames
import Handbook.Proofs.Sheet.Groups
import Handbook.Proofs.Sheet.Page
import Handbook.Proofs.Sheet.WellFormed
import Handbook.Proofs.Text.Words

/-!
# Fragments of the usage line

The usage line of an initialized sheet consists of fragments with one blank between
neighbours: one for all short toggles, if there are any, and one for every other
parameter. A fragment of a named parameter is made of its long name alone. It tells
the parameter by its name unless the long name is empty; then the dashes stand in it
with no name behind them.
-/

namespace Handbook
namespace Sheet

variable {sheet : Sheet} {parameter : Parameter} {parameters : List Parameter}
  {group : UsageGroup}

/-! ## The usage line as a line of fragments -/

/-- The fragment of all short toggles, if there are any. -/
def toggleFragments (parameters : List Parameter) : List Text :=
  let toggles := UsageGroup.shortToggle.members parameters
  if toggles.isEmpty then []
  else
    [UsageGroup.shortToggle.fragment (toggles.flatMap fun toggle => toggle.shortName.displayed)]

/-- The fragments of all parameters, in order. -/
def usageFragments (parameters : List Parameter) : List Text :=
  toggleFragments parameters ++ separateFragments parameters

theorem togglesText_eq (parameters : List Parameter) :
    togglesText parameters =
      (toggleFragments parameters).flatMap fun fragment => ' ' :: fragment := by
  unfold togglesText toggleFragments
  dsimp only
  rw [UsageGroup.members_eq_usageMembers]
  split
  · rfl
  · rw [List.flatMap_singleton]
    rfl

/-- Textual parameters have a usage line before blanks are trimmed: their fragments, with a blank in
front of each. -/
theorem untrimmedUsage_eq (textual : ∀ parameter ∈ parameters, parameter.Textual) :
    untrimmedUsage parameters =
      .ok ((usageFragments parameters).flatMap fun fragment => ' ' :: fragment) := by
  rw [untrimmedUsage, shortToggles_eq textual, flatMap_usagePart, togglesText_eq, usageFragments,
    List.flatMap_append]
  rfl

/-- A fragment has no blanks at its ends; only an argument that must be given has its bare name for
one. -/
theorem UsageGroup.solid_fragment
    {name : Text}
    (bare : group = requiredArgument → Text.Solid name) :
    Text.Solid (group.fragment name) := by
  have bracket : Text.isBlank '[' = false := by decide
  have closing : Text.isBlank ']' = false := by decide
  have point : Text.isBlank '.' = false := by decide
  cases group with
  | shortToggle => exact Text.solid_append rfl rfl bracket closing name
  | requiredOption => exact Text.solid_append rfl rfl (by decide) (by decide) name
  | longToggle => exact Text.solid_append rfl rfl bracket closing name
  | singleOption => exact Text.solid_append rfl rfl bracket closing name
  | multipleOption => exact Text.solid_append rfl rfl bracket point name
  | requiredArgument => exact bare rfl
  | singleArgument => exact Text.solid_append rfl rfl bracket closing name
  | multipleArgument => exact Text.solid_append rfl rfl bracket point name

theorem solid_usageFragments
    (named : ∀ parameter ∈ UsageGroup.requiredArgument.members parameters,
      Text.Solid parameter.longName.displayed) :
    ∀ fragment ∈ usageFragments parameters, Text.Solid fragment := by
  intro fragment member
  rcases List.mem_append.mp member with toggles | separate
  · unfold toggleFragments at toggles
    dsimp only at toggles
    split at toggles
    · exact absurd toggles List.not_mem_nil
    · rw [List.mem_singleton.mp toggles]
      exact UsageGroup.solid_fragment (fun impossible => by cases impossible)
  · obtain ⟨group, _, inGroup⟩ := List.mem_flatMap.mp separate
    obtain ⟨parameter, placed, rfl⟩ := List.mem_map.mp inGroup
    apply UsageGroup.solid_fragment
    rintro rfl
    exact named parameter placed

/-- Textual parameters are shown as their fragments with one blank between neighbours. -/
theorem usageOf_eq_joinWords
    (textual : ∀ parameter ∈ parameters, parameter.Textual)
    (named : ∀ parameter ∈ UsageGroup.requiredArgument.members parameters,
      Text.Solid parameter.longName.displayed) :
    usageOf parameters = .ok (Text.joinWords (usageFragments parameters)) := by
  rw [usageOf_eq_untrimmedUsage, untrimmedUsage_eq textual]
  exact congrArg Except.ok (Text.trim_flatMap_blank (solid_usageFragments named))

/-! ## Parameters of an initialized sheet -/

/-- The name of a positional parameter has no blanks at its ends. -/
theorem Built.solid_longName
    (built : sheet.Built)
    (succeeded : sheet.initialized.failure = none)
    (member : parameter ∈ sheet.initialized.state.parameters)
    (positional : parameter.isPositional = true) :
    Text.Solid parameter.longName.displayed := by
  obtain ⟨descriptor, declared, rfl⟩ := built.exists_parameterIn succeeded member
  obtain ⟨declaration, accepted⟩ := built.options.exists_check descriptor declared
  obtain ⟨_, name, _, _, named, nonempty, _⟩ :=
    Descriptor.exists_limit_parameterIn built.slots positional
  have long : descriptor.longText = name := Value.str.inj named
  exact (Declaration.solid_of_check accepted).1 (long ▸ nonempty)

theorem Built.usageParameters_initialized
    (built : sheet.Built)
    (succeeded : sheet.initialized.failure = none) :
    sheet.initialized.state.usageParameters =
      .ok (Text.joinWords (usageFragments sheet.initialized.state.parameters)) := by
  apply usageOf_eq_joinWords (built.textual_initialized succeeded)
  intro parameter placed
  obtain ⟨member, argument⟩ := List.mem_filter.mp placed
  apply built.solid_longName succeeded member
  simp only [UsageGroup.holds, Bool.and_eq_true] at argument
  exact argument.1.2

/-- The usage line of an initialized sheet shares its parameters out among the groups without a loss
and shows them as fragments with one blank between neighbours: the letters of the short toggles in
one, if there are any, and one for each other parameter, group by group and in order. What is
trimmed from it is the blank in front of the first fragment. -/
theorem usageParameters_eq_joinWords
    (built : sheet.Built)
    (succeeded : sheet.initialized.failure = none) :
    let parameters := sheet.initialized.state.parameters
    (UsageGroup.all.flatMap fun group => group.members parameters).Perm parameters ∧
      (∀ parameter ∈ parameters, ∃ name, parameter.longName = .str name) ∧
      (∀ parameter ∈ UsageGroup.shortToggle.members parameters,
        ∃ letter, parameter.shortName = .str [letter]) ∧
      sheet.initialized.state.usageParameters =
        .ok (Text.joinWords (usageFragments parameters)) ∧
      ∃ untrimmed, untrimmedUsage parameters = .ok untrimmed ∧
        sheet.initialized.state.usageParameters = .ok (Text.trim untrimmed) ∧
        (usageFragments parameters = [] ∧ untrimmed = [] ∨
          untrimmed = ' ' :: Text.joinWords (usageFragments parameters)) := by
  intro parameters
  have textual := built.textual_initialized succeeded
  refine ⟨UsageGroup.flatMap_members_perm _, ?_, ?_, ?_, _, untrimmedUsage_eq textual, ?_, ?_⟩
  · intro parameter member
    exact ⟨_, (textual parameter member).longName_eq⟩
  · intro parameter placed
    obtain ⟨member, toggle⟩ := List.mem_filter.mp placed
    obtain ⟨descriptor, declared, rfl⟩ := built.exists_parameterIn succeeded member
    obtain ⟨letter, _, shortName⟩ :=
      (built.options.checked descriptor declared).exists_letter (Bool.and_eq_true_iff.mp toggle).2
    exact ⟨letter, shortName⟩
  · exact built.usageParameters_initialized succeeded
  · rw [usageParameters, usageOf_eq_untrimmedUsage, untrimmedUsage_eq textual]
    rfl
  · by_cases empty : usageFragments parameters = []
    · exact Or.inl ⟨empty, by rw [empty]; rfl⟩
    · exact Or.inr (Text.flatMap_blank_eq empty)

/-- A short toggle and an argument that must be given. -/
theorem usageParameters_of_toggle_and_argument :
    let verbose : Descriptor :=
      ⟨.str ['a', 'l', 'l'], .str ['a'], .str [], .toggle, .unset, .bool false⟩
    let file : Descriptor := ⟨.str ['F'], .str [], .str [], .single, .unset, .bool true⟩
    let sheet : Sheet :=
      { application := [], category := [], command := [], description := []
        slots := ⟨[⟨['F'], .exactly 1⟩]⟩, options := ⟨[file, verbose]⟩ }
    sheet.Built ∧ sheet.initialized.failure = none ∧
      usageFragments sheet.initialized.state.parameters = ["[-a]".toList, ['F']] ∧
      untrimmedUsage sheet.initialized.state.parameters = .ok " [-a] F".toList ∧
      sheet.initialized.state.usageParameters = .ok "[-a] F".toList := by
  intro verbose file sheet
  have slotsAdded : SlotTable.addAll {} [(.str ['F'], .int 1)] = .ok sheet.slots := rfl
  have optionsAdded : OptionTable.addAll {}
      ([{ names := .str ['F'], cardinality := .known .single, required := .bool true },
        { names := .str ['a', 'l', 'l', ',', 'a'] }].map .declared) = .ok sheet.options := by
    cbv
  have built : sheet.Built := ⟨.addAll .empty slotsAdded, .addAll .empty optionsAdded, rfl⟩
  have succeeded : sheet.initialized.failure = none := by cbv
  have fragments :
      usageFragments sheet.initialized.state.parameters = ["[-a]".toList, ['F']] := by cbv
  obtain ⟨_, _, _, usage, untrimmed, whole, _, blank⟩ :=
    usageParameters_eq_joinWords built succeeded
  rw [fragments] at usage blank
  have line : untrimmed = " [-a] F".toList :=
    blank.resolve_left fun impossible => List.cons_ne_nil _ _ impossible.1
  exact ⟨built, succeeded, fragments, line ▸ whole, usage⟩

/-! ## Names in fragments -/

/-- Whether a parameter is told by a text: by its long name behind two dashes, or by its short name
behind one. -/
def IdentifiedIn (parameter : Parameter) (fragment : Text) : Prop :=
  (∃ name, parameter.longName = .str name ∧ name ≠ [] ∧ '-' :: '-' :: name <:+: fragment) ∨
    ∃ name, parameter.hasShortName = true ∧ parameter.shortName = .str name ∧
      '-' :: name <:+: fragment

/-- Whether a fragment consists of dashes with no name behind them. -/
def IsBare (fragment : Text) : Prop :=
  fragment ∈ (["-- VALUE", "[--]", "[-- VALUE]", "[-- VALUE]..."] : List Text)

/-- The groups of named parameters that accept values. -/
def valueGroups : List UsageGroup :=
  [.requiredOption, .singleOption, .multipleOption]

theorem mem_valueGroups
    (held : group.holds parameter = true)
    (named : parameter.isPositional = false)
    (accepting : parameter.isToggle = false) :
    group ∈ valueGroups := by
  cases group <;> simp_all [UsageGroup.holds, valueGroups]

/-- The groups of named parameters that have a fragment each. -/
theorem mem_valueGroups_or_eq_longToggle
    (held : group.holds parameter = true)
    (named : parameter.isPositional = false)
    (different : group ≠ .shortToggle) :
    group ∈ valueGroups ∨ group = .longToggle := by
  cases group <;> simp_all [UsageGroup.holds, valueGroups]

/-- The fragment of an option that accepts values has its long name behind two dashes. -/
theorem dashed_infix_fragment (valued : group ∈ valueGroups) (name : Text) :
    '-' :: '-' :: name <:+: group.fragment name := by
  simp only [valueGroups, List.mem_cons, List.not_mem_nil, or_false] at valued
  rcases valued with rfl | rfl | rfl
  · exact ⟨[], " VALUE", rfl⟩
  · exact ⟨['['], " VALUE]", rfl⟩
  · exact ⟨['['], " VALUE]...", rfl⟩

/-- Without a long name there stands a second dash behind the first one, and a blank behind both. -/
theorem letter_infix_fragment_nil_iff (valued : group ∈ valueGroups) (letter : Char) :
    ['-', letter] <:+: group.fragment [] ↔ letter = '-' ∨ letter = ' ' := by
  simp only [valueGroups, List.mem_cons, List.not_mem_nil, or_false] at valued
  rcases valued with rfl | rfl | rfl <;>
    simp [UsageGroup.fragment, List.infix_cons_iff, List.cons_prefix_cons]

/-- A fragment of a named parameter is bare when it is made of the empty name. -/
theorem isBare_fragment_iff
    {name : Text}
    (separate : group ∈ valueGroups ∨ group = .longToggle)
    (unblank : ∀ first rest, name = first :: rest → first ≠ ' ') :
    IsBare (group.fragment name) ↔ name = [] := by
  simp only [valueGroups, List.mem_cons, List.not_mem_nil, or_false] at separate
  cases name with
  | nil => rcases separate with (rfl | rfl | rfl) | rfl <;> simp [IsBare, UsageGroup.fragment]
  | cons first rest =>
      have visible := unblank first rest rfl
      rcases separate with (rfl | rfl | rfl) | rfl <;> simp [IsBare, UsageGroup.fragment, visible]

variable {declaration : Declaration} {descriptor : Descriptor}

/-- An option without a long name is told by its fragment only if its short name is a dash, which
stands there for every option. -/
theorem identifiedIn_fragment_nil_iff
    (accepted : declaration.check = .ok descriptor)
    (runs : List Run)
    (valued : group ∈ valueGroups)
    (unnamed : descriptor.longText = []) :
    IdentifiedIn (descriptor.parameterIn runs) (group.fragment []) ↔
      (descriptor.parameterIn runs).shortName = .str ['-'] := by
  constructor
  · rintro (⟨name, named, nonempty, _⟩ | ⟨name, hasShortName, named, inFragment⟩)
    · exact absurd (Value.str.inj named ▸ unnamed) nonempty
    · obtain ⟨letter, short, shortName⟩ :=
        (Declaration.checked_of_check accepted).exists_letter hasShortName
      obtain rfl : [letter] = name := Value.str.inj (shortName.symm.trans named)
      -- Only a dash or a blank follows a dash in the fragment, and a short name is no blank.
      have solid := (Declaration.solid_of_check accepted).2 (by simp [short])
      have visible : letter ≠ ' ' := (short ▸ solid).first_ne_blank
      have dash := (letter_infix_fragment_nil_iff valued letter).mp inFragment
      exact dash.resolve_right visible ▸ named
  · intro shortName
    have inFragment := (letter_infix_fragment_nil_iff valued '-').mpr (Or.inl rfl)
    refine Or.inr ⟨['-'], ?_, shortName, inFragment⟩
    rw [Parameter.hasShortName, shortName, Parameter.isShortName_str]
    decide

/-- An option that accepts values is told by its fragment when it has a long name, and otherwise if
its short name is a dash. -/
theorem identifiedIn_fragment_iff
    (accepted : declaration.check = .ok descriptor)
    (runs : List Run)
    (valued : group ∈ valueGroups) :
    IdentifiedIn (descriptor.parameterIn runs) (group.fragment descriptor.longText) ↔
      descriptor.longText ≠ [] ∨ (descriptor.parameterIn runs).shortName = .str ['-'] := by
  by_cases unnamed : descriptor.longText = []
  · have short := identifiedIn_fragment_nil_iff accepted runs valued unnamed
    simpa [unnamed] using short
  · have long : IdentifiedIn (descriptor.parameterIn runs) (group.fragment descriptor.longText) :=
      Or.inl ⟨_, rfl, unnamed, dashed_infix_fragment valued _⟩
    exact iff_of_true long (Or.inl unnamed)

/-- Every named parameter of an initialized sheet that is no short toggle has a fragment of its own
in the usage line. If it accepts values, its fragment tells it exactly when its long name is not
empty, a dash as a short name apart. The fragment is bare exactly when the long name is empty. -/
theorem named_parameters_identified
    (built : sheet.Built)
    (succeeded : sheet.initialized.failure = none) :
    let parameters := sheet.initialized.state.parameters
    sheet.initialized.state.usageParameters =
        .ok (Text.joinWords (usageFragments parameters)) ∧
      ∀ parameter ∈ parameters, parameter.isPositional = false →
        (parameter.isToggle = true → parameter.hasShortName = false) →
          ∃ (group : UsageGroup) (fragment : Text),
            parameter ∈ group.members parameters ∧
            fragment = group.fragment parameter.longName.displayed ∧
            fragment ∈ usageFragments parameters ∧
            (parameter.isToggle = false →
              (IdentifiedIn parameter fragment ↔
                parameter.longName ≠ .str [] ∨ parameter.shortName = .str ['-'])) ∧
            (IsBare fragment ↔ parameter.longName = .str []) := by
  intro parameters
  refine ⟨built.usageParameters_initialized succeeded, ?_⟩
  intro parameter member named toggle
  have held : (usageGroup parameter).holds parameter = true := UsageGroup.holds_iff.mpr rfl
  have placed : parameter ∈ (usageGroup parameter).members parameters :=
    List.mem_filter.mpr ⟨member, held⟩
  have different : usageGroup parameter ≠ .shortToggle := by
    intro shortToggle
    have short := UsageGroup.holds_iff.mpr shortToggle
    simp only [UsageGroup.holds, Bool.and_eq_true] at short
    rw [toggle short.1] at short
    exact Bool.false_ne_true short.2
  have shown := fragment_mem_separateFragments placed different
  obtain ⟨descriptor, declared, rfl⟩ := built.exists_parameterIn succeeded member
  obtain ⟨declaration, accepted⟩ := built.options.exists_check descriptor declared
  have unnamed : (descriptor.parameterIn sheet.slots.mergedRuns).longName = .str [] ↔
      descriptor.longText = [] := by
    rw [Descriptor.parameterIn, Value.str.injEq]
  have visible : ∀ first rest, descriptor.longText = first :: rest → first ≠ ' ' := by
    intro first rest whole
    have solid := (Declaration.solid_of_check accepted).1 (by simp [whole])
    exact (whole ▸ solid).first_ne_blank
  refine ⟨_, _, placed, rfl, List.mem_append_right _ shown, ?_, ?_⟩
  · intro accepting
    rw [ne_eq, unnamed]
    exact identifiedIn_fragment_iff accepted _ (mem_valueGroups held named accepting)
  · rw [unnamed]
    exact isBare_fragment_iff (mem_valueGroups_or_eq_longToggle held named different) visible

/-- An option with a long and a short name that must be given. -/
theorem named_parameters_identified_of_long_name :
    let level : Descriptor :=
      ⟨.str ['l', 'o', 'g'], .str ['l'], .str [], .single, .unset, .bool true⟩
    let sheet : Sheet :=
      { application := [], category := [], command := [], description := []
        options := ⟨[level]⟩ }
    let parameter : Parameter :=
      { required := .bool true, shortName := .str ['l'], longName := .str ['l', 'o', 'g']
        limit := .int 1 }
    sheet.Built ∧ sheet.initialized.failure = none ∧
      sheet.initialized.state.parameters = [parameter] ∧ parameter.isPositional = false ∧
      parameter.isToggle = false ∧
      ∃ fragment ∈ usageFragments [parameter],
        IdentifiedIn parameter fragment ∧ ¬ IsBare fragment := by
  intro level sheet parameter
  have optionsAdded : OptionTable.addAll {}
      ([{ names := .str ['l', 'o', 'g', ',', 'l'], cardinality := .known .single
          required := .bool true }].map .declared) = .ok sheet.options := by
    cbv
  have built : sheet.Built := ⟨.empty, .addAll .empty optionsAdded, rfl⟩
  have succeeded : sheet.initialized.failure = none := by cbv
  have parameters : sheet.initialized.state.parameters = [parameter] := by cbv
  have named : parameter.isPositional = false := by cbv
  have accepting : parameter.isToggle = false := by cbv
  obtain ⟨_, shown⟩ := named_parameters_identified built succeeded
  rw [parameters] at shown
  obtain ⟨_, fragment, _, _, member, identified, bare⟩ :=
    shown parameter List.mem_cons_self named (by simp [accepting])
  exact ⟨built, succeeded, parameters, named, accepting, fragment, member,
    (identified accepting).mpr (Or.inl (by simp [parameter])), by simp [bare, parameter]⟩

/-- An option that accepts a value and is declared with a short name alone is shown as two dashes
without a name. -/
theorem bare_fragment_of_short_name :
    let option : Descriptor := ⟨.str [], .str ['x'], .str [], .single, .unset, .bool false⟩
    let sheet : Sheet :=
      { application := [], category := [], command := [], description := []
        options := ⟨[option]⟩ }
    let parameter : Parameter := { shortName := .str ['x'], limit := .int 1 }
    sheet.Built ∧ sheet.initialized.failure = none ∧
      sheet.initialized.state.parameters = [parameter] ∧ parameter.isPositional = false ∧
      parameter.isToggle = false ∧
      sheet.initialized.state.usageParameters = .ok "[-- VALUE]".toList ∧
      ¬ IdentifiedIn parameter "[-- VALUE]".toList ∧ IsBare "[-- VALUE]".toList := by
  intro option sheet parameter
  have optionsAdded : OptionTable.addAll {}
      ([{ names := .str [',', 'x'], cardinality := .known .single }].map .declared) =
      .ok sheet.options := by
    cbv
  have built : sheet.Built := ⟨.empty, .addAll .empty optionsAdded, rfl⟩
  have succeeded : sheet.initialized.failure = none := by cbv
  have parameters : sheet.initialized.state.parameters = [parameter] := by cbv
  have usage := built.usageParameters_initialized succeeded
  have fragments : usageFragments [parameter] = ["[-- VALUE]".toList] := by cbv
  rw [parameters, fragments, Text.joinWords_singleton] at usage
  refine ⟨built, succeeded, parameters, by cbv, by cbv, usage, ?_, by simp [IsBare]⟩
  rintro (⟨name, named, nonempty, _⟩ | ⟨name, _, named, inFragment⟩)
  · exact nonempty (Value.str.inj named).symm
  · obtain rfl : ['x'] = name := Value.str.inj named
    have valued : UsageGroup.singleOption ∈ valueGroups := by decide
    exact absurd ((letter_infix_fragment_nil_iff valued 'x').mp inFragment) (by decide)

end Sheet
end Handbook
