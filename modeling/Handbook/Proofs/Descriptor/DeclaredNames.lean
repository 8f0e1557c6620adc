import Handbook.Proofs.Classification
import Handbook.Proofs.Text.Blank

/-!
# Declared names

A text of names declares a long name before its comma and a short name behind
it. The parameter of a declaration has a short name when one is declared, and one
name at least, with a single exception: the character that marks a missing short
name can be declared as one, and then it marks the short name as missing.
-/

namespace Handbook

namespace Descriptor

variable {descriptor : Descriptor}

/-- The parameter of a descriptor has a short name when the descriptor has one that is not the mark
of a missing one. -/
theorem hasShortName_parameterIn (descriptor : Descriptor) (runs : List Run) :
    (descriptor.parameterIn runs).hasShortName = true ↔
      descriptor.shortText ≠ [] ∧ descriptor.shortText ≠ Parameter.noShortName := by
  have marked : (descriptor.parameterIn runs).hasShortName =
      decide (descriptor.shortMark ≠ Parameter.noShortName) :=
    Parameter.isShortName_str descriptor.shortMark
  rw [marked, decide_eq_true_eq, shortMark]
  split
  · next empty => simp [empty]
  · next nonempty => simp [nonempty]

/-- The parameter of a checked descriptor has one letter for a short name, if it has one. -/
theorem Checked.exists_letter
    (checked : descriptor.Checked)
    {runs : List Run}
    (hasShortName : (descriptor.parameterIn runs).hasShortName = true) :
    ∃ letter, descriptor.shortText = [letter] ∧
      (descriptor.parameterIn runs).shortName = .str [letter] := by
  obtain ⟨nonempty, _⟩ := (descriptor.hasShortName_parameterIn runs).mp hasShortName
  have single : descriptor.shortText.length = 1 :=
    Nat.le_antisymm checked.short_length (List.length_pos_iff.mpr nonempty)
  obtain ⟨letter, short⟩ := List.length_eq_one_iff.mp single
  refine ⟨letter, short, ?_⟩
  simp [parameterIn, shortMark, short]

end Descriptor

/-- The names of an accepted declaration have no blanks at their ends. -/
theorem Declaration.solid_of_check
    {declaration : Declaration}
    {descriptor : Descriptor}
    (accepted : declaration.check = .ok descriptor) :
    (descriptor.longText ≠ [] → Text.Solid descriptor.longText) ∧
      (descriptor.shortText ≠ [] → Text.Solid descriptor.shortText) := by
  obtain ⟨_, _, _, _, _, _, _, _, _, _, _, rfl⟩ := exists_of_check accepted
  exact ⟨Text.solid_trim, Text.solid_trim⟩

/-- An accepted declaration is classified among any runs. Its parameter has a short name exactly when
one is declared other than the mark of a missing one, and it has one of the two names exactly when
that mark is not all that is declared. -/
theorem classified_names
    {declaration : Declaration}
    {descriptor : Descriptor}
    (accepted : declaration.check = .ok descriptor)
    (runs : List Run) :
    ∃ names parameter,
      declaration.names = .str names ∧
        ({} : Classifier).classify (.item descriptor) (runs.map Run.binding) = .ok parameter ∧
        (parameter.hasShortName = true ↔
          declaredShort names ≠ [] ∧ declaredShort names ≠ Parameter.noShortName) ∧
        (parameter.longName ≠ .str [] ∨ parameter.hasShortName = true ↔
          ¬ (declaredLong names = [] ∧ declaredShort names = Parameter.noShortName)) := by
  have checked := Declaration.checked_of_check accepted
  obtain ⟨names, _, _, _, _, given, split, _, _, _, _, descriptorEqual⟩ :=
    Declaration.exists_of_check accepted
  obtain ⟨_, _, _, named⟩ := splitNames_eq_ok_iff.mp split
  have short : descriptor.shortText = declaredShort names := by rw [descriptorEqual]; rfl
  have longName : (descriptor.parameterIn runs).longName = .str (declaredLong names) := by
    rw [descriptorEqual]
    rfl
  have hasShortName := descriptor.hasShortName_parameterIn runs
  rw [short] at hasShortName
  refine ⟨names, descriptor.parameterIn runs, given, ?_, hasShortName, ?_⟩
  · rw [Classifier.classify_item]
    exact checked.classifyDescriptor runs
  · rw [hasShortName, longName]
    constructor
    · rintro (nonempty | ⟨_, unreserved⟩) ⟨empty, reserved⟩
      · exact nonempty (congrArg Value.str empty)
      · exact unreserved reserved
    · intro notReserved
      by_cases empty : declaredLong names = []
      · exact Or.inr ⟨named.resolve_left (not_not.mpr empty),
          fun reserved => notReserved ⟨empty, reserved⟩⟩
      · exact Or.inl fun equal => empty (Value.str.inj equal)

/-- A short name that is declared without a long one, among runs of other names. -/
theorem classified_names_of_short_name :
    let declaration : Declaration := { names := .str [' ', ',', 'm'] }
    let descriptor : Descriptor :=
      ⟨.str [], .str ['m'], .str [], .toggle, .unset, .bool false⟩
    declaration.check = .ok descriptor ∧
      ∃ parameter,
        ({} : Classifier).classify (.item descriptor) ([⟨['A'], 2⟩].map Run.binding) =
            .ok parameter ∧
          parameter.hasShortName = true := by
  intro declaration descriptor
  have accepted : declaration.check = .ok descriptor := by cbv
  obtain ⟨names, parameter, given, classified, hasShortName, _⟩ :=
    classified_names accepted [⟨['A'], 2⟩]
  obtain rfl : [' ', ',', 'm'] = names := Value.str.inj given
  exact ⟨accepted, parameter, classified, hasShortName.mpr (by decide)⟩

/-- The mark of a missing short name is accepted as the only name of a declaration, and leaves its
parameter without a name. -/
theorem nameless_parameter_of_declared_mark :
    let declaration : Declaration := { names := .str [',', '\x00'] }
    ∃ descriptor parameter,
      declaration.check = .ok descriptor ∧ declaredShort [',', '\x00'] = ['\x00'] ∧
        ({} : Classifier).classify (.item descriptor) [] = .ok parameter ∧
        parameter.longName = .str [] ∧ parameter.hasShortName = false := by
  intro declaration
  exact ⟨⟨.str [], .str ['\x00'], .str [], .toggle, .unset, .bool false⟩, {}, by cbv, by decide,
    by cbv, rfl, by cbv⟩

end Handbook
