import Handbook.Proofs.Classification
import Handbook.Proofs.Text.Blank

/-!
# Format names

The format name of a descriptor has one of three shapes: a long name behind two
hyphens, a short name behind one, or both with the long name in brackets. No
trimmed long name begins with a blank, so a long name behind two hyphens is never
taken for a bracket behind a short name that is a hyphen. The format names of two
checked descriptors are therefore equal only if both of their names are.
-/

namespace Handbook
namespace Descriptor

/-- A long name in brackets behind a short name; no long name leaves nothing. -/
def bracketed (long : Text) : Text :=
  if long = [] then [] else " [ --" ++ long ++ " ]"

/-- The format name of a descriptor without a reserved short name. -/
def formatText (descriptor : Descriptor) : Text :=
  if descriptor.shortText = [] then '-' :: '-' :: descriptor.longText
  else '-' :: descriptor.shortText ++ bracketed descriptor.longText

theorem bracketed_injective : Function.Injective bracketed := by
  intro long other equal
  unfold bracketed at equal
  split at equal
  · next empty =>
      split at equal
      · next otherEmpty => rw [empty, otherEmpty]
      · simp at equal
  · split at equal
    · simp at equal
    · simpa using equal

/-- The parameter of a descriptor is ordered by the format name of the descriptor. -/
theorem formatName_parameterIn
    {descriptor : Descriptor}
    (unreserved : descriptor.shortText ≠ Parameter.noShortName)
    (runs : List Run) :
    (descriptor.parameterIn runs).formatName = descriptor.formatText := by
  by_cases unmarked : descriptor.shortText = []
  · have noShortName : (descriptor.parameterIn runs).hasShortName = false := by
      simp [Parameter.hasShortName, parameterIn, shortMark, unmarked]
    rw [Parameter.formatName_of_long noShortName, formatText, if_pos unmarked]
    rfl
  · have shortName : (descriptor.parameterIn runs).shortName = .str descriptor.shortText := by
      rw [parameterIn, shortMark, if_neg unmarked]
    have longName : (descriptor.parameterIn runs).longName = .str descriptor.longText := rfl
    unfold Parameter.formatName Parameter.namesBetween Parameter.hasShortName formatText
    rw [shortName, longName, if_neg unmarked]
    by_cases unnamed : descriptor.longText = [] <;> simp [unreserved, unnamed, bracketed]

variable {first second : Descriptor}

/-- A short name is empty or one character. -/
theorem Checked.shortText_cases (checked : first.Checked) :
    first.shortText = [] ∨ ∃ character, first.shortText = [character] := by
  have bounded := checked.short_length
  cases short : first.shortText with
  | nil => exact Or.inl rfl
  | cons character rest =>
      rw [short, List.length_cons] at bounded
      have alone : rest = [] := List.eq_nil_of_length_eq_zero (by omega)
      exact Or.inr ⟨character, by rw [alone]⟩

/-- A long name does not begin with a space. -/
theorem Checked.longText_ne_space
    (checked : first.Checked)
    (rest : Text) :
    first.longText ≠ ' ' :: rest := by
  intro spaced
  obtain ⟨names, trimmed⟩ := checked.long_trimmed
  have blank := Text.isBlank_of_trim_eq_cons (trimmed.symm.trans spaced)
  exact absurd blank (by decide)

theorem formatText_of_unmarked (unmarked : first.shortText = []) :
    first.formatText = '-' :: '-' :: first.longText :=
  if_pos unmarked

theorem formatText_of_marked
    {character : Char}
    (short : first.shortText = [character]) :
    first.formatText = '-' :: character :: bracketed first.longText := by
  rw [formatText, if_neg (by simp [short]), short]
  rfl

/-- A format name without a short name belongs to no descriptor that has one. -/
theorem Checked.shortText_eq_nil_of_formatText
    (firstChecked : first.Checked)
    (secondChecked : second.Checked)
    (unmarked : first.shortText = [])
    (equal : first.formatText = second.formatText) :
    second.shortText = [] := by
  rcases secondChecked.shortText_cases with empty | ⟨character, short⟩
  · exact empty
  have named : first.longText ≠ [] := firstChecked.named.resolve_right fun marked => marked unmarked
  exfalso
  rw [formatText_of_unmarked unmarked, formatText_of_marked short] at equal
  have behind : first.longText = bracketed second.longText :=
    (List.cons.inj (List.cons.inj equal).2).2
  unfold bracketed at behind
  split at behind
  · exact named behind
  · exact firstChecked.longText_ne_space _ behind

/-- The format names of two checked descriptors are equal only if both of their names are. -/
theorem Checked.names_eq_of_formatText
    (firstChecked : first.Checked)
    (secondChecked : second.Checked)
    (equal : first.formatText = second.formatText) :
    first.shortText = second.shortText ∧ first.longText = second.longText := by
  rcases firstChecked.shortText_cases with firstUnmarked | ⟨firstCharacter, firstShort⟩
  · have secondUnmarked : second.shortText = [] :=
      firstChecked.shortText_eq_nil_of_formatText secondChecked firstUnmarked equal
    refine ⟨firstUnmarked.trans secondUnmarked.symm, ?_⟩
    rw [formatText_of_unmarked firstUnmarked, formatText_of_unmarked secondUnmarked] at equal
    exact (List.cons.inj (List.cons.inj equal).2).2
  · rcases secondChecked.shortText_cases with secondUnmarked | ⟨secondCharacter, secondShort⟩
    · have firstUnmarked : first.shortText = [] :=
        secondChecked.shortText_eq_nil_of_formatText firstChecked secondUnmarked equal.symm
      simp [firstShort] at firstUnmarked
    · rw [formatText_of_marked firstShort, formatText_of_marked secondShort] at equal
      obtain ⟨sameCharacter, sameBehind⟩ := List.cons.inj (List.cons.inj equal).2
      refine ⟨?_, bracketed_injective sameBehind⟩
      rw [firstShort, secondShort, sameCharacter]

end Descriptor

/-- Of a built table, two descriptors with one format name are one descriptor. -/
theorem OptionTable.Built.eq_of_formatText
    {table : OptionTable}
    {first second : Descriptor}
    (built : table.Built)
    (firstMember : first ∈ table.items)
    (secondMember : second ∈ table.items)
    (equal : first.formatText = second.formatText) :
    first = second := by
  have firstChecked := built.checked first firstMember
  obtain ⟨sameShort, sameLong⟩ :=
    firstChecked.names_eq_of_formatText (built.checked second secondMember) equal
  apply built.eq_of_shared firstMember secondMember
  rcases firstChecked.named with named | marked
  · exact Or.inl ⟨named, sameLong⟩
  · exact Or.inr ⟨marked, sameShort⟩

end Handbook
