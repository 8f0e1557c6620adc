import Handbook.Classifier
import Handbook.Proofs.Descriptor.Built
import Handbook.Proofs.Slot.Positions

/-!
# Classified descriptors

The classification of a checked descriptor among runs always succeeds. The
parameter it gives takes its position and its limit from the first run of the
long name, and everything else from the descriptor.
-/

namespace Handbook

/-- The position of a name among runs: the offset of its first one, if there is one. -/
def Run.position (name : Text) (runs : List Run) : Int :=
  if (first? name runs).isSome then offset name runs else Parameter.noPosition

/-- The search for a name adds up the counts of all runs before the first of that name. -/
theorem positionIn_eq (name : Text) (start : Int) (runs : List Run) :
    positionIn (.str name) (.int start) (runs.map Run.binding) =
      .ok (.int (if (Run.first? name runs).isSome then start + Run.offset name runs
        else Parameter.noPosition)) := by
  induction runs generalizing start with
  | nil => rfl
  | cons run rest hypothesis =>
      by_cases same : run.name = name
      · simp [positionIn, same, Run.first?_cons_of_same, Run.offset_cons_of_same]
      · simp [positionIn, same, Run.first?_cons_of_ne, Run.offset_cons_of_ne, Except.bind,
          hypothesis, Int.add_assoc]

theorem find?_binding (name : Text) (runs : List Run) :
    (runs.map Run.binding).find? (fun binding => binding.name.equals (.str name)) =
      (Run.first? name runs).map Run.binding := by
  rw [List.find?_map]
  congr 1
  simp [Run.first?, Function.comp_def]

namespace Descriptor

/-- The short name of the parameter of a descriptor. -/
def shortMark (descriptor : Descriptor) : Text :=
  if descriptor.shortText = [] then Parameter.noShortName else descriptor.shortText

/-- The limit of the parameter of a descriptor. -/
def limitIn (descriptor : Descriptor) (runs : List Run) : Int :=
  if Run.position descriptor.longText runs = Parameter.noPosition then
    descriptor.cardinality.limit
  else
    match Run.first? descriptor.longText runs with
    | some run => run.count
    | none => descriptor.cardinality.limit

/-- The parameter of a descriptor among runs. -/
def parameterIn (descriptor : Descriptor) (runs : List Run) : Parameter where
  position := .int (Run.position descriptor.longText runs)
  required := .bool (descriptor.required.truthy && descriptor.cardinality.canBeRequired)
  shortName := .str descriptor.shortMark
  longName := .str descriptor.longText
  description := descriptor.description
  limit := .int (descriptor.limitIn runs)

variable {descriptor : Descriptor}

theorem Checked.isNamed (checked : descriptor.Checked) : descriptor.isNamed = .ok true := by
  unfold Descriptor.isNamed
  rw [checked.longName_eq, checked.shortName_eq, Value.read_str, Value.read_str]
  by_cases empty : descriptor.longText = []
  · have short : descriptor.shortText ≠ [] := checked.named.resolve_left (by simp [empty])
    simp [empty, short, bind, Except.bind, pure, Except.pure]
  · simp [empty, bind, Except.bind, pure, Except.pure]

/-- The position of a descriptor is that of its long name, if this reads as a text. -/
theorem positionAmong_of_read
    {name : Text}
    (named : descriptor.longName.read = .ok (.str name))
    (runs : List Run) :
    descriptor.positionAmong (runs.map Run.binding) = .ok (.int (Run.position name runs)) := by
  cases runs with
  | nil => rfl
  | cons run rest =>
      unfold Descriptor.positionAmong
      rw [if_neg (by simp), named]
      exact (positionIn_eq name 0 (run :: rest)).trans (by simp [Run.position])

theorem Checked.positionAmong (checked : descriptor.Checked) (runs : List Run) :
    descriptor.positionAmong (runs.map Run.binding) =
      .ok (.int (Run.position descriptor.longText runs)) :=
  positionAmong_of_read (by rw [checked.longName_eq, Value.read_str]) runs

theorem Checked.markedShortName (checked : descriptor.Checked) :
    descriptor.markedShortName = .ok (.str descriptor.shortMark) := by
  unfold Descriptor.markedShortName
  rw [checked.shortName_eq, Value.read_str]
  by_cases empty : descriptor.shortText = [] <;>
    simp [shortMark, empty, bind, Except.bind, pure, Except.pure]

theorem Checked.mustBeGiven (checked : descriptor.Checked) :
    descriptor.mustBeGiven =
      .ok (.bool (descriptor.required.truthy && descriptor.cardinality.canBeRequired)) := by
  obtain ⟨flag, required⟩ := checked.required_eq
  unfold Descriptor.mustBeGiven
  rw [required, Value.read_bool]
  cases flag <;> rfl

theorem Checked.limitAmong (checked : descriptor.Checked) (runs : List Run) :
    descriptor.limitAmong
        (Parameter.isPosition (.int (Run.position descriptor.longText runs)))
        (runs.map Run.binding) =
      .ok (.int (descriptor.limitIn runs)) := by
  rw [Parameter.isPosition_int]
  unfold Descriptor.limitAmong limitIn
  by_cases unplaced : Run.position descriptor.longText runs = Parameter.noPosition
  · simp [unplaced]
  · cases runs with
    | nil => exact absurd rfl unplaced
    | cons run rest =>
        rw [if_neg (by simp [unplaced]), if_neg unplaced, checked.longName_eq, Value.read_str]
        simp only [bind, Except.bind, find?_binding]
        cases Run.first? descriptor.longText (run :: rest) <;> simp [pure, Except.pure]

/-- A checked descriptor is always classified. -/
theorem Checked.classifyDescriptor (checked : descriptor.Checked) (runs : List Run) :
    ({} : Classifier).classifyDescriptor descriptor (runs.map Run.binding) =
      .ok (descriptor.parameterIn runs) := by
  obtain ⟨text, description⟩ := checked.description_eq
  unfold Classifier.classifyDescriptor Classifier.position Classifier.required
    Classifier.shortName Classifier.limit
  simp only [Classifier.answer_none, checked.isNamed, checked.positionAmong,
    checked.mustBeGiven, checked.markedShortName, bind, Except.bind]
  rw [checked.limitAmong]
  simp [parameterIn, checked.longName_eq, description, pure, Except.pure]

/-- The position of a classified parameter is that of its long name, if this is a text. -/
theorem position_of_classifyDescriptor
    {runs : List Run}
    {parameter : Parameter}
    {name : Text}
    (classified :
      ({} : Classifier).classifyDescriptor descriptor (runs.map Run.binding) = .ok parameter)
    (named : parameter.longName = .str name) :
    parameter.position = .int (Run.position name runs) := by
  obtain ⟨isNamed, _, afterNamed⟩ := exists_of_bind_eq_ok classified
  cases isNamed with
  | false => cases afterNamed
  | true =>
      obtain ⟨position, placed, afterPosition⟩ := exists_of_bind_eq_ok afterNamed
      obtain ⟨_, _, afterRequired⟩ := exists_of_bind_eq_ok afterPosition
      obtain ⟨_, _, afterShortName⟩ := exists_of_bind_eq_ok afterRequired
      obtain ⟨longName, reads, afterLongName⟩ := exists_of_bind_eq_ok afterShortName
      obtain ⟨_, _, afterDescription⟩ := exists_of_bind_eq_ok afterLongName
      obtain ⟨_, _, whole⟩ := exists_of_bind_eq_ok afterDescription
      cases whole
      rw [show longName = .str name from named] at reads
      rw [Classifier.position, Classifier.answer_none, positionAmong_of_read reads] at placed
      cases placed
      rfl

end Descriptor
end Handbook
