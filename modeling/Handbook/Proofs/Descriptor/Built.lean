import Handbook.Descriptor.Table
import Handbook.Proofs.Checks
import Mathlib.Data.List.Pairwise

/-!
# Built option tables

An option table is built by adding declarations to the empty one. Its descriptors
are checked: their names and descriptions are texts, the names trimmed and not
both empty. No two of them share a name.
-/

namespace Handbook

namespace Descriptor

/-- The long name of a descriptor, if it is a text. -/
def longText (descriptor : Descriptor) : Text :=
  descriptor.longName.text?.getD []

/-- The short name of a descriptor, if it is a text. -/
def shortText (descriptor : Descriptor) : Text :=
  descriptor.shortName.text?.getD []

/-- What a declaration is checked for. -/
structure Checked (descriptor : Descriptor) : Prop where
  longName_eq : descriptor.longName = .str descriptor.longText
  shortName_eq : descriptor.shortName = .str descriptor.shortText
  description_eq : ∃ text, descriptor.description = .str text
  required_eq : ∃ flag, descriptor.required = .bool flag
  long_trimmed : ∃ names, descriptor.longText = Text.trim names
  short_length : descriptor.shortText.length ≤ 1
  named : descriptor.longText ≠ [] ∨ descriptor.shortText ≠ []

/-- Neither the long name nor the short name of a descriptor is shared with another one. An empty
name is no name. -/
def Distinct (first second : Descriptor) : Prop :=
  (first.longText ≠ [] → first.longText ≠ second.longText) ∧
    (first.shortText ≠ [] → first.shortText ≠ second.shortText)

theorem Distinct.symm {first second : Descriptor} (distinct : first.Distinct second) :
    second.Distinct first := by
  obtain ⟨long, short⟩ := distinct
  constructor
  · intro nonempty equal
    exact long (equal ▸ nonempty) equal.symm
  · intro nonempty equal
    exact short (equal ▸ nonempty) equal.symm

end Descriptor

/-! ## Checked declarations -/

/-- The long name that a text of names declares, empty if there is none. -/
def declaredLong (names : Text) : Text :=
  Text.trim (names.takeWhile (· ≠ ','))

/-- The short name that a text of names declares, empty if there is none. -/
def declaredShort (names : Text) : Text :=
  Text.trim ((names.dropWhile (· ≠ ',')).drop 1)

/-- The two names that are split from a text are the declared ones; the short one has no comma and
is not longer than a character, and one of them is there. -/
theorem splitNames_eq_ok_iff {names long short : Text} :
    splitNames names = .ok (long, short) ↔
      (long = declaredLong names ∧ short = declaredShort names) ∧
        ',' ∉ short ∧ short.length ≤ 1 ∧ (long ≠ [] ∨ short ≠ []) := by
  have split : splitNames names =
      if (declaredShort names).contains ',' then .error .severalShortNames
      else if 1 < (declaredShort names).length then .error .shortNameTooLong
      else if (declaredLong names).isEmpty && (declaredShort names).isEmpty then .error .noName
      else .ok (declaredLong names, declaredShort names) := rfl
  rw [split]
  constructor
  · intro accepted
    split at accepted
    · cases accepted
    next comma =>
    split at accepted
    · cases accepted
    next single =>
    split at accepted
    · cases accepted
    next named =>
    cases accepted
    refine ⟨⟨rfl, rfl⟩, by simpa using comma, Nat.not_lt.mp single, ?_⟩
    simpa [Classical.or_iff_not_imp_left] using named
  · rintro ⟨⟨rfl, rfl⟩, comma, single, named⟩
    rw [if_neg (by simpa using comma), if_neg (Nat.not_lt.mpr single), if_neg]
    simpa [Classical.or_iff_not_imp_left] using named

/-- A cardinality that fits is the defaulted form exactly when there is a default. -/
theorem Declaration.eq_defaulted_iff_of_fitCardinality
    {known cardinality : Cardinality}
    {hasDefault : Bool}
    (fitted : fitCardinality known hasDefault = .ok cardinality) :
    cardinality = .defaulted ↔ hasDefault = true := by
  cases known <;> cases hasDefault <;> cases fitted <;> simp

/-- What an accepted declaration was checked for, and the descriptor that it gives. -/
theorem Declaration.exists_of_check
    {declaration : Declaration}
    {descriptor : Descriptor}
    (accepted : declaration.check = .ok descriptor) :
    ∃ names description known cardinality required,
      declaration.names = .str names ∧
        splitNames names = .ok (declaredLong names, declaredShort names) ∧
        declaration.checkDescription = .ok description ∧
        declaration.checkKnownCardinality = .ok known ∧
        fitCardinality known declaration.hasDefault = .ok cardinality ∧
        declaration.checkRequired = .ok required ∧
        descriptor =
          { longName := .str (declaredLong names)
            shortName := .str (declaredShort names)
            description := .str description
            cardinality
            default := declaration.default
            required := .bool required } := by
  obtain ⟨⟨long, short⟩, split, afterNames⟩ := exists_of_bind_eq_ok accepted
  obtain ⟨description, described, afterDescription⟩ := exists_of_bind_eq_ok afterNames
  obtain ⟨known, given, afterKnown⟩ := exists_of_bind_eq_ok afterDescription
  obtain ⟨cardinality, fitted, afterCardinality⟩ := exists_of_bind_eq_ok afterKnown
  obtain ⟨required, flagged, result⟩ := exists_of_bind_eq_ok afterCardinality
  unfold checkNames at split
  split at split
  · next names named =>
      obtain ⟨⟨rfl, rfl⟩, _⟩ := splitNames_eq_ok_iff.mp split
      cases result
      exact ⟨names, description, known, cardinality, required, named, split, described, given,
        fitted, flagged, rfl⟩
  · cases split

/-- An accepted declaration is of the defaulted form exactly when it has a default. -/
theorem Declaration.cardinality_eq_defaulted_iff
    {declaration : Declaration}
    {descriptor : Descriptor}
    (accepted : declaration.check = .ok descriptor) :
    descriptor.cardinality = .defaulted ↔ descriptor.default ≠ .unset := by
  obtain ⟨_, _, _, _, _, _, _, _, _, fitted, _, rfl⟩ := exists_of_check accepted
  rw [eq_defaulted_iff_of_fitCardinality fitted, hasDefault, Bool.not_eq_true',
    ← Bool.not_eq_true, Value.isUnset_iff]

/-- A declaration that is accepted gives a checked descriptor. -/
theorem Declaration.checked_of_check
    {declaration : Declaration}
    {descriptor : Descriptor}
    (accepted : declaration.check = .ok descriptor) :
    descriptor.Checked := by
  obtain ⟨names, description, _, _, required, _, split, _, _, _, _, rfl⟩ :=
    exists_of_check accepted
  obtain ⟨_, _, shortLength, named⟩ := splitNames_eq_ok_iff.mp split
  exact
    { longName_eq := rfl
      shortName_eq := rfl
      description_eq := ⟨description, rfl⟩
      required_eq := ⟨required, rfl⟩
      long_trimmed := ⟨_, rfl⟩
      short_length := shortLength
      named := named }

/-! ## Building a table -/

namespace OptionTable

/-- A table that comes from the empty one by adding declarations. -/
inductive Built : OptionTable → Prop
  | empty : Built {}
  | add
      {table after : OptionTable}
      {declaration : Declaration}
      (built : Built table)
      (accepted : table.add (.declared declaration) = .ok after) : Built after

/-- An accepted declaration puts its descriptor at the end of a table, none of whose names is in
use. -/
theorem exists_check_of_add_eq_ok
    {table after : OptionTable}
    {declaration : Declaration}
    (accepted : table.add (.declared declaration) = .ok after) :
    ∃ descriptor : Descriptor, declaration.check = .ok descriptor ∧
      checkNames descriptor table.items = .ok () ∧
      after.items = table.items ++ [descriptor] := by
  obtain ⟨offered, checked, appended⟩ := exists_of_bind_eq_ok accepted
  obtain ⟨descriptor, declared, rfl⟩ := exists_of_map_eq_ok checked
  rw [append_item] at appended
  obtain ⟨_, free, _⟩ := exists_of_map_eq_ok appended
  exact ⟨descriptor, declared, free, items_of_insert_eq_ok appended⟩

/-- The descriptors of a built table are those of accepted declarations. -/
theorem Built.exists_check {table : OptionTable} (built : Built table) :
    ∀ descriptor ∈ table.items, ∃ declaration : Declaration,
      declaration.check = .ok descriptor := by
  induction built with
  | empty => simp
  | @add _ _ declaration _ accepted hypothesis =>
      obtain ⟨added, declared, _, items⟩ := exists_check_of_add_eq_ok accepted
      rw [items]
      exact List.forall_mem_append.mpr ⟨hypothesis, by simpa using ⟨declaration, declared⟩⟩

/-- A name is accepted when it is empty or differs from the other. -/
theorem checkName_eq_ok_iff {inUse : Value → Error} {name other : Text} :
    checkName inUse (.str name) (.str other) = .ok () ↔ (name ≠ [] → name ≠ other) := by
  by_cases empty : name = [] <;> by_cases same : name = other <;>
    simp_all [checkName, bind, Except.bind, pure, Except.pure, throw, throwThe,
      MonadExceptOf.throw]

/-- The names of a descriptor are accepted when it is distinct from all others. -/
theorem checkNames_eq_ok_iff
    {descriptor : Descriptor}
    {items : List Descriptor}
    (checked : descriptor.Checked)
    (othersChecked : ∀ other ∈ items, other.Checked) :
    checkNames descriptor items = .ok () ↔ ∀ other ∈ items, descriptor.Distinct other := by
  induction items with
  | nil => simp [checkNames]
  | cons other rest hypothesis =>
      obtain ⟨otherChecked, restChecked⟩ := List.forall_mem_cons.mp othersChecked
      rw [List.forall_mem_cons, ← hypothesis restChecked, checkNames, checked.longName_eq,
        otherChecked.longName_eq, checked.shortName_eq, otherChecked.shortName_eq]
      constructor
      · intro free
        obtain ⟨_, freeLong, afterLong⟩ := exists_of_bind_eq_ok free
        obtain ⟨_, freeShort, afterShort⟩ := exists_of_bind_eq_ok afterLong
        exact ⟨⟨checkName_eq_ok_iff.mp freeLong, checkName_eq_ok_iff.mp freeShort⟩, afterShort⟩
      · rintro ⟨⟨differentLong, differentShort⟩, others⟩
        rw [checkName_eq_ok_iff.mpr differentLong, checkName_eq_ok_iff.mpr differentShort]
        exact others

/-- The descriptors of a built table are checked. -/
theorem Built.checked {table : OptionTable} (built : Built table) :
    ∀ descriptor ∈ table.items, descriptor.Checked := by
  intro descriptor member
  obtain ⟨declaration, declared⟩ := built.exists_check descriptor member
  exact Declaration.checked_of_check declared

/-- The descriptors of a built table are distinct. -/
theorem Built.distinct {table : OptionTable} (built : Built table) :
    table.items.Pairwise Descriptor.Distinct := by
  induction built with
  | empty => exact List.Pairwise.nil
  | add before accepted hypothesis =>
      obtain ⟨added, declared, free, items⟩ := exists_check_of_add_eq_ok accepted
      have checked := Declaration.checked_of_check declared
      rw [items, List.pairwise_append]
      refine ⟨hypothesis, List.pairwise_singleton _ _, ?_⟩
      intro other member last isAdded
      rw [List.mem_singleton] at isAdded
      subst isAdded
      exact ((checkNames_eq_ok_iff checked before.checked).mp free other member).symm

/-- Of a built table, two descriptors with one name are one descriptor. -/
theorem Built.eq_of_shared
    {table : OptionTable}
    {first second : Descriptor}
    (built : Built table)
    (firstMember : first ∈ table.items)
    (secondMember : second ∈ table.items)
    (shared : first.longText ≠ [] ∧ first.longText = second.longText ∨
      first.shortText ≠ [] ∧ first.shortText = second.shortText) :
    first = second := by
  have : Std.Symm Descriptor.Distinct := ⟨fun _ _ => Descriptor.Distinct.symm⟩
  by_contra different
  obtain ⟨long, short⟩ := built.distinct.forall firstMember secondMember different
  rcases shared with ⟨nonempty, equal⟩ | ⟨nonempty, equal⟩
  · exact long nonempty equal
  · exact short nonempty equal

/-- A table to which several declarations have been added is built. -/
theorem Built.addAll
    {table after : OptionTable}
    {declarations : List Declaration}
    (built : Built table)
    (accepted : table.addAll (declarations.map .declared) = .ok after) :
    Built after := by
  rw [OptionTable.addAll, List.foldlM_map] at accepted
  exact foldlM_keeps built (fun _ _ _ before added => before.add added) accepted

end OptionTable
end Handbook
