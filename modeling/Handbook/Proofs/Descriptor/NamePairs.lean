import Handbook.Proofs.Descriptor.Built
import Handbook.Proofs.Text.Blank

/-!
# Pairs of names

A text of names is cut at its first comma, and what stands on the two sides is
trimmed. Since a comma is no blank, no comma is trimmed away: the short name is free
of commas exactly when the text has no second one. The pairs that come of some text
are described without the cut, and each of them is read back from the text that
joins its names with a comma.
-/

namespace Handbook

/-- A long and a short name as a text of names can declare them: the long one trimmed, the short one
a letter or nothing, neither with a comma, and one of the two not empty. -/
structure IsNamePair (long short : Text) : Prop where
  trimmed : Text.trim long = long
  undivided : ',' ∉ long
  letter : short = [] ∨
    ∃ character, short = [character] ∧ Text.isBlank character = false ∧ character ≠ ','
  named : long ≠ [] ∨ short ≠ []

/-! ## The two sides of a comma -/

section

variable {before : Text}

theorem declaredLong_append (undivided : ',' ∉ before) (after : Text) :
    declaredLong (before ++ ',' :: after) = Text.trim before := by
  rw [declaredLong, List.takeWhile_append_of_pos, List.takeWhile_cons_of_neg (by simp),
    List.append_nil]
  intro character member
  simpa using ne_of_mem_of_not_mem member undivided

theorem declaredShort_append (undivided : ',' ∉ before) (after : Text) :
    declaredShort (before ++ ',' :: after) = Text.trim after := by
  rw [declaredShort, List.dropWhile_append_of_pos, List.dropWhile_cons_of_neg (by simp)]
  · rfl
  · intro character member
    simpa using ne_of_mem_of_not_mem member undivided

end

/-- Without a comma no short name is declared. -/
theorem declaredShort_of_not_mem {names : Text} (undivided : ',' ∉ names) :
    declaredShort names = [] := by
  have none : names.dropWhile (· ≠ ',') = [] := by
    rw [List.dropWhile_eq_nil_iff]
    intro character member
    simpa using ne_of_mem_of_not_mem member undivided
  rw [declaredShort, none]
  rfl

theorem comma_not_mem_declaredLong (names : Text) : ',' ∉ declaredLong names := by
  rw [declaredLong, Text.mem_trim_iff (by decide)]
  intro member
  simpa using List.mem_takeWhile_imp member

/-- The short name of a text has no comma exactly when the text has one at most. -/
theorem comma_not_mem_declaredShort_iff (names : Text) :
    ',' ∉ declaredShort names ↔ names.count ',' ≤ 1 := by
  by_cases divided : ',' ∈ names
  · obtain ⟨before, after, rfl, undivided⟩ := List.eq_append_cons_of_mem divided
    rw [declaredShort_append undivided, Text.mem_trim_iff (by decide), List.count_append,
      List.count_eq_zero_of_not_mem undivided, List.count_cons_self, ← List.count_eq_zero]
    omega
  · rw [declaredShort_of_not_mem divided, List.count_eq_zero_of_not_mem divided]
    simp

/-! ## Reading and joining -/

/-- What is split from a text of names is a pair of names. -/
theorem isNamePair_of_splitNames
    {names long short : Text}
    (split : splitNames names = .ok (long, short)) :
    IsNamePair long short := by
  obtain ⟨⟨rfl, rfl⟩, whole, single, named⟩ := splitNames_eq_ok_iff.mp split
  refine ⟨Text.trim_trim _, comma_not_mem_declaredLong names, ?_, named⟩
  cases short : declaredShort names with
  | nil => exact Or.inl rfl
  | cons character rest =>
      rw [short, List.length_cons] at single
      rw [short] at whole
      have alone : rest = [] := List.eq_nil_of_length_eq_zero (by omega)
      subst alone
      exact Or.inr ⟨character, rfl, Text.isBlank_of_trim_eq_cons short,
        fun comma => whole (by simp [comma])⟩

/-- A pair of names is split from the text that joins it. -/
theorem IsNamePair.splitNames_eq
    {long short : Text}
    (pair : IsNamePair long short) :
    splitNames (long ++ ',' :: short) = .ok (long, short) := by
  rw [splitNames_eq_ok_iff, declaredLong_append pair.undivided,
    declaredShort_append pair.undivided, pair.trimmed]
  rcases pair.letter with rfl | ⟨character, rfl, visible, different⟩
  · simpa using pair.named
  · have solid : Text.Solid [character] :=
      ⟨⟨character, rfl, visible⟩, character, rfl, visible⟩
    rw [solid.trim_eq]
    simpa using Ne.symm different

/-- A text of names is accepted when it has one comma at most, the name behind the comma is not
longer than a letter, and one of the two names is not empty; what is split from it are these two
names. All that can be split from a text are the pairs of names, and each of them is split from the
text that joins it with a comma. -/
theorem splitNames_reads_pairs (names long short : Text) :
    (splitNames names = .ok (long, short) ↔
        (long = declaredLong names ∧ short = declaredShort names) ∧
          names.count ',' ≤ 1 ∧ (declaredShort names).length ≤ 1 ∧
          ¬ (declaredLong names = [] ∧ declaredShort names = [])) ∧
      ((∃ given, splitNames given = .ok (long, short)) ↔ IsNamePair long short) ∧
      (splitNames (long ++ ',' :: short) = .ok (long, short) ↔ IsNamePair long short) := by
  refine ⟨?_, ?_, isNamePair_of_splitNames, IsNamePair.splitNames_eq⟩
  · rw [splitNames_eq_ok_iff]
    refine and_congr_right ?_
    rintro ⟨rfl, rfl⟩
    rw [comma_not_mem_declaredShort_iff, not_and_or]
  · constructor
    · rintro ⟨given, split⟩
      exact isNamePair_of_splitNames split
    · exact fun pair => ⟨_, pair.splitNames_eq⟩

end Handbook
