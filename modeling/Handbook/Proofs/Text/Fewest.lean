import Handbook.Proofs.Text.Column
import Mathlib.Order.Bounds.Defs

/-!
# The fewest lines

Greedy filling uses as few lines as there can be. It is never behind: whatever
other lines the words are cut into, after equally many lines of both there are no
more words left for the packed ones.
-/

namespace Handbook.Text

/-! ## Parts of a line -/

/-- A part of a line is not longer than the line. -/
theorem length_joinWords_le_of_infix
    {part group : List Text}
    (inside : part <:+: group) :
    (joinWords part).length ≤ (joinWords group).length := by
  obtain ⟨front, behind, rfl⟩ := inside
  have withFront : (joinWords part).length ≤ (joinWords (front ++ part)).length := by
    rcases eq_or_ne front [] with rfl | frontNonempty
    · exact Nat.le_refl _
    rcases eq_or_ne part [] with rfl | partNonempty
    · exact Nat.zero_le _
    rw [joinWords_append frontNonempty partNonempty, List.length_append, List.length_cons]
    omega
  refine withFront.trans ?_
  rcases eq_or_ne behind [] with rfl | behindNonempty
  · rw [List.append_nil]
  rcases eq_or_ne (front ++ part) [] with empty | nonempty
  · rw [empty]
    exact Nat.zero_le _
  rw [joinWords_append nonempty behindNonempty, List.length_append]
  exact Nat.le_add_right _ _

/-! ## Lines that fit -/

variable {width : Nat} {group line : List Text} {groups lines others : List (List Text)}

theorem Fitting.tail (fitting : Fitting width (group :: groups)) : Fitting width groups where
  ne_nil := (List.forall_mem_cons.mp fitting.ne_nil).2
  length_le := (List.forall_mem_cons.mp fitting.length_le).2

/-- Lines that fit a column fit a wider one. -/
theorem Fitting.of_le
    {wider : Nat}
    (fitting : Fitting width groups)
    (wide : width ≤ wider) :
    Fitting wider groups where
  ne_nil := fitting.ne_nil
  length_le member inGroups several := (fitting.length_le member inGroups several).trans wide

/-- There are no lines without words. -/
theorem Fitting.eq_nil_of_flatten (fitting : Fitting width groups) (empty : groups.flatten = []) :
    groups = [] := by
  cases groups with
  | nil => rfl
  | cons group rest =>
      rw [List.flatten_cons, List.append_eq_nil_iff] at empty
      exact absurd empty.1 (fitting.ne_nil group List.mem_cons_self)

/-! ## Staying ahead -/

/-- If packed lines hold the last words of a group that fits and of what follows it, then the first
of them holds at least the words of the group: with one word more it would not fit. -/
theorem Packed.flatten_suffix
    {rest : List Text}
    (packed : Packed width (line :: others))
    (fits : 1 < group.length → (joinWords group).length ≤ width)
    (ahead : line ++ others.flatten <:+ group ++ rest) :
    others.flatten <:+ rest := by
  have othersSuffix : others.flatten <:+ group ++ rest := (List.suffix_append _ _).trans ahead
  rcases List.suffix_or_suffix_of_suffix othersSuffix (List.suffix_append group rest) with
    within | ⟨front, behind⟩
  · exact within
  cases front with
  | nil => exact behind ▸ List.suffix_refl rest
  | cons word more =>
      exfalso
      have full : width ≤ (joinWords line).length + word.length := by
        cases others with
        | nil => simp at behind
        | cons next further =>
            obtain ⟨first, _, rfl⟩ :=
              List.exists_cons_of_ne_nil (packed.tail.ne_nil next List.mem_cons_self)
            obtain rfl : word = first := (List.cons.inj behind).1
            exact (List.isChain_cons_cons.mp packed.le_length).1 word rfl
      have inGroup : line ++ [word] <:+: group := by
        obtain ⟨before, whole⟩ := ahead
        rw [← behind, ← List.append_assoc, ← List.append_assoc,
          List.append_cancel_right_eq] at whole
        exact ⟨before, more, by rw [← whole]; simp⟩
      have nonempty : line ≠ [] := packed.ne_nil line List.mem_cons_self
      have longer := length_joinWords_append_singleton nonempty word
      have several : 1 < group.length := by
        have held := inGroup.length_le
        have positive := List.length_pos_iff.mpr nonempty
        rw [List.length_append, List.length_singleton] at held
        omega
      have shorter := length_joinWords_le_of_infix inGroup
      have room := fits several
      omega

/-- Packed lines are not more than lines that fit, if the words of the former are the last words of
the latter. -/
theorem Packed.length_le_of_suffix
    (packed : Packed width lines)
    (fitting : Fitting width groups)
    (ahead : lines.flatten <:+ groups.flatten) :
    lines.length ≤ groups.length := by
  -- The packed lines may have words behind them already: they stay ahead line by line.
  induction groups generalizing lines with
  | nil =>
      have empty : lines = [] := packed.eq_nil_of_flatten (List.suffix_nil.mp ahead)
      rw [empty]
  | cons group rest hypothesis =>
      cases lines with
      | nil => exact Nat.zero_le _
      | cons line others =>
          have fits := fitting.length_le group List.mem_cons_self
          exact Nat.succ_le_succ
            (hypothesis packed.tail fitting.tail (packed.flatten_suffix fits ahead))

/-! ## Columns -/

/-- However the words of a text are cut into lines that fit, they are at least as many as those of
its column. -/
theorem length_columnize_le
    {text : Text}
    (wide : 1 < width)
    (fitting : Fitting width groups)
    (whole : groups.flatten = words text) :
    (columnize text width).length ≤ groups.length := by
  obtain ⟨lines, packed, packedWhole, filled⟩ := exists_packed_columnize wide text
  have ahead : lines.flatten <:+ groups.flatten :=
    ⟨[], packedWhole.trans whole.symm⟩
  rw [filled, List.length_map]
  exact packed.length_le_of_suffix fitting ahead

/-- The lines of a text in a column are the fewest that its words can be cut into, a line being a
single word or not wider than the column. In a wider column there are not more of them. -/
theorem isLeast_length_columnize (wide : 1 < width) (text : Text) :
    IsLeast
        {count | ∃ groups, Fitting width groups ∧ groups.flatten = words text ∧
          groups.length = count}
        (columnize text width).length ∧
      ∀ wider, width ≤ wider →
        (columnize text wider).length ≤ (columnize text width).length := by
  obtain ⟨lines, packed, whole, filled⟩ := exists_packed_columnize wide text
  have counted : lines.length = (columnize text width).length := by rw [filled, List.length_map]
  refine ⟨⟨⟨lines, packed.toFitting, whole, counted⟩, ?_⟩, ?_⟩
  · rintro _ ⟨groups, fitting, cut, rfl⟩
    exact length_columnize_le wide fitting cut
  · intro wider widened
    rw [← counted]
    exact length_columnize_le (wide.trans_le widened) (packed.of_le widened) whole

/-- Words that fill their line, and one that is wider than the column: they cannot be cut into less
than four lines. -/
theorem isLeast_length_columnize_of_long_word :
    let text : Text := "aa bbb c dddddddd e".toList
    IsLeast
        {count | ∃ groups, Fitting 6 groups ∧ groups.flatten = words text ∧ groups.length = count}
        4 ∧
      (columnize text 9).length ≤ 4 := by
  intro text
  obtain ⟨least, fewer⟩ := isLeast_length_columnize (show 1 < 6 by decide) text
  have lines : (columnize text 6).length = 4 := by decide
  rw [lines] at least fewer
  exact ⟨least, fewer 9 (by decide)⟩

end Handbook.Text
