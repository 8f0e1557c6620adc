import Handbook.Proofs.Text.Column

/-!
# Lines of a column

What the lines of a text in a column hold, padded or not: the words of the text
and no character but its own and blanks. A column is empty when its text holds
nothing but blanks, and a line that is wider than its column is a single word.
-/

namespace Handbook.Text

variable {character : Char} {text line : Text} {width : Nat}

/-! ## Characters -/

/-- An item other than the separator is found in the pieces that are joined. -/
theorem mem_intercalate_iff
    {Item : Type}
    {item separator : Item}
    {pieces : List (List Item)}
    (different : item ≠ separator) :
    item ∈ [separator].intercalate pieces ↔ ∃ piece ∈ pieces, item ∈ piece := by
  induction pieces with
  | nil => simp
  | cons piece rest hypothesis =>
      cases rest with
      | nil => simp
      | cons next others =>
          rw [List.intercalate_cons_cons, List.mem_append, List.mem_append, hypothesis]
          simp [different]

/-- A character other than the blank is found in the words of its text. -/
theorem exists_mem_words_iff (notBlank : character ≠ ' ') :
    (∃ word ∈ words text, character ∈ word) ↔ character ∈ text := by
  conv_rhs => rw [← intercalate_pieces ' ' text, mem_intercalate_iff notBlank]
  constructor
  · rintro ⟨word, member, present⟩
    exact ⟨word, (List.mem_filter.mp member).1, present⟩
  · rintro ⟨piece, member, present⟩
    exact ⟨piece, List.mem_filter.mpr ⟨member, by simp [List.ne_nil_of_mem present]⟩, present⟩

/-- A text has a word when it has a character other than the blank. -/
theorem words_ne_nil_iff : words text ≠ [] ↔ ∃ character ∈ text, character ≠ ' ' := by
  constructor
  · intro nonempty
    obtain ⟨word, member⟩ := List.exists_mem_of_ne_nil _ nonempty
    obtain ⟨wordNonempty, unbroken⟩ := isWord_of_mem_words member
    obtain ⟨character, present⟩ := List.exists_mem_of_ne_nil word wordNonempty
    have notBlank : character ≠ ' ' := fun blank => unbroken (blank ▸ present)
    exact ⟨character, (exists_mem_words_iff notBlank).mp ⟨word, member, present⟩, notBlank⟩
  · rintro ⟨character, present, notBlank⟩
    obtain ⟨word, member, _⟩ := (exists_mem_words_iff notBlank).mpr present
    exact List.ne_nil_of_mem member

/-- The lines of a text in a column hold its own characters and blanks. -/
theorem mem_of_mem_columnize
    (notBlank : character ≠ ' ')
    (member : line ∈ columnize text width)
    (present : character ∈ line) :
    character ∈ text := by
  rcases Nat.lt_or_ge 1 width with wide | narrow
  · obtain ⟨groups, _, whole, filled⟩ := exists_packed_columnize wide text
    rw [filled] at member
    obtain ⟨group, inGroups, rfl⟩ := List.mem_map.mp member
    obtain ⟨word, inGroup, inWord⟩ := (mem_intercalate_iff notBlank).mp present
    rw [← exists_mem_words_iff notBlank, ← whole]
    exact ⟨word, List.mem_flatten_of_mem inGroups inGroup, inWord⟩
  · rw [columnize_of_le_one narrow] at member
    simp at member

theorem mem_padRight_iff (notBlank : character ≠ ' ') :
    character ∈ padRight width text ↔ character ∈ text := by
  simp [padRight, notBlank]

/-! ## Words -/

/-- Blanks behind a text belong to no word. -/
@[simp] theorem words_padRight (width : Nat) (text : Text) :
    words (padRight width text) = words text := by
  unfold padRight
  cases width - text.length with
  | zero => simp
  | succ more =>
      have blanks : words (List.replicate more ' ') = [] := by
        have front := @words_append_of_blanks (List.replicate more ' ') (by simp) []
        rwa [List.append_nil, words_nil] at front
      rw [List.replicate_succ, words_append_blank, blanks, List.append_nil]

/-- The lines of a text in a column hold the words of the text, in order. -/
theorem flatMap_words_columnize (wide : 1 < width) (text : Text) :
    (columnize text width).flatMap words = words text := by
  have fills := (fills_iff wide text (columnize text width)).mpr rfl
  rw [words_eq_wordRuns, ← fills.flatMap_wordRuns]
  exact List.flatMap_congr fun line _ => words_eq_wordRuns line

/-- A text has a line in a column when it has a word. -/
theorem columnize_eq_nil_iff (wide : 1 < width) : columnize text width = [] ↔ words text = [] := by
  constructor
  · intro empty
    rw [← flatMap_words_columnize wide text, empty]
    rfl
  · intro empty
    exact columnize_of_words_nil empty width

/-! ## Widths -/

/-- A line of a column is a word or fits. -/
theorem isWord_or_length_le (member : line ∈ columnize text width) :
    IsWord line ∨ line.length ≤ width := by
  rcases Nat.lt_or_ge 1 width with wide | narrow
  · have fills := (fills_iff wide text (columnize text width)).mpr rfl
    have joined := fills.joinWords_wordRuns line member
    cases runs : wordRuns line with
    | nil => exact absurd runs (fills.wordRuns_ne_nil line member)
    | cons word rest =>
        cases rest with
        | nil =>
            have alone : line ∈ words line := by
              rw [runs, joinWords_singleton] at joined
              rw [words_eq_wordRuns, runs, joined]
              exact List.mem_singleton_self line
            exact Or.inl (isWord_of_mem_words alone)
        | cons next others =>
            refine Or.inr (fills.length_le line member ?_)
            rw [runs, List.length_cons, List.length_cons]
            omega
  · rw [columnize_of_le_one narrow] at member
    simp at member

end Handbook.Text
