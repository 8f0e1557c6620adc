import Handbook.Proofs.Text.Words
import Handbook.Value.Column

/-!
# Filled columns

The lines of a text in a column, said without filling it: they hold the words of
the text in order, no line of several words is wider than the column, and no line
leaves room for the first word of the next one. Only one list of lines is like
that, and it is the one that greedy filling gives.
-/

namespace Handbook.Text

/-! ## Words cut into lines -/

/-- Words cut into lines, none of them empty and none wider than the column but a word that stands
alone. -/
structure Fitting (width : Nat) (groups : List (List Text)) : Prop where
  ne_nil : ∀ group ∈ groups, group ≠ []
  length_le : ∀ group ∈ groups, 1 < group.length → (joinWords group).length ≤ width

/-- Words cut into lines in such a way that no line could have taken the first word of the next
one, the joining blank not counted. -/
structure Packed (width : Nat) (groups : List (List Text)) : Prop extends
    Fitting width groups where
  le_length : groups.IsChain fun group next =>
    ∀ word ∈ next.head?, width ≤ (joinWords group).length + word.length

theorem Packed.nil (width : Nat) : Packed width [] where
  ne_nil := by simp
  length_le := by simp
  le_length := List.isChain_nil

theorem packed_singleton
    {width : Nat}
    {group : List Text}
    (nonempty : group ≠ [])
    (fits : 1 < group.length → (joinWords group).length ≤ width) :
    Packed width [group] where
  ne_nil := by simpa using nonempty
  length_le := by simpa using fits
  le_length := List.isChain_singleton group

theorem Packed.tail
    {width : Nat}
    {group : List Text}
    {groups : List (List Text)}
    (packed : Packed width (group :: groups)) :
    Packed width groups where
  ne_nil := (List.forall_mem_cons.mp packed.ne_nil).2
  length_le := (List.forall_mem_cons.mp packed.length_le).2
  le_length := (List.isChain_cons.mp packed.le_length).2

/-- A line in front of packed lines, too full for the first word of the next one. -/
theorem Packed.cons
    {width : Nat}
    {group behind : List Text}
    {word : Text}
    {others : List (List Text)}
    (packed : Packed width ((word :: behind) :: others))
    (nonempty : group ≠ [])
    (fits : 1 < group.length → (joinWords group).length ≤ width)
    (full : width ≤ (joinWords group).length + word.length) :
    Packed width (group :: (word :: behind) :: others) where
  ne_nil := List.forall_mem_cons.mpr ⟨nonempty, packed.ne_nil⟩
  length_le := List.forall_mem_cons.mpr ⟨fits, packed.length_le⟩
  le_length := List.isChain_cons_cons.mpr ⟨by simpa using full, packed.le_length⟩

/-! ## Filling -/

/-- The length of a line to which a word is added. -/
theorem length_joinWords_append_singleton
    {group : List Text}
    (nonempty : group ≠ [])
    (word : Text) :
    (joinWords (group ++ [word])).length = (joinWords group).length + word.length + 1 := by
  rw [joinWords_append nonempty (List.cons_ne_nil word []), joinWords_singleton]
  simp only [List.length_append, List.length_cons]
  omega

/-- Filling gives packed lines, the first of them beginning with the words of the open line. -/
theorem exists_packed_fill
    {width : Nat}
    {group : List Text}
    (nonempty : group ≠ [])
    (fits : 1 < group.length → (joinWords group).length ≤ width)
    (rest : List Text) :
    ∃ behind others,
      fill width (joinWords group) rest = ((group ++ behind) :: others).map joinWords ∧
        behind ++ others.flatten = rest ∧
        Packed width ((group ++ behind) :: others) := by
  induction rest generalizing group with
  | nil =>
      refine ⟨[], [], by simp, rfl, ?_⟩
      rw [List.append_nil]
      exact packed_singleton nonempty fits
  | cons word rest hypothesis =>
      rw [fill_cons]
      split
      · next room =>
          have longer := length_joinWords_append_singleton nonempty word
          obtain ⟨behind, others, filled, whole, packed⟩ :=
            @hypothesis (group ++ [word]) (by simp) (by omega)
          rw [joinWords_append nonempty (List.cons_ne_nil word []), joinWords_singleton] at filled
          refine ⟨word :: behind, others, ?_, ?_, ?_⟩
          · rw [filled]
            simp
          · rw [List.cons_append, whole]
          · simpa using packed
      · next noRoom =>
          obtain ⟨behind, others, filled, whole, packed⟩ :=
            @hypothesis [word] (by simp) (by simp)
          rw [joinWords_singleton] at filled
          refine ⟨[], (word :: behind) :: others, ?_, ?_, ?_⟩
          · rw [filled]
            simp
          · rw [List.nil_append, List.flatten_cons, List.cons_append, whole]
          · rw [List.append_nil]
            exact packed.cons nonempty fits (by omega)

/-- Words that fit on the open line are put there. -/
theorem fill_append
    {width : Nat}
    {group : List Text}
    (nonempty : group ≠ [])
    (more rest : List Text)
    (fits : more ≠ [] → (joinWords (group ++ more)).length ≤ width) :
    fill width (joinWords group) (more ++ rest) = fill width (joinWords (group ++ more)) rest := by
  induction more generalizing group with
  | nil => simp
  | cons word more hypothesis =>
      have longer := length_joinWords_append_singleton nonempty word
      have whole : group ++ word :: more = group ++ [word] ++ more := by simp
      have shorter :
          (joinWords (group ++ [word])).length ≤ (joinWords (group ++ word :: more)).length := by
        cases more with
        | nil => exact Nat.le_refl _
        | cons next others =>
            rw [whole, joinWords_append (by simp) (List.cons_ne_nil next others),
              List.length_append]
            exact Nat.le_add_right _ _
      have room := fits (List.cons_ne_nil word more)
      rw [List.cons_append, fill_cons, if_pos (by omega), whole, ← @hypothesis (group ++ [word]),
        joinWords_append nonempty (List.cons_ne_nil word []), joinWords_singleton]
      · simp
      · intro _
        rwa [← whole]

/-- The words of the first packed line are put on it. -/
theorem Packed.fill_head
    {width : Nat}
    {word : Text}
    {behind : List Text}
    {others : List (List Text)}
    (packed : Packed width ((word :: behind) :: others))
    (rest : List Text) :
    fill width word (behind ++ rest) = fill width (joinWords (word :: behind)) rest := by
  have fits : behind ≠ [] → (joinWords ([word] ++ behind)).length ≤ width := by
    intro several
    apply packed.length_le (word :: behind) List.mem_cons_self
    simpa using List.length_pos_iff.mpr several
  have filled := fill_append (List.cons_ne_nil word []) behind rest fits
  rwa [joinWords_singleton, List.singleton_append] at filled

/-- Packed lines are the lines that filling gives. -/
theorem Packed.fill_eq
    {width : Nat}
    {word : Text}
    {behind : List Text}
    {others : List (List Text)}
    (packed : Packed width ((word :: behind) :: others)) :
    fill width word (behind ++ others.flatten) = ((word :: behind) :: others).map joinWords := by
  induction others generalizing word behind with
  | nil =>
      rw [packed.fill_head]
      simp
  | cons next others hypothesis =>
      obtain ⟨first, more, rfl⟩ :=
        List.exists_cons_of_ne_nil (packed.tail.ne_nil next List.mem_cons_self)
      have full : width ≤ (joinWords (word :: behind)).length + first.length :=
        (List.isChain_cons_cons.mp packed.le_length).1 first rfl
      rw [packed.fill_head, List.flatten_cons, List.cons_append, fill_cons,
        if_neg (by omega), hypothesis packed.tail]
      simp

/-- The lines of a text in a column are its words, packed. -/
theorem exists_packed_columnize
    {width : Nat}
    (wide : 1 < width)
    (text : Text) :
    ∃ groups, Packed width groups ∧ groups.flatten = words text ∧
      columnize text width = groups.map joinWords := by
  cases split : words text with
  | nil => exact ⟨[], Packed.nil width, rfl, columnize_of_words_nil split width⟩
  | cons word rest =>
      obtain ⟨behind, others, filled, whole, packed⟩ :=
        @exists_packed_fill width [word] (List.cons_ne_nil word []) (by simp) rest
      refine ⟨([word] ++ behind) :: others, packed, ?_, ?_⟩
      · rw [List.flatten_cons, List.append_assoc, whole, List.singleton_append]
      · rw [columnize_of_words_cons wide split, ← filled, joinWords_singleton]

/-- However the words of a text are packed, the lines are those of its column. -/
theorem Packed.map_joinWords_eq
    {width : Nat}
    {text : Text}
    {groups : List (List Text)}
    (packed : Packed width groups)
    (wide : 1 < width)
    (whole : groups.flatten = words text) :
    groups.map joinWords = columnize text width := by
  cases groups with
  | nil =>
      rw [columnize_of_words_nil whole.symm]
      rfl
  | cons group others =>
      obtain ⟨word, behind, rfl⟩ :=
        List.exists_cons_of_ne_nil (packed.ne_nil group List.mem_cons_self)
      rw [List.flatten_cons, List.cons_append] at whole
      rw [columnize_of_words_cons wide whole.symm, packed.fill_eq]

/-! ## Filled columns -/

/-- The lines of a text in a column: words with one blank between neighbours, which are all words of
the text in their order. A line of several words is not wider than the column, and with the first
word of the next line, the joining blank not counted, it would fill it. -/
structure Fills (width : Nat) (text : Text) (lines : List Text) : Prop where
  wordRuns_ne_nil : ∀ line ∈ lines, wordRuns line ≠ []
  joinWords_wordRuns : ∀ line ∈ lines, joinWords (wordRuns line) = line
  flatMap_wordRuns : lines.flatMap wordRuns = wordRuns text
  length_le : ∀ line ∈ lines, 1 < (wordRuns line).length → line.length ≤ width
  le_length : lines.IsChain fun line next =>
    ∀ word ∈ (wordRuns next).head?, width ≤ line.length + word.length

/-- Packed words, set side by side, are the lines of a filled column. -/
theorem Packed.fills
    {width : Nat}
    {text : Text}
    {groups : List (List Text)}
    (packed : Packed width groups)
    (whole : groups.flatten = words text) :
    Fills width text (groups.map joinWords) := by
  have readBack : ∀ group ∈ groups, wordRuns (joinWords group) = group := by
    intro group member
    rw [← words_eq_wordRuns]
    apply words_joinWords
    intro word present
    have inText : word ∈ words text := whole ▸ List.mem_flatten_of_mem member present
    exact isWord_of_mem_words inText
  constructor
  · refine List.forall_mem_map.mpr fun group member => ?_
    rw [readBack group member]
    exact packed.ne_nil group member
  · refine List.forall_mem_map.mpr fun group member => ?_
    rw [readBack group member]
  · rw [List.flatMap_map, ← words_eq_wordRuns, ← whole, ← List.flatMap_id']
    exact List.flatMap_congr readBack
  · refine List.forall_mem_map.mpr fun group member several => ?_
    rw [readBack group member] at several
    exact packed.length_le group member several
  · refine (List.isChain_map joinWords).mpr (packed.le_length.imp_of_mem_imp ?_)
    intro group next _ member full
    rwa [readBack next member]

/-- The lines of a filled column, each taken for its words, are packed. -/
theorem Fills.packed
    {width : Nat}
    {text : Text}
    {lines : List Text}
    (fills : Fills width text lines) :
    Packed width (lines.map wordRuns) where
  ne_nil := List.forall_mem_map.mpr fills.wordRuns_ne_nil
  length_le := by
    refine List.forall_mem_map.mpr fun line member several => ?_
    rw [fills.joinWords_wordRuns line member]
    exact fills.length_le line member several
  le_length := by
    refine (List.isChain_map wordRuns).mpr (fills.le_length.imp_of_mem_imp ?_)
    intro line next member _ full
    rwa [fills.joinWords_wordRuns line member]

/-- The lines of a text in a column are the only ones that fill it. -/
theorem fills_iff
    {width : Nat}
    (wide : 1 < width)
    (text : Text)
    (lines : List Text) :
    Fills width text lines ↔ lines = columnize text width := by
  constructor
  · intro fills
    have whole : (lines.map wordRuns).flatten = words text := by
      rw [words_eq_wordRuns, ← fills.flatMap_wordRuns, List.flatMap_def]
    have readBack : (lines.map wordRuns).map joinWords = lines := by
      rw [List.map_map]
      exact (List.map_congr_left fills.joinWords_wordRuns).trans (List.map_id lines)
    rw [← fills.packed.map_joinWords_eq wide whole, readBack]
  · rintro rfl
    obtain ⟨groups, packed, whole, filled⟩ := exists_packed_columnize wide text
    rw [filled]
    exact packed.fills whole

/-- A text of any width at all is laid out: a column of width one or none holds no line, and in any
wider one there is one and only one list of lines that fills it, the given one. -/
theorem columnize_fills (text : Text) (width : Int) :
    Value.columnize (.str text) (.int width) =
        .ok ((columnize text width.toNat).map Value.str) ∧
      if width ≤ 1 then columnize text width.toNat = []
      else ∀ lines, Fills width.toNat text lines ↔ lines = columnize text width.toNat := by
  have written : Value.columnWidth (.str text) (.int width) = .ok width.toNat := rfl
  by_cases narrow : width ≤ 1
  · have narrowColumn : width.toNat ≤ 1 := by omega
    have empty : columnize text width.toNat = [] := columnize_of_le_one narrowColumn text
    refine ⟨?_, ?_⟩
    · simp [Value.columnize, written, bind, Except.bind, pure, Except.pure, narrowColumn, empty]
    · rw [if_pos narrow]
      exact empty
  · have wide : 1 < width.toNat := by omega
    refine ⟨?_, ?_⟩
    · simp [Value.columnize, written, bind, Except.bind, Nat.not_le.mpr wide]
    · rw [if_neg narrow]
      intro lines
      exact fills_iff wide text lines

/-- A line can be as wide as its column, since the joining blank is not counted. -/
example : columnize ['a', 'b', ' ', 'c', ' ', 'd'] 4 = [['a', 'b', ' ', 'c'], ['d']] := by decide

end Handbook.Text
