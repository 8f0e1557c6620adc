import Handbook.Proofs.Text.Blank
import Handbook.Text.Column
import Mathlib.Data.List.SplitBy

/-!
# Words

The words of a text are its maximal runs of characters other than the blank.
They are read back from a line on which they stand with one blank between
neighbours, so that a line made of words and the list of its words determine
each other.
-/

namespace Handbook.Text

/-- A run of at least one character, none of them the blank. -/
def IsWord (word : Text) : Prop :=
  word ≠ [] ∧ ' ' ∉ word

/-! ## Words and blanks -/

/-- A blank at the front of a text belongs to no word. -/
@[simp] theorem words_cons_blank (text : Text) : words (' ' :: text) = words text :=
  words_append_blank [] text

/-- Blanks at the front of a text belong to no word. -/
theorem words_append_of_blanks
    {blanks : Text}
    (allBlank : ∀ character ∈ blanks, character = ' ')
    (text : Text) :
    words (blanks ++ text) = words text := by
  induction blanks with
  | nil => rfl
  | cons first rest hypothesis =>
      obtain ⟨blank, restBlank⟩ := List.forall_mem_cons.mp allBlank
      subst blank
      rw [List.cons_append, words_cons_blank, hypothesis restBlank]

theorem pieces_of_not_mem
    {separator : Char}
    {text : Text}
    (absent : separator ∉ text) :
    pieces separator text = [text] := by
  induction text with
  | nil => rfl
  | cons first rest hypothesis =>
      obtain ⟨different, restAbsent⟩ := List.ne_and_not_mem_of_not_mem_cons absent
      rw [pieces, if_neg (Ne.symm different), hypothesis restAbsent]

/-- A text without blanks is one word. -/
theorem IsWord.words_eq {word : Text} (isWord : IsWord word) : words word = [word] := by
  obtain ⟨nonempty, unbroken⟩ := isWord
  rw [words, pieces_of_not_mem unbroken]
  simp [nonempty]

theorem not_mem_of_mem_pieces
    {separator : Char}
    {text piece : Text}
    (member : piece ∈ pieces separator text) :
    separator ∉ piece := by
  induction text generalizing piece with
  | nil =>
      rw [pieces_nil, List.mem_singleton] at member
      simp [member]
  | cons first rest hypothesis =>
      unfold pieces at member
      split at member
      · rcases List.mem_cons.mp member with rfl | behind
        · exact List.not_mem_nil
        · exact hypothesis behind
      · next different =>
          split at member
          · next empty => exact absurd empty (pieces_ne_nil separator rest)
          · next next others split =>
              rcases List.mem_cons.mp member with rfl | behind
              · refine List.not_mem_cons_of_ne_of_not_mem (Ne.symm different) (hypothesis ?_)
                rw [split]
                exact List.mem_cons_self
              · refine hypothesis ?_
                rw [split]
                exact List.mem_cons_of_mem next behind

theorem isWord_of_mem_words
    {word text : Text}
    (member : word ∈ words text) :
    IsWord word :=
  ⟨ne_nil_of_mem_words member, not_mem_of_mem_pieces (List.mem_filter.mp member).1⟩

/-! ## Maximal runs -/

/-- Whether two characters are both the blank, or neither is. -/
def alike (first second : Char) : Bool :=
  (first == ' ') == (second == ' ')

/-- The maximal runs of characters other than the blank: the text is cut wherever a blank and
another character meet, and the runs of blanks are left out. -/
def wordRuns (text : Text) : List Text :=
  (text.splitBy alike).filter fun run => ' ' ∉ run

/-- In a run either all characters are blanks or none is. -/
theorem blanks_or_not_mem_of_isChain
    {run : Text}
    (uniform : run.IsChain fun first second => alike first second = true) :
    (∀ character ∈ run, character = ' ') ∨ ' ' ∉ run := by
  induction run with
  | nil => exact Or.inr List.not_mem_nil
  | cons first rest hypothesis =>
      cases rest with
      | nil =>
          by_cases blank : first = ' '
          · exact Or.inl (by simpa using blank)
          · exact Or.inr (by simpa using Ne.symm blank)
      | cons second others =>
          obtain ⟨same, restUniform⟩ := List.isChain_cons_cons.mp uniform
          rcases hypothesis restUniform with allBlank | unbroken
          · have blank : second = ' ' := allBlank second List.mem_cons_self
            refine Or.inl (List.forall_mem_cons.mpr ⟨?_, allBlank⟩)
            simpa [alike, blank] using same
          · have notBlank : second ≠ ' ' := fun blank => unbroken (by simp [blank])
            refine Or.inr (List.not_mem_cons_of_ne_of_not_mem ?_ unbroken)
            intro blank
            subst blank
            simp [alike, notBlank] at same

/-- The words of a text that is cut into uniform runs, two neighbours never of one kind, are the
runs without blanks. -/
theorem words_flatten_of_runs
    {runs : List Text}
    (nonempty : [] ∉ runs)
    (uniform : ∀ run ∈ runs, (∀ character ∈ run, character = ' ') ∨ ' ' ∉ run)
    (alternating : runs.IsChain fun run next => ' ' ∉ run → next.head? = some ' ') :
    words runs.flatten = runs.filter fun run => ' ' ∉ run := by
  induction runs with
  | nil => rfl
  | cons run rest hypothesis =>
      obtain ⟨runNonempty, restNonempty⟩ := List.ne_and_not_mem_of_not_mem_cons nonempty
      obtain ⟨runUniform, restUniform⟩ := List.forall_mem_cons.mp uniform
      obtain ⟨next, restAlternating⟩ := List.isChain_cons.mp alternating
      have following := hypothesis restNonempty restUniform restAlternating
      rw [List.flatten_cons]
      rcases runUniform with allBlank | unbroken
      · have broken : ' ' ∈ run := by
          obtain ⟨first, others, rfl⟩ := List.exists_cons_of_ne_nil (Ne.symm runNonempty)
          simp [allBlank first List.mem_cons_self]
        rw [words_append_of_blanks allBlank, following]
        simp [broken]
      · have isWord : IsWord run := ⟨Ne.symm runNonempty, unbroken⟩
        rw [List.filter_cons_of_pos (by simpa using unbroken), ← following]
        cases rest with
        | nil => simp [isWord.words_eq]
        | cons second others =>
            obtain ⟨behind, rfl⟩ : ∃ behind, second = ' ' :: behind :=
              List.head?_eq_some_iff.mp (next second rfl unbroken)
            rw [List.flatten_cons, List.cons_append, words_append_blank, words_cons_blank,
              isWord.words_eq, List.singleton_append]

/-- The words of a text are its maximal runs of characters other than the blank. -/
theorem words_eq_wordRuns (text : Text) : words text = wordRuns text := by
  obtain ⟨whole, nonempty, uniform, alternating⟩ :=
    (List.splitBy_eq_iff (m := text) (r := alike)).mp rfl
  have runsUniform : ∀ run ∈ text.splitBy alike,
      (∀ character ∈ run, character = ' ') ∨ ' ' ∉ run := by
    intro run member
    exact blanks_or_not_mem_of_isChain (uniform run member)
  have runsAlternating :
      (text.splitBy alike).IsChain fun run next => ' ' ∉ run → next.head? = some ' ' := by
    refine alternating.imp ?_
    rintro run next ⟨runNonempty, nextNonempty, different⟩ unbroken
    have notBlank : run.getLast runNonempty ≠ ' ' := by
      intro blank
      exact unbroken (blank ▸ List.getLast_mem runNonempty)
    have blank : next.head nextNonempty = ' ' := by
      simpa [alike, notBlank] using different
    rw [← blank]
    exact List.head?_eq_some_head nextNonempty
  have runs := words_flatten_of_runs nonempty runsUniform runsAlternating
  rwa [← whole] at runs

/-! ## Words on a line -/

theorem joinWords_append
    {first second : List Text}
    (firstNonempty : first ≠ [])
    (secondNonempty : second ≠ []) :
    joinWords (first ++ second) = joinWords first ++ ' ' :: joinWords second := by
  induction first with
  | nil => exact absurd rfl firstNonempty
  | cons word rest hypothesis =>
      cases rest with
      | nil =>
          obtain ⟨next, others, rfl⟩ := List.exists_cons_of_ne_nil secondNonempty
          rw [List.singleton_append, joinWords_cons_cons, joinWords_singleton]
      | cons next others =>
          rw [List.cons_append, List.cons_append, joinWords_cons_cons, ← List.cons_append,
            hypothesis (by simp), joinWords_cons_cons]
          simp

/-- The words of a line are the words that were set side by side on it. -/
theorem words_joinWords
    {line : List Text}
    (areWords : ∀ word ∈ line, IsWord word) :
    words (joinWords line) = line := by
  induction line with
  | nil => rfl
  | cons word rest hypothesis =>
      obtain ⟨isWord, restWords⟩ := List.forall_mem_cons.mp areWords
      cases rest with
      | nil => rw [joinWords_singleton, isWord.words_eq]
      | cons next others =>
          rw [joinWords_cons_cons, words_append_blank, isWord.words_eq, hypothesis restWords,
            List.singleton_append]

/-! ## Texts on a line -/

/-- Texts with a blank in front of each are the line of them behind a blank. -/
theorem flatMap_blank_eq {texts : List Text} (nonempty : texts ≠ []) :
    (texts.flatMap fun text => ' ' :: text) = ' ' :: joinWords texts := by
  induction texts with
  | nil => exact absurd rfl nonempty
  | cons text rest hypothesis =>
      rw [List.flatMap_cons]
      cases rest with
      | nil => simp
      | cons next others =>
          rw [hypothesis (List.cons_ne_nil next others), joinWords_cons_cons, List.cons_append]

/-- A line has no blanks at its ends if the texts on it have none. -/
theorem solid_joinWords
    {texts : List Text}
    (nonempty : texts ≠ [])
    (solid : ∀ text ∈ texts, Solid text) :
    Solid (joinWords texts) := by
  induction texts with
  | nil => exact absurd rfl nonempty
  | cons text rest hypothesis =>
      obtain ⟨first, restSolid⟩ := List.forall_mem_cons.mp solid
      cases rest with
      | nil => rwa [joinWords_singleton]
      | cons next others =>
          obtain ⟨_, opens, openingSolid⟩ := first.opens
          obtain ⟨_, closes, closingSolid⟩ :=
            (hypothesis (List.cons_ne_nil next others) restSolid).closes
          have whole := solid_append opens closes openingSolid closingSolid [' ']
          rwa [joinWords_cons_cons, List.append_cons]

/-- Of a blank in front of a line nothing else is trimmed. -/
theorem trim_flatMap_blank {texts : List Text} (solid : ∀ text ∈ texts, Solid text) :
    trim (texts.flatMap fun text => ' ' :: text) = joinWords texts := by
  by_cases empty : texts = []
  · rw [empty]
    rfl
  · rw [flatMap_blank_eq empty, trim_cons_blank, (solid_joinWords empty solid).trim_eq]

end Handbook.Text
