import Handbook.Proofs.Similarity.Blocks
import Handbook.Proofs.Text.Sorting
import Mathlib.Algebra.Order.Field.Rat
import Mathlib.Tactic.NormNum

/-!
# The closest symbol

The characters in common blocks are those of the longest block of a text and a word
and those in common blocks on either side of it; twice their number over the number
of all characters is how similar the two are. The closest symbol is the most similar
one that is similar enough, and of several as similar the last one in the order of
texts, whatever the order in which the symbols are gone through.
-/

namespace Handbook.Similarity

variable {excluded first : Text} {second word : Word} {symbol other : Text}

/-! ## Characters in common blocks -/

/-- The number of characters in common blocks: none if the longest block is empty, and else those
of the longest block and those in common blocks before and behind it. -/
inductive IsMatching (excluded : Text) : Text → Word → Nat → Prop
  | apart
      {first : Text}
      {second : Word}
      {block : Block}
      (longest : IsLongestBlock excluded first second block)
      (empty : block.size = 0) :
      IsMatching excluded first second 0
  | around
      {first : Text}
      {second : Word}
      {block : Block}
      {before after : Nat}
      (longest : IsLongestBlock excluded first second block)
      (nonempty : 0 < block.size)
      (left : IsMatching excluded (first.take block.first) (second.take block.second) before)
      (right : IsMatching excluded (first.drop (block.first + block.size))
        (second.drop (block.second + block.size)) after) :
      IsMatching excluded first second (before + block.size + after)

/-- The longest block, if it is not empty, lies inside the text. -/
theorem IsLongestBlock.le_length
    {block : Block}
    (longest : IsLongestBlock excluded first second block)
    (nonempty : 0 < block.size) :
    block.first + block.size ≤ first.length := by
  obtain ⟨_, _, extended⟩ := longest
  exact (extended.common.le_length nonempty).1

theorem matching_of_empty
    {block : Block}
    (longest : IsLongestBlock excluded first second block)
    (empty : block.size = 0) :
    matching excluded first second = 0 := by
  obtain rfl := longest.eq (isLongestBlock_longestBlock excluded first second)
  rw [matching]
  exact dif_neg fun inside => Nat.ne_of_gt inside.1 empty

theorem matching_of_nonempty
    {block : Block}
    (longest : IsLongestBlock excluded first second block)
    (nonempty : 0 < block.size) :
    matching excluded first second =
      matching excluded (first.take block.first) (second.take block.second) + block.size +
        matching excluded (first.drop (block.first + block.size))
          (second.drop (block.second + block.size)) := by
  have inside := longest.le_length nonempty
  obtain rfl := longest.eq (isLongestBlock_longestBlock excluded first second)
  rw [matching]
  exact dif_pos ⟨nonempty, inside⟩

/-- The number of characters in common blocks is what it is counted to be. -/
theorem isMatching_matching (excluded first : Text) (second : Word) :
    IsMatching excluded first second (matching excluded first second) := by
  have longest := isLongestBlock_longestBlock excluded first second
  rcases Nat.eq_zero_or_pos (longestBlock excluded first second).size with empty | nonempty
  · rw [matching_of_empty longest empty]
    exact .apart longest empty
  · have inside := longest.le_length nonempty
    rw [matching_of_nonempty longest nonempty]
    exact .around longest nonempty (isMatching_matching _ _ _) (isMatching_matching _ _ _)
termination_by first.length
decreasing_by
  · simp only [List.length_take]
    omega
  · simp only [List.length_drop]
    omega

/-- A text and a word have one number of characters in common blocks. -/
theorem IsMatching.eq_matching
    {count : Nat}
    (isMatching : IsMatching excluded first second count) :
    count = matching excluded first second := by
  induction isMatching with
  | apart longest empty => exact (matching_of_empty longest empty).symm
  | around longest nonempty left right before_eq after_eq =>
      rw [matching_of_nonempty longest nonempty, ← before_eq, ← after_eq]

/-! ## Similarity -/

/-- A ratio as a number. -/
def Ratio.value (ratio : Ratio) : ℚ :=
  ratio.numerator / ratio.denominator

/-- The similarity of a symbol and a word as a number. -/
def similarity (symbol : Text) (word : Word) : ℚ :=
  (ratio symbol word).value

/-- What the similarity of a symbol and a word is: twice the number of characters in common blocks,
which frequent characters of the word do not start, over the number of all characters; and one if
there are none. -/
def IsSimilarity (symbol : Text) (word : Word) (share : ℚ) : Prop :=
  ∃ count, IsMatching (frequent word) symbol word count ∧
    share =
      if symbol.length + word.length = 0 then 1
      else 2 * count / ((symbol.length + word.length : Nat) : ℚ)

theorem similarity_eq (symbol : Text) (word : Word) :
    similarity symbol word =
      if symbol.length + word.length = 0 then 1
      else
        2 * matching (frequent word) symbol word / ((symbol.length + word.length : Nat) : ℚ) := by
  unfold similarity ratio
  dsimp only
  split <;> simp [Ratio.value]

/-- A symbol and a word have one similarity. -/
theorem isSimilarity_iff {share : ℚ} :
    IsSimilarity symbol word share ↔ share = similarity symbol word := by
  rw [similarity_eq]
  constructor
  · rintro ⟨count, isMatching, rfl⟩
    rw [isMatching.eq_matching]
  · intro same
    exact ⟨_, isMatching_matching _ _ _, same⟩

theorem denominator_ratio_pos (symbol : Text) (word : Word) :
    0 < (ratio symbol word).denominator := by
  unfold ratio
  dsimp only
  split
  · exact Nat.one_pos
  · next nonempty => exact Nat.pos_of_ne_zero nonempty

/-- Ratios are ordered as numbers. -/
theorem Ratio.isLess_iff
    {left right : Ratio}
    (leftPositive : 0 < left.denominator)
    (rightPositive : 0 < right.denominator) :
    left.isLess right = true ↔ left.value < right.value := by
  have leftCast : (0 : ℚ) < left.denominator := Nat.cast_pos.mpr leftPositive
  have rightCast : (0 : ℚ) < right.denominator := Nat.cast_pos.mpr rightPositive
  rw [value, value, div_lt_div_iff₀ leftCast rightCast, isLess, decide_eq_true_eq]
  exact_mod_cast Iff.rfl

/-- A symbol is close to a word when they are similar by three fifths at least. -/
theorem isClose_iff : isClose symbol word = true ↔ 3 / 5 ≤ similarity symbol word := by
  have thresholdValue : threshold.value = 3 / 5 := by norm_num [threshold, Ratio.value]
  have below := Ratio.isLess_iff (denominator_ratio_pos symbol word)
    (show 0 < threshold.denominator by decide)
  rw [thresholdValue] at below
  rw [isClose, Bool.not_eq_true', ← Bool.not_eq_true, below, not_lt]
  rfl

/-- A symbol comes before another one for a word: the pair of its similarity and itself is the
smaller of the two pairs. -/
def Precedes (word : Word) (symbol other : Text) : Prop :=
  similarity symbol word < similarity other word ∨
    similarity symbol word = similarity other word ∧ symbol < other

theorem Precedes.trans
    {third : Text}
    (front : Precedes word symbol other)
    (back : Precedes word other third) :
    Precedes word symbol third := by
  unfold Precedes at *
  rcases front with less | ⟨same, earlier⟩
  · rcases back with less' | ⟨same', _⟩
    · exact .inl (less.trans less')
    · exact .inl (same' ▸ less)
  · rcases back with less' | ⟨same', earlier'⟩
    · exact .inl (same ▸ less')
    · exact .inr ⟨same.trans same', List.lt_trans earlier earlier'⟩

theorem Precedes.irrefl (symbol : Text) : ¬ Precedes word symbol symbol := by
  rintro (less | ⟨_, earlier⟩)
  · exact lt_irrefl _ less
  · exact List.lt_irrefl _ earlier

/-- Of two different symbols one comes before the other. -/
theorem Precedes.total (different : symbol ≠ other) :
    Precedes word symbol other ∨ Precedes word other symbol := by
  rcases lt_trichotomy (similarity symbol word) (similarity other word) with less | same | more
  · exact .inl (.inl less)
  · by_cases earlier : symbol < other
    · exact .inl (.inr ⟨same, earlier⟩)
    · refine .inr (.inr ⟨same.symm, ?_⟩)
      by_contra notLater
      exact different (Text.eq_of_not_lt notLater earlier)
  · exact .inr (.inl more)

theorem isWorse_iff : isWorse word symbol other = true ↔ Precedes word symbol other := by
  have less := Ratio.isLess_iff (denominator_ratio_pos symbol word)
    (denominator_ratio_pos other word)
  have more := Ratio.isLess_iff (denominator_ratio_pos other word)
    (denominator_ratio_pos symbol word)
  unfold isWorse
  dsimp only
  rw [Bool.or_eq_true, Bool.and_eq_true, Bool.not_eq_true', ← Bool.not_eq_true, less, more,
    decide_eq_true_eq, not_lt]
  change similarity symbol word < similarity other word ∨
    similarity symbol word ≤ similarity other word ∧ symbol < other ↔ _
  constructor
  · rintro (isLess | ⟨notMore, earlier⟩)
    · exact .inl isLess
    · exact notMore.lt_or_eq.imp_right fun same => ⟨same, earlier⟩
  · exact Or.imp_right fun ⟨same, earlier⟩ => ⟨same.le, earlier⟩

/-! ## Choosing a symbol -/

/-- The symbol to be suggested among several: it is close to the word, and all others come before
it. -/
structure IsClosest (word : Word) (symbols : List Text) (symbol : Text) : Prop where
  mem : symbol ∈ symbols
  close : 3 / 5 ≤ similarity symbol word
  greatest : ∀ other ∈ symbols, other ≠ symbol → Precedes word other symbol

/-- What is suggested after some symbols have been gone through. -/
def IsAnswer (word : Word) (symbols : List Text) : Option Text → Prop
  | none => ∀ symbol ∈ symbols, similarity symbol word < 3 / 5
  | some symbol => IsClosest word symbols symbol

theorem IsClosest.eq
    {symbols others : List Text}
    (closest : IsClosest word symbols symbol)
    (otherClosest : IsClosest word others other)
    (same : ∀ text, text ∈ symbols ↔ text ∈ others) :
    symbol = other := by
  by_contra different
  have front := otherClosest.greatest symbol ((same symbol).mp closest.mem) different
  have back := closest.greatest other ((same other).mpr otherClosest.mem) (Ne.symm different)
  exact Precedes.irrefl symbol (front.trans back)

/-- The suggestion after one more symbol is the better one of the suggestion before and the
symbol. -/
theorem IsAnswer.better
    {symbols : List Text}
    {answer : Option Text}
    (isAnswer : IsAnswer word symbols answer)
    (symbol : Text) :
    IsAnswer word (symbols ++ [symbol]) (better word answer symbol) := by
  cases answer with
  | none =>
      by_cases close : isClose symbol word = true
      · rw [Similarity.better, if_pos close]
        rw [isClose_iff] at close
        refine ⟨by simp, close, fun other member different => ?_⟩
        rcases List.mem_append.mp member with before | here
        · exact .inl ((isAnswer other before).trans_le close)
        · exact absurd (List.mem_singleton.mp here) different
      · rw [Similarity.better, if_neg close]
        rw [isClose_iff, not_le] at close
        intro other member
        rcases List.mem_append.mp member with before | here
        · exact isAnswer other before
        · exact List.mem_singleton.mp here ▸ close
  | some best =>
      by_cases replaced : isClose symbol word = true ∧ Precedes word best symbol
      · have chosen : (isClose symbol word && isWorse word best symbol) = true := by
          rw [Bool.and_eq_true, isWorse_iff]
          exact replaced
        rw [Similarity.better, if_pos chosen]
        refine ⟨by simp, isClose_iff.mp replaced.1, fun other member different => ?_⟩
        rcases List.mem_append.mp member with before | here
        · by_cases isBest : other = best
          · exact isBest ▸ replaced.2
          · exact (isAnswer.greatest other before isBest).trans replaced.2
        · exact absurd (List.mem_singleton.mp here) different
      · have kept : ¬ (isClose symbol word && isWorse word best symbol) = true := by
          rw [Bool.and_eq_true, isWorse_iff]
          exact replaced
        rw [Similarity.better, if_neg kept]
        refine ⟨List.mem_append_left _ isAnswer.mem, isAnswer.close, ?_⟩
        intro other member different
        rcases List.mem_append.mp member with before | here
        · exact isAnswer.greatest other before different
        · rw [List.mem_singleton.mp here] at different ⊢
          by_cases close : isClose symbol word = true
          · exact (Precedes.total different).resolve_right fun later => replaced ⟨close, later⟩
          · rw [isClose_iff, not_le] at close
            exact .inl (close.trans_le isAnswer.close)

/-- Going through all symbols gives the closest one, or none if none is close. -/
theorem isAnswer_closest? (symbols : List Text) (word : Word) :
    IsAnswer word symbols (closest? symbols word) := by
  have general : ∀ (rest seen : List Text) (answer : Option Text),
      IsAnswer word seen answer →
        IsAnswer word (seen ++ rest) (rest.foldl (better word) answer) := by
    intro rest
    induction rest with
    | nil =>
        intro seen answer isAnswer
        simpa using isAnswer
    | cons symbol rest hypothesis =>
        intro seen answer isAnswer
        have moved := hypothesis (seen ++ [symbol]) _ (isAnswer.better symbol)
        rwa [List.append_assoc, List.singleton_append] at moved
  exact general symbols [] none fun symbol member => absurd member List.not_mem_nil

theorem closest?_eq_none_iff {symbols : List Text} :
    closest? symbols word = none ↔ ∀ symbol ∈ symbols, similarity symbol word < 3 / 5 := by
  have isAnswer := isAnswer_closest? symbols word
  cases found : closest? symbols word with
  | none =>
      rw [found] at isAnswer
      exact ⟨fun _ => isAnswer, fun _ => rfl⟩
  | some symbol =>
      rw [found] at isAnswer
      refine ⟨fun absent => absurd absent (Option.some_ne_none _), fun apart => ?_⟩
      exact absurd (apart symbol isAnswer.mem) (not_lt.mpr isAnswer.close)

theorem isClosest_of_closest? {symbols : List Text} (found : closest? symbols word = some symbol) :
    IsClosest word symbols symbol := by
  have isAnswer := isAnswer_closest? symbols word
  rwa [found] at isAnswer

/-- The closest symbol depends on which symbols there are, and on nothing else. -/
theorem closest?_congr
    {symbols others : List Text}
    (same : ∀ text, text ∈ symbols ↔ text ∈ others) :
    closest? symbols word = closest? others word := by
  cases found : closest? others word with
  | none =>
      rw [closest?_eq_none_iff] at found ⊢
      exact fun symbol member => found symbol ((same symbol).mp member)
  | some other =>
      have otherClosest := isClosest_of_closest? found
      cases answer : closest? symbols word with
      | none =>
          rw [closest?_eq_none_iff] at answer
          have apart := answer other ((same other).mpr otherClosest.mem)
          exact absurd apart (not_lt.mpr otherClosest.close)
      | some symbol => rw [(isClosest_of_closest? answer).eq otherClosest same]

end Handbook.Similarity
