import Handbook.Similarity
import Mathlib.Data.List.Basic
import Mathlib.Order.Basic

/-!
# Common blocks

A block is common to a text and a word when they have the same characters in it,
place by place. Among the blocks without a frequent character the search finds the
longest one, and of several that are as long the earliest in the text, then in the
word. The block is then extended as far as characters agree on either side. Both
descriptions leave no choice, so a text and a word have one longest block.
-/

namespace Handbook.Similarity

variable {excluded first : Text} {second : Word} {block other inner outer : Block}

/-! ## Agreement -/

/-- A text and a word have the same character, each at a place of its own. -/
def Agree (first : Text) (second : Word) (place place' : Nat) : Prop :=
  ∃ character, first[place]? = some character ∧ second[place']? = some (some character)

/-- A text and a word have the same character, one that is not excluded. -/
def AgreePlainly (excluded first : Text) (second : Word) (place place' : Nat) : Prop :=
  ∃ character, first[place]? = some character ∧ second[place']? = some (some character) ∧
    character ∉ excluded

/-- A block in which a text and a word have the same characters. -/
def IsCommon (first : Text) (second : Word) (block : Block) : Prop :=
  ∀ offset < block.size, Agree first second (block.first + offset) (block.second + offset)

/-- A common block without excluded characters. -/
def IsPlain (excluded first : Text) (second : Word) (block : Block) : Prop :=
  ∀ offset < block.size,
    AgreePlainly excluded first second (block.first + offset) (block.second + offset)

theorem Agree.lt_length {place place' : Nat} (agree : Agree first second place place') :
    place < first.length ∧ place' < second.length := by
  obtain ⟨_, here, there⟩ := agree
  exact ⟨(List.getElem?_eq_some_iff.mp here).1, (List.getElem?_eq_some_iff.mp there).1⟩

theorem IsPlain.isCommon (plain : IsPlain excluded first second block) :
    IsCommon first second block := by
  intro offset inside
  obtain ⟨character, here, there, _⟩ := plain offset inside
  exact ⟨character, here, there⟩

/-- A common block that holds a character lies inside the text and the word. -/
theorem IsCommon.le_length
    (common : IsCommon first second block)
    (nonempty : 0 < block.size) :
    block.first + block.size ≤ first.length ∧ block.second + block.size ≤ second.length := by
  have last := (common (block.size - 1) (by omega)).lt_length
  omega

theorem isPlain_zero (place place' : Nat) :
    IsPlain excluded first second ⟨place, place', 0⟩ :=
  fun _ inside => absurd inside (Nat.not_lt_zero _)

theorem isPlain_succ (place place' size : Nat) :
    IsPlain excluded first second ⟨place, place', size + 1⟩ ↔
      IsPlain excluded first second ⟨place, place', size⟩ ∧
        AgreePlainly excluded first second (place + size) (place' + size) :=
  Nat.forall_lt_succ_right

/-! ## The longest plain block -/

/-- A block is preferred to another: it is longer, or as long and not later in the text, or there
as early and not later in the word. -/
def Leads (block other : Block) : Prop :=
  other.size < block.size ∨
    other.size = block.size ∧
      (block.first < other.first ∨ block.first = other.first ∧ block.second ≤ other.second)

/-- The plain block that is preferred to all others. -/
structure IsLongest (excluded first : Text) (second : Word) (block : Block) : Prop where
  plain : IsPlain excluded first second block
  leads : ∀ other, IsPlain excluded first second other → Leads block other

theorem Leads.antisymm (forth : Leads block other) (back : Leads other block) : block = other := by
  cases block
  cases other
  simp only [Leads, Block.mk.injEq] at *
  omega

/-- There is one longest plain block at most. -/
theorem IsLongest.eq
    (longest : IsLongest excluded first second block)
    (otherLongest : IsLongest excluded first second other) :
    block = other :=
  (longest.leads other otherLongest.plain).antisymm (otherLongest.leads block longest.plain)

/-- The length of the longest plain block that ends in front of two places: the blocks that end
there are plain if they are no longer. -/
structure IsLengthTo
    (excluded first : Text)
    (second : Word)
    (place place' length : Nat) : Prop where
  le_place : length ≤ place
  le_place' : length ≤ place'
  isPlain_iff : ∀ block : Block,
    block.first + block.size = place → block.second + block.size = place' →
      (IsPlain excluded first second block ↔ block.size ≤ length)

theorem isLengthTo_zero (place : Nat) : IsLengthTo excluded first second place 0 0 where
  le_place := Nat.zero_le _
  le_place' := Nat.le_refl _
  isPlain_iff := by
    rintro ⟨start, start', size⟩ _ ends
    obtain rfl : size = 0 := by dsimp only at ends; omega
    simp [isPlain_zero]

/-- One character further, the longest block is one longer where the characters agree, and empty
where they do not. -/
theorem IsLengthTo.succ
    {place place' length : Nat}
    {agrees : Bool}
    (reached : IsLengthTo excluded first second place place' length)
    (agrees_iff : agrees = true ↔ AgreePlainly excluded first second place place') :
    IsLengthTo excluded first second (place + 1) (place' + 1)
      (if agrees then length + 1 else 0) where
  le_place := by
    have := reached.le_place
    split <;> omega
  le_place' := by
    have := reached.le_place'
    split <;> omega
  isPlain_iff := by
    rintro ⟨start, start', size⟩ ends ends'
    cases size with
    | zero => simp [isPlain_zero]
    | succ size =>
        have here : start + size = place := by dsimp only at ends; omega
        have there : start' + size = place' := by dsimp only at ends'; omega
        rw [isPlain_succ, reached.isPlain_iff ⟨start, start', size⟩ here there, here, there,
          ← agrees_iff]
        cases agrees <;> simp

/-- A row of the search: the lengths to all places of the word. -/
def IsRowTo (excluded first : Text) (second : Word) (place : Nat) (row : List Nat) : Prop :=
  row.length = second.length ∧
    ∀ index length, row[index]? = some length →
      IsLengthTo excluded first second place (index + 1) length

theorem isRowTo_zero :
    IsRowTo excluded first second 0 (List.replicate second.length 0) := by
  refine ⟨List.length_replicate, fun index length found => ?_⟩
  obtain ⟨_, rfl⟩ := List.mem_replicate.mp (List.mem_of_getElem? found)
  refine ⟨Nat.le_refl _, Nat.zero_le _, ?_⟩
  rintro ⟨start, start', size⟩ ends _
  obtain rfl : size = 0 := by dsimp only at ends; omega
  simp [isPlain_zero]

/-- The next row belongs to the next place. -/
theorem IsRowTo.next
    {place : Nat}
    {row : List Nat}
    {character : Char}
    (isRow : IsRowTo excluded first second place row)
    (here : first[place]? = some character) :
    IsRowTo excluded first second (place + 1) (nextRow excluded character second row) := by
  obtain ⟨length_eq, lengths⟩ := isRow
  refine ⟨by simp [nextRow, length_eq], fun index length found => ?_⟩
  obtain ⟨letter, before, there, known, rfl⟩ := List.getElem?_zipWith_eq_some.mp found
  have reached : IsLengthTo excluded first second place index before := by
    cases index with
    | zero =>
        cases known
        exact isLengthTo_zero place
    | succ index => exact lengths index before known
  apply reached.succ
  simp only [AgreePlainly, here, there, Bool.and_eq_true, decide_eq_true_eq, Option.some.injEq,
    Bool.not_eq_true', List.contains_eq_mem, decide_eq_false_iff_not]
  constructor
  · rintro ⟨rfl, free⟩
    exact ⟨character, rfl, rfl, free⟩
  · rintro ⟨_, rfl, rfl, free⟩
    exact ⟨rfl, free⟩

/-! ## The search -/

/-- A block that ends in front of two places, in the order in which the search comes to them. -/
def EndsBefore (block : Block) (place place' : Nat) : Prop :=
  block.first + block.size ≤ place ∨
    block.first + block.size = place + 1 ∧ block.second + block.size ≤ place'

/-- The best block that the search has seen in front of two places: it is preferred to every plain
block that ends there. -/
structure IsBestTo
    (excluded first : Text)
    (second : Word)
    (place place' : Nat)
    (best : Block) : Prop where
  plain : IsPlain excluded first second best
  seen : best = ⟨0, 0, 0⟩ ∨ 0 < best.size ∧ EndsBefore best place place'
  leads : ∀ other, IsPlain excluded first second other → 0 < other.size →
    EndsBefore other place place' → Leads best other

theorem isBestTo_zero : IsBestTo excluded first second 0 0 ⟨0, 0, 0⟩ where
  plain := isPlain_zero 0 0
  seen := .inl rfl
  leads := by
    intro other _ nonempty ends
    unfold EndsBefore at ends
    omega

/-- Looking at the longest block in front of the next two places keeps the best block best. -/
theorem IsBestTo.succ
    {place place' length : Nat}
    {best : Block}
    (isBest : IsBestTo excluded first second place place' best)
    (reached : IsLengthTo excluded first second (place + 1) (place' + 1) length) :
    IsBestTo excluded first second place (place' + 1)
      (if best.size < length then ⟨place + 1 - length, place' + 1 - length, length⟩
      else best) := by
  have le_place := reached.le_place
  have le_place' := reached.le_place'
  have here : ∀ other : Block, IsPlain excluded first second other →
      other.first + other.size = place + 1 → other.second + other.size = place' + 1 →
        other.size ≤ length :=
    fun other plain ends ends' => (reached.isPlain_iff other ends ends').mp plain
  -- A block that ends in front of the next place ends in front of this one, or at it.
  have cases_of_endsBefore : ∀ other : Block, EndsBefore other place (place' + 1) →
      EndsBefore other place place' ∨
        other.first + other.size = place + 1 ∧ other.second + other.size = place' + 1 := by
    intro other ends
    unfold EndsBefore at ends ⊢
    omega
  split
  · next shorter =>
      refine ⟨?_, .inr ?_, ?_⟩
      · exact (reached.isPlain_iff _ (by dsimp only; omega) (by dsimp only; omega)).mpr
          (Nat.le_refl _)
      · unfold EndsBefore
        dsimp only
        omega
      · intro other plain nonempty ends
        unfold Leads
        dsimp only
        rcases cases_of_endsBefore other ends with before | ⟨atPlace, atPlace'⟩
        · have led := isBest.leads other plain nonempty before
          unfold Leads at led
          omega
        · have bounded := here other plain atPlace atPlace'
          omega
  · next notShorter =>
      refine ⟨isBest.plain, ?_, ?_⟩
      · refine isBest.seen.imp_right fun seen => ?_
        unfold EndsBefore at seen ⊢
        omega
      · intro other plain nonempty ends
        rcases cases_of_endsBefore other ends with before | ⟨atPlace, atPlace'⟩
        · exact isBest.leads other plain nonempty before
        · have bounded := here other plain atPlace atPlace'
          unfold Leads
          rcases isBest.seen with rfl | seen
          · dsimp only at *
            omega
          · unfold EndsBefore at seen
            omega

/-- The best block in front of a place of the text and the last one of the word is the best in
front of the next place of the text. -/
theorem IsBestTo.nextRow
    {place : Nat}
    {best : Block}
    (isBest : IsBestTo excluded first second place second.length best) :
    IsBestTo excluded first second (place + 1) 0 best where
  plain := isBest.plain
  seen := by
    refine isBest.seen.imp_right fun seen => ?_
    unfold EndsBefore at seen ⊢
    omega
  leads := by
    intro other plain nonempty ends
    have inside := plain.isCommon.le_length nonempty
    apply isBest.leads other plain nonempty
    unfold EndsBefore at ends ⊢
    omega

/-- A row improves the best block by all blocks that end in front of its places. -/
theorem IsBestTo.improve
    {place : Nat}
    {row : List Nat}
    {best : Block}
    (isBest : IsBestTo excluded first second place 0 best)
    (isRow : IsRowTo excluded first second (place + 1) row) :
    IsBestTo excluded first second place second.length (improve place best row) := by
  have general : ∀ (rest : List Nat) (start : Nat) (best : Block),
      (∀ index length, rest[index]? = some length →
        IsLengthTo excluded first second (place + 1) (start + index + 1) length) →
      IsBestTo excluded first second place start best →
      IsBestTo excluded first second place (start + rest.length)
        ((rest.zipIdx start).foldl
          (fun best entry =>
            if best.size < entry.1 then ⟨place + 1 - entry.1, entry.2 + 1 - entry.1, entry.1⟩
            else best)
          best) := by
    intro rest
    induction rest with
    | nil =>
        intro start best _ isBest
        exact isBest
    | cons length rest hypothesis =>
        intro start best lengths isBest
        rw [List.zipIdx_cons, List.foldl_cons, List.length_cons, Nat.add_comm rest.length,
          ← Nat.add_assoc]
        apply hypothesis (start + 1)
        · intro index other found
          rw [Nat.add_assoc start, Nat.add_comm 1]
          exact lengths (index + 1) other found
        · exact isBest.succ (lengths 0 length rfl)
  have whole := general row 0 best (by simpa using isRow.2) isBest
  rwa [isRow.1, Nat.zero_add] at whole

/-- The search finds the longest plain block. -/
theorem isLongest_longestPlainBlock (excluded first : Text) (second : Word) :
    IsLongest excluded first second (longestPlainBlock excluded first second) := by
  have general : ∀ (rest : Text) (place : Nat) (best : Block) (row : List Nat),
      first.drop place = rest → place + rest.length = first.length →
      IsBestTo excluded first second place 0 best →
      IsRowTo excluded first second place row →
      IsBestTo excluded first second first.length 0
        (searchBlock excluded second place best row rest) := by
    intro rest
    induction rest with
    | nil =>
        intro place best row _ ends isBest _
        rwa [← ends]
    | cons character rest hypothesis =>
        intro place best row dropped ends isBest isRow
        have here : first[place]? = some character := by
          rw [← List.head?_drop, dropped, List.head?_cons]
        have next := isRow.next here
        apply hypothesis (place + 1)
        · rw [← List.tail_drop, dropped, List.tail_cons]
        · rw [← ends, List.length_cons]
          omega
        · exact (isBest.improve next).nextRow
        · exact next
  have isBest := general first 0 ⟨0, 0, 0⟩ (List.replicate second.length 0) rfl
    (Nat.zero_add _) isBestTo_zero isRowTo_zero
  refine ⟨isBest.plain, fun other plain => ?_⟩
  rcases Nat.eq_zero_or_pos other.size with empty | nonempty
  · -- An empty block comes after the one at the start, which the search begins with.
    unfold Leads
    rcases isBest.seen with start | ⟨nonempty, _⟩
    · rw [longestPlainBlock, start]
      dsimp only
      omega
    · exact .inl (empty ▸ nonempty)
  · apply isBest.leads other plain nonempty
    have inside := plain.isCommon.le_length nonempty
    exact .inl (by omega)

/-! ## The extended block -/

/-- A block around another one, with more characters before it and behind it. -/
structure Surrounds (outer inner : Block) (before after : Nat) : Prop where
  first_eq : inner.first = outer.first + before
  second_eq : inner.second = outer.second + before
  size_eq : outer.size = before + inner.size + after

/-- A block extended as far as characters agree on either side. -/
structure Extends (first : Text) (second : Word) (inner outer : Block) : Prop where
  common : IsCommon first second outer
  surrounds : ∃ before after, Surrounds outer inner before after
  closed_before : ∀ place place', outer.first = place + 1 → outer.second = place' + 1 →
    ¬ Agree first second place place'
  closed_after : ¬ Agree first second (outer.first + outer.size) (outer.second + outer.size)

/-- No common block around a block reaches further than the extended one. -/
theorem Extends.le_of_isCommon
    {before after before' after' : Nat}
    (extended : Extends first second inner outer)
    (common : IsCommon first second other)
    (surrounds : Surrounds outer inner before after)
    (otherSurrounds : Surrounds other inner before' after') :
    before' ≤ before ∧ after' ≤ after := by
  obtain ⟨first_eq, second_eq, size_eq⟩ := surrounds
  obtain ⟨otherFirst_eq, otherSecond_eq, otherSize_eq⟩ := otherSurrounds
  constructor
  · by_contra further
    have agree := common (before' - before - 1) (by omega)
    exact extended.closed_before _ _ (by omega) (by omega) agree
  · by_contra further
    have agree := common (before' + inner.size + after) (by omega)
    have place : other.first + (before' + inner.size + after) = outer.first + outer.size := by omega
    have place' : other.second + (before' + inner.size + after) = outer.second + outer.size := by
      omega
    rw [place, place'] at agree
    exact extended.closed_after agree

/-- There is one way only to extend a block. -/
theorem Extends.eq
    (extended : Extends first second inner outer)
    (otherExtended : Extends first second inner other) :
    outer = other := by
  obtain ⟨before, after, surrounds⟩ := extended.surrounds
  obtain ⟨before', after', otherSurrounds⟩ := otherExtended.surrounds
  have inward := extended.le_of_isCommon otherExtended.common surrounds otherSurrounds
  have outward := otherExtended.le_of_isCommon extended.common otherSurrounds surrounds
  obtain ⟨first_eq, second_eq, size_eq⟩ := surrounds
  obtain ⟨otherFirst_eq, otherSecond_eq, otherSize_eq⟩ := otherSurrounds
  cases outer
  cases other
  simp only [Block.mk.injEq] at *
  omega

theorem agree_cons_zero {character : Char} {letter : Option Char} {rest : Text} {letters : Word} :
    Agree (character :: rest) (letter :: letters) 0 0 ↔ letter = some character := by
  simp [Agree]

/-- A text and a word agree as far as they begin alike. -/
theorem agree_of_lt_commonStart
    {offset : Nat}
    (inside : offset < commonStart first second) :
    Agree first second offset offset := by
  induction first generalizing second offset with
  | nil => simp [commonStart] at inside
  | cons character rest hypothesis =>
      cases second with
      | nil => simp [commonStart] at inside
      | cons letter letters =>
          by_cases same : letter = some character
          · rw [commonStart, if_pos same] at inside
            cases offset with
            | zero => exact agree_cons_zero.mpr same
            | succ offset => exact hypothesis (Nat.lt_of_succ_lt_succ inside)
          · rw [commonStart, if_neg same] at inside
            exact absurd inside (Nat.not_lt_zero _)

/-- Behind what they begin with alike, a text and a word do not agree. -/
theorem not_agree_commonStart :
    ¬ Agree first second (commonStart first second) (commonStart first second) := by
  induction first generalizing second with
  | nil => simp [Agree]
  | cons character rest hypothesis =>
      cases second with
      | nil => simp [Agree]
      | cons letter letters =>
          by_cases same : letter = some character
          · rw [commonStart, if_pos same]
            exact hypothesis
          · rw [commonStart, if_neg same, agree_cons_zero]
            exact same

theorem agree_drop_iff {offset place place' : Nat} :
    Agree (first.drop place) (second.drop place') offset offset ↔
      Agree first second (place + offset) (place' + offset) := by
  simp only [Agree, List.getElem?_drop]

/-- What stands in front of two places, read backwards. -/
theorem agree_reverse_take_iff
    {offset place place' : Nat}
    (inFirst : offset < place ∧ place ≤ first.length)
    (inSecond : offset < place' ∧ place' ≤ second.length) :
    Agree (first.take place).reverse (second.take place').reverse offset offset ↔
      Agree first second (place - 1 - offset) (place' - 1 - offset) := by
  have length_eq : (first.take place).length = place := List.length_take_of_le inFirst.2
  have length_eq' : (second.take place').length = place' := List.length_take_of_le inSecond.2
  unfold Agree
  rw [List.getElem?_reverse (length_eq.symm ▸ inFirst.1),
    List.getElem?_reverse (length_eq'.symm ▸ inSecond.1), length_eq, length_eq',
    List.getElem?_take_of_lt (by omega), List.getElem?_take_of_lt (by omega)]

theorem commonStart_le_length : commonStart first second ≤ first.length := by
  by_contra longer
  have inside := (agree_of_lt_commonStart (Nat.lt_of_not_le longer)).lt_length
  omega

theorem commonStart_le_length' : commonStart first second ≤ second.length := by
  by_contra longer
  have inside := (agree_of_lt_commonStart (Nat.lt_of_not_le longer)).lt_length
  omega

/-- A common block is extended on either side as far as characters agree. -/
theorem extends_extend
    (common : IsCommon first second block)
    (inFirst : block.first ≤ first.length)
    (inSecond : block.second ≤ second.length) :
    Extends first second block (extend first second block) := by
  let reversed := (first.take block.first).reverse
  let reversed' := (second.take block.second).reverse
  let before := commonStart reversed reversed'
  let dropped := first.drop (block.first + block.size)
  let dropped' := second.drop (block.second + block.size)
  let after := commonStart dropped dropped'
  have extended : extend first second block =
      ⟨block.first - before, block.second - before, before + block.size + after⟩ := rfl
  have before_le : before ≤ block.first := by
    have bounded : before ≤ reversed.length := commonStart_le_length
    simpa [reversed, inFirst] using bounded
  have before_le' : before ≤ block.second := by
    have bounded : before ≤ reversed'.length := commonStart_le_length'
    simpa [reversed', inSecond] using bounded
  rw [extended]
  refine ⟨?_, ⟨before, after, by dsimp only; omega, by dsimp only; omega, rfl⟩, ?_, ?_⟩
  · intro offset inside
    dsimp only at inside ⊢
    rcases Nat.lt_or_ge offset before with inBefore | behind
    · have agree : Agree reversed reversed' (before - 1 - offset) (before - 1 - offset) :=
        agree_of_lt_commonStart (show before - 1 - offset < before by omega)
      rw [agree_reverse_take_iff ⟨by omega, inFirst⟩ ⟨by omega, inSecond⟩] at agree
      convert agree using 1 <;> omega
    · rcases Nat.lt_or_ge offset (before + block.size) with inBlock | inAfter
      · have agree := common (offset - before) (by omega)
        convert agree using 1 <;> omega
      · have agree : Agree dropped dropped' (offset - before - block.size)
            (offset - before - block.size) :=
          agree_of_lt_commonStart (show offset - before - block.size < after by omega)
        rw [agree_drop_iff] at agree
        convert agree using 1 <;> omega
  · intro place place' isNext isNext'
    dsimp only at isNext isNext'
    have stopped : ¬ Agree reversed reversed' before before := not_agree_commonStart
    rw [agree_reverse_take_iff ⟨by omega, inFirst⟩ ⟨by omega, inSecond⟩] at stopped
    convert stopped using 2 <;> omega
  · have stopped : ¬ Agree dropped dropped' after after := not_agree_commonStart
    rw [agree_drop_iff] at stopped
    convert stopped using 2 <;> dsimp only <;> omega

/-- The longest plain block starts inside the text and the word. -/
theorem IsLongest.start_le (longest : IsLongest excluded first second block) :
    block.first ≤ first.length ∧ block.second ≤ second.length := by
  rcases Nat.eq_zero_or_pos block.size with empty | nonempty
  · have led := longest.leads ⟨0, 0, 0⟩ (isPlain_zero 0 0)
    unfold Leads at led
    dsimp only at led
    omega
  · have inside := longest.plain.isCommon.le_length nonempty
    omega

/-! ## The longest block -/

/-- The longest block of a text and a word: the longest plain one, extended. -/
def IsLongestBlock (excluded first : Text) (second : Word) (block : Block) : Prop :=
  ∃ inner, IsLongest excluded first second inner ∧ Extends first second inner block

theorem isLongestBlock_longestBlock (excluded first : Text) (second : Word) :
    IsLongestBlock excluded first second (longestBlock excluded first second) := by
  have longest := isLongest_longestPlainBlock excluded first second
  exact ⟨_, longest, extends_extend longest.plain.isCommon longest.start_le.1 longest.start_le.2⟩

theorem IsLongestBlock.eq
    (longest : IsLongestBlock excluded first second block)
    (otherLongest : IsLongestBlock excluded first second other) :
    block = other := by
  obtain ⟨inner, isLongest, extended⟩ := longest
  obtain ⟨otherInner, isOtherLongest, otherExtended⟩ := otherLongest
  obtain rfl := isLongest.eq isOtherLongest
  exact extended.eq otherExtended

end Handbook.Similarity
