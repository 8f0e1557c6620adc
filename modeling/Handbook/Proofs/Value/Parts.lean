import Handbook.Value.Snapshot
import Mathlib.Data.List.Forall2

/-!
# Parts of values

A list, a dictionary and a set hold other values as their parts; what is in a tuple
is no part of it here, for a tuple is always taken as a whole, and neither is a key of
a dictionary, which only names a part. Two values that differ
in the order of sets among their parts are alike, and no comparison with another value
tells them apart; a value that holds no float which is no number is equal to itself, and
so to all that are alike to it.
-/

namespace Handbook.Value

variable {value first second whole inner : Value} {holds : Value → Prop}

/-! ## Going through the parts -/

/-- The values that a value holds, if it is not a tuple; the keys of a dictionary are none. -/
def parts : Value → List Value
  | .list items => items
  | .dict entries => entries.map (·.2)
  | .set items => items
  | .frozenset items => items
  | _ => []

theorem sizeOf_lt_of_mem_parts {part : Value} (member : part ∈ value.parts) :
    sizeOf part < sizeOf value := by
  cases value with
  | list items | set items | frozenset items =>
      have smaller : sizeOf part < sizeOf items := List.sizeOf_lt_of_mem member
      simp only [list.sizeOf_spec, set.sizeOf_spec, frozenset.sizeOf_spec]
      omega
  | dict entries =>
      obtain ⟨⟨key, held⟩, inside, rfl⟩ := List.mem_map.mp member
      have smaller := List.sizeOf_lt_of_mem inside
      simp only [Prod.mk.sizeOf_spec] at smaller
      simp only [dict.sizeOf_spec]
      omega
  | _ => cases member

/-- What holds of a value when it holds of its parts holds of every value. -/
@[elab_as_elim] theorem induction_on_parts
    {holds : Value → Prop}
    (step : ∀ value, (∀ part ∈ value.parts, holds part) → holds value)
    (value : Value) :
    holds value :=
  step value fun part _ => induction_on_parts step part
termination_by sizeOf value
decreasing_by exact sizeOf_lt_of_mem_parts ‹_›

/-- A value within another one: this value itself, or one within a part of it. -/
inductive Within : Value → Value → Prop
  | whole (value : Value) : Within value value
  | inside
      {inner part whole : Value}
      (member : part ∈ whole.parts)
      (within : Within inner part) : Within inner whole

theorem within_iff :
    Within inner whole ↔ inner = whole ∨ ∃ part ∈ whole.parts, Within inner part := by
  constructor
  · intro within
    cases within with
    | whole => exact .inl rfl
    | inside member within => exact .inr ⟨_, member, within⟩
  · rintro (rfl | ⟨part, member, within⟩)
    · exact .whole inner
    · exact .inside member within

/-- Something that holds of a value and of all values within it. -/
def Throughout (holds : Value → Prop) (value : Value) : Prop :=
  ∀ inner, Within inner value → holds inner

theorem throughout_iff :
    Throughout holds value ↔ holds value ∧ ∀ part ∈ value.parts, Throughout holds part := by
  constructor
  · intro throughout
    exact ⟨throughout value (.whole value),
      fun part member inner within => throughout inner (.inside member within)⟩
  · rintro ⟨here, below⟩ inner within
    rcases within_iff.mp within with rfl | ⟨part, member, within⟩
    · exact here
    · exact below part member inner within

/-! ## Lists related item by item -/

/-- What is related and implies something else of each item on the left is so related, too. -/
theorem forall₂_imp_of_mem
    {Item Other : Type}
    {related implied : Item → Other → Prop}
    {items : List Item}
    {others : List Other}
    (each : List.Forall₂ related items others)
    (implies : ∀ item ∈ items, ∀ other, related item other → implied item other) :
    List.Forall₂ implied items others :=
  ((List.forall₂_and_left items others).mpr ⟨implies, each⟩).imp
    fun _ other both => both.1 other both.2

theorem any_eq_of_forall₂
    {Item : Type}
    {question : Item → Bool}
    {items others : List Item}
    (each : List.Forall₂ (fun item other => question item = question other) items others) :
    items.any question = others.any question := by
  induction each with
  | nil => rfl
  | cons here _ hypothesis => rw [List.any_cons, List.any_cons, here, hypothesis]

theorem all_eq_of_forall₂
    {Item : Type}
    {question : Item → Bool}
    {items others : List Item}
    (each : List.Forall₂ (fun item other => question item = question other) items others) :
    items.all question = others.all question := by
  induction each with
  | nil => rfl
  | cons here _ hypothesis => rw [List.all_cons, List.all_cons, here, hypothesis]

/-- Entries are related one by one when they have the same keys and related values. -/
theorem forall₂_entries_iff
    {related : Value → Value → Prop}
    {entries others : List (Value × Value)} :
    List.Forall₂ (fun entry other => entry.1 = other.1 ∧ related entry.2 other.2)
        entries others ↔
      entries.map (·.1) = others.map (·.1) ∧
        List.Forall₂ related (entries.map (·.2)) (others.map (·.2)) := by
  rw [List.forall₂_map_left_iff, List.forall₂_map_right_iff]
  constructor
  · intro each
    induction each with
    | nil => exact ⟨rfl, .nil⟩
    | cons here _ hypothesis =>
        rw [List.map_cons, List.map_cons, here.1, hypothesis.1]
        exact ⟨rfl, .cons here.2 hypothesis.2⟩
  · rintro ⟨keys, each⟩
    induction each with
    | nil => exact .nil
    | cons here _ hypothesis =>
        obtain ⟨key, rest⟩ := List.cons.inj keys
        exact .cons ⟨key, here⟩ (hypothesis rest)

/-! ## Values that are alike -/

/-- Two values that differ in the order of the members of sets only. -/
inductive Alike : Value → Value → Prop
  | same (value : Value) : Alike value value
  | list
      {items others : List Value}
      (each : List.Forall₂ Alike items others) : Alike (.list items) (.list others)
  | dict
      {entries others : List (Value × Value)}
      (keys : entries.map (·.1) = others.map (·.1))
      (each : List.Forall₂ Alike (entries.map (·.2)) (others.map (·.2))) :
      Alike (.dict entries) (.dict others)
  | set
      {members others : List Value}
      (permuted : members.Perm others) : Alike (.set members) (.set others)

/-- Two values that compare with every value in the same way. -/
def Indistinct (first second : Value) : Prop :=
  ∀ other : Value,
    other.equals first = other.equals second ∧ first.equals other = second.equals other

theorem includesItems_eq_all (items others : List Value) :
    includesItems items others =
      items.all fun item => others.any fun other => item.equals other := by
  induction items with
  | nil => rw [includesItems, List.all_nil]
  | cons item rest hypothesis => rw [includesItems, hypothesis, List.all_cons]

theorem includesEntries_eq_all (entries others : List (Value × Value)) :
    includesEntries entries others =
      entries.all fun entry =>
        others.any fun other => entry.1.equals other.1 && entry.2.equals other.2 := by
  induction entries with
  | nil => rw [includesEntries, List.all_nil]
  | cons entry rest hypothesis =>
      obtain ⟨key, value⟩ := entry
      rw [includesEntries, hypothesis, List.all_cons]

theorem equalsItems_eq_of_indistinct
    {items others : List Value}
    (each : List.Forall₂ Indistinct items others)
    (list : List Value) :
    equalsItems list items = equalsItems list others ∧
      equalsItems items list = equalsItems others list := by
  induction each generalizing list with
  | nil => exact ⟨rfl, rfl⟩
  | cons same _ hypothesis =>
      cases list with
      | nil => simp only [equalsItems, and_self]
      | cons item rest =>
          simp only [equalsItems, (same item).1, (same item).2, (hypothesis rest).1,
            (hypothesis rest).2, and_self]

/-- Values that are alike cannot be told apart by comparing them with others. -/
theorem Alike.indistinct (alike : Alike first second) : Indistinct first second := by
  induction first using induction_on_parts generalizing second with
  | step first hypothesis =>
  intro other
  cases alike with
  | same => exact ⟨rfl, rfl⟩
  | list each =>
      have indistinct := forall₂_imp_of_mem each fun item member _ => hypothesis item member
      cases other with
      | list items =>
          simp only [equals]
          exact equalsItems_eq_of_indistinct indistinct items
      | _ => simp [equals, equalsPlain, asInt?]
  | dict keys each =>
      have indistinct := forall₂_imp_of_mem each fun item member _ => hypothesis item member
      have entrywise := forall₂_entries_iff.mpr ⟨keys, indistinct⟩
      cases other with
      | dict entries =>
          simp only [equals, includesEntries_eq_all, entrywise.length_eq]
          constructor
          · congr 2
            funext entry
            refine any_eq_of_forall₂ (entrywise.imp ?_)
            rintro ⟨_, value⟩ ⟨key, image⟩ ⟨rfl, same⟩
            exact congrArg _ (same entry.2).1
          · congr 1
            refine all_eq_of_forall₂ (entrywise.imp ?_)
            rintro ⟨_, value⟩ ⟨key, image⟩ ⟨rfl, same⟩
            simp only [(same _).2]
      | _ => simp [equals, equalsPlain, asInt?]
  | set permuted =>
      cases other with
      | set items | frozenset items =>
          simp only [equals, includesItems_eq_all, permuted.length_eq, permuted.any_eq,
            permuted.all_eq, and_self]
      | _ => simp [equals, equalsPlain, asInt?]

/-! ## Values that are equal to themselves -/

/-- The values that a value holds, be it a tuple or not, and the keys of a dictionary. -/
def held : Value → List Value
  | .tuple items => items
  | .dict entries => entries.map (·.1) ++ entries.map (·.2)
  | value => value.parts

/-- A value that is no number though it is a float, or holds such a value. -/
inductive HoldsNaN : Value → Prop
  | float
      {number : Binary64}
      (noNumber : number.isNaN = true) : HoldsNaN (.float number)
  | inside
      {item whole : Value}
      (member : item ∈ whole.held)
      (holds : HoldsNaN item) : HoldsNaN whole

theorem sizeOf_lt_of_mem_held {item : Value} (member : item ∈ value.held) :
    sizeOf item < sizeOf value := by
  cases value with
  | tuple items =>
      have smaller : sizeOf item < sizeOf items := List.sizeOf_lt_of_mem member
      simp only [tuple.sizeOf_spec]
      omega
  | dict entries =>
      rcases List.mem_append.mp member with isKey | isPart
      · obtain ⟨⟨key, part⟩, inside, rfl⟩ := List.mem_map.mp isKey
        have smaller := List.sizeOf_lt_of_mem inside
        simp only [Prod.mk.sizeOf_spec] at smaller
        simp only [dict.sizeOf_spec]
        omega
      · exact sizeOf_lt_of_mem_parts isPart
  | _ => exact sizeOf_lt_of_mem_parts member

theorem equalsItems_self {items : List Value} (each : ∀ item ∈ items, item.equals item = true) :
    equalsItems items items = true := by
  induction items with
  | nil => rw [equalsItems]
  | cons item rest hypothesis =>
      obtain ⟨here, others⟩ := List.forall_mem_cons.mp each
      rw [equalsItems, here, hypothesis others]
      rfl

theorem includesItems_self {items : List Value} (each : ∀ item ∈ items, item.equals item = true) :
    includesItems items items = true := by
  rw [includesItems_eq_all, List.all_eq_true]
  exact fun item member => List.any_eq_true.mpr ⟨item, member, each item member⟩

theorem includesEntries_self
    {entries : List (Value × Value)}
    (keys : ∀ entry ∈ entries, entry.1.equals entry.1 = true)
    (each : ∀ entry ∈ entries, entry.2.equals entry.2 = true) :
    includesEntries entries entries = true := by
  rw [includesEntries_eq_all, List.all_eq_true]
  intro entry member
  refine List.any_eq_true.mpr ⟨entry, member, ?_⟩
  rw [keys entry member, each entry member, Bool.and_self]

/-- A value is equal to itself unless it holds what is no number. -/
theorem equals_self (value : Value) (numbers : ¬ value.HoldsNaN) : value.equals value = true := by
  have each : ∀ item ∈ value.held, item.equals item = true := fun item member =>
    equals_self item fun holds => numbers (.inside member holds)
  cases value with
  | list items | tuple items =>
      rw [equals]
      exact equalsItems_self each
  | dict entries =>
      rw [equals, beq_self_eq_true, includesEntries_self]
      · rfl
      · exact fun entry member =>
          each entry.1 (List.mem_append_left _ (List.mem_map_of_mem member))
      · exact fun entry member =>
          each entry.2 (List.mem_append_right _ (List.mem_map_of_mem member))
  | set items | frozenset items =>
      have included : includesItems items items = true := includesItems_self each
      rw [equals, beq_self_eq_true, included]
      rfl
  | float number =>
      have isNumber : number.isNaN = false :=
        Bool.eq_false_iff.mpr fun noNumber => numbers (.float noNumber)
      simp [equals, equalsPlain, asInt?, Binary64.equals, isNumber]
  | _ => simp [equals, equalsPlain, asInt?, equalsRange]
termination_by sizeOf value
decreasing_by exact sizeOf_lt_of_mem_held ‹_›

end Handbook.Value
