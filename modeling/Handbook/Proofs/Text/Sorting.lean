import Handbook.Text.Basic
import Mathlib.Data.List.Basic
import Mathlib.Data.List.Pairwise

/-!
# Sorting by text

What is sorted by a text, whether a name or a symbol, keeps the order of its
equals. An ordered list is determined by what it holds under each of its texts, in
order, so there is one way only to sort a list and keep that order. The order of
texts is said with `<` only, since a list of characters has more than one `≤`.
-/

namespace Handbook.Text

theorem not_lt_trans {low middle high : Text}
    (first : ¬ middle < low)
    (second : ¬ high < middle) :
    ¬ high < low :=
  List.not_lt.mpr (List.le_trans (List.not_lt.mp first) (List.not_lt.mp second))

theorem eq_of_not_lt {left right : Text}
    (notAbove : ¬ right < left)
    (notBelow : ¬ left < right) :
    left = right :=
  List.le_antisymm (List.not_lt.mp notAbove) (List.not_lt.mp notBelow)

section

variable {Item : Type} (key : Item → Text)

theorem notAbove_trans (low middle high : Item) :
    !decide (key middle < key low) → !decide (key high < key middle) →
      !decide (key high < key low) := by
  simp only [Bool.not_eq_true', decide_eq_false_iff_not]
  exact not_lt_trans

theorem notAbove_total (left right : Item) :
    !decide (key right < key left) || !decide (key left < key right) := by
  simp only [Bool.or_eq_true, Bool.not_eq_true', decide_eq_false_iff_not, List.not_lt]
  exact List.le_total _ _

/-- Sorting by a text puts a list in order. -/
theorem pairwise_mergeSort (items : List Item) :
    (items.mergeSort fun first second => !decide (key second < key first)).Pairwise
      fun first second => ¬ key second < key first := by
  refine (List.pairwise_mergeSort (notAbove_trans key) (notAbove_total key) items).imp ?_
  intro first second ordered
  simpa using ordered

/-- Sorting by a text keeps the order of what has the same text. -/
theorem filter_mergeSort (items : List Item) (text : Text) :
    (items.mergeSort fun first second => !decide (key second < key first)).filter
        (fun item => key item = text) =
      items.filter fun item => key item = text := by
  have equals : (items.filter fun item => key item = text).Pairwise
      fun first second => !decide (key second < key first) := by
    refine List.pairwise_filter.mpr (List.pairwise_of_forall fun first second => ?_)
    simp only [decide_eq_true_eq]
    rintro rfl same
    simp [same]
  have kept := List.sublist_mergeSort (notAbove_trans key) (notAbove_total key) equals
    List.filter_sublist
  have inside := kept.filter fun item => key item = text
  simp only [List.filter_filter, Bool.and_self] at inside
  exact (inside.eq_of_length ((List.mergeSort_perm items _).filter _).length_eq.symm).symm

variable {key} {head item : Item} {rest first second : List Item}

/-- Nothing in an ordered list is less than its head. -/
theorem not_lt_head
    (ordered : (head :: rest).Pairwise fun item other => ¬ key other < key item)
    (member : item ∈ head :: rest) :
    ¬ key item < key head := by
  rcases List.mem_cons.mp member with rfl | behind
  · exact List.lt_irrefl _
  · exact List.rel_of_pairwise_cons ordered behind

/-- In an ordered list the items of one kind come first if each of them is less than any other. -/
theorem eq_filter_append_filter
    {items : List Item}
    (leads : Item → Bool)
    (ordered : items.Pairwise fun item other => ¬ key other < key item)
    (less : ∀ item ∈ items, leads item = true → ∀ other ∈ items, leads other = false →
      key item < key other) :
    items = items.filter leads ++ items.filter fun item => !leads item := by
  induction items with
  | nil => rfl
  | cons head rest hypothesis =>
      have following := hypothesis ordered.of_cons fun item member kind other otherMember =>
        less item (List.mem_cons_of_mem head member) kind other
          (List.mem_cons_of_mem head otherMember)
      cases own : leads head with
      | true =>
          rw [List.filter_cons_of_pos own, List.filter_cons_of_neg (by simp [own]),
            List.cons_append, ← following]
      | false =>
          -- Whatever leads is less than the head, so nothing behind it does.
          have none : rest.filter leads = [] := by
            rw [List.filter_eq_nil_iff]
            intro item member kind
            have behind := List.mem_cons_of_mem head member
            exact not_lt_head ordered behind (less item behind kind head List.mem_cons_self own)
          rw [none, List.nil_append] at following
          rw [List.filter_cons_of_neg (by simp [own]), List.filter_cons_of_pos (by simp [own]),
            none, List.nil_append, ← following]

theorem mem_iff_of_filter_eq
    (same : ∀ text, first.filter (fun item => key item = text) =
      second.filter fun item => key item = text)
    (item : Item) :
    item ∈ first ↔ item ∈ second := by
  have atKey := congrArg (item ∈ ·) (same (key item))
  simpa using atKey

/-- Ordered lists that hold the same, in the same order, under each text are equal. -/
theorem eq_of_filter_eq
    (firstOrdered : first.Pairwise fun item other => ¬ key other < key item)
    (secondOrdered : second.Pairwise fun item other => ¬ key other < key item)
    (same : ∀ text, first.filter (fun item => key item = text) =
      second.filter fun item => key item = text) :
    first = second := by
  induction first generalizing second with
  | nil =>
      have empty : ∀ item, item ∉ second := fun item member =>
        List.not_mem_nil ((mem_iff_of_filter_eq same item).mpr member)
      exact (List.eq_nil_iff_forall_not_mem.mpr empty).symm
  | cons head rest hypothesis =>
      have members := mem_iff_of_filter_eq same
      cases second with
      | nil => simpa using members head
      | cons other others =>
          -- Each head is found in the other list, so neither is less than the other.
          have sameKey : key head = key other :=
            eq_of_not_lt (not_lt_head firstOrdered ((members other).mpr List.mem_cons_self))
              (not_lt_head secondOrdered ((members head).mp List.mem_cons_self))
          have sameHead : head = other := by
            have atKey := same (key other)
            rw [List.filter_cons_of_pos (by simpa using sameKey),
              List.filter_cons_of_pos (by simp)] at atKey
            exact (List.cons.inj atKey).1
          subst sameHead
          rw [hypothesis firstOrdered.of_cons secondOrdered.of_cons]
          intro text
          have atText := same text
          by_cases here : key head = text <;> simpa [here] using atText

end

end Handbook.Text
