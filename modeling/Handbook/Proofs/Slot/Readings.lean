import Handbook.Proofs.Offers
import Handbook.Proofs.Slot.Built
import Handbook.Proofs.Slot.Draws
import Handbook.Proofs.Slot.Positions

/-!
# Three readings of a slot table

The names of a slot table can be drawn one after another, looked up by position,
and counted. In a table of countable slots the three readings agree: a position
has the name that is drawn for it, and the names end where the count does. No
slot follows an unbounded one, whose count is never added to the others.
-/

namespace Handbook
namespace SlotTable

variable {table : SlotTable} {slots : List Slot}

/-- The table with an offered name and count added, if they are accepted. -/
def accept (table : SlotTable) (offer : Value × Value) : Except Error SlotTable :=
  table.add offer.1 offer.2

/-! ## Built tables -/

theorem isUnbounded_of_insert_eq_ok
    {after : SlotTable}
    {slot : Slot}
    (inserted : table.insert slot = .ok after) :
    table.isUnbounded = false := by
  cases endless : table.isUnbounded with
  | false => rfl
  | true => simp [insert, endless] at inserted

/-- A table to which slots have been offered is built. -/
theorem built_attemptAll (offers : List (Value × Value)) : Built (attemptAll accept {} offers) :=
  attemptAll_keeps .empty (fun _ _ _ built accepted => built.add accepted) offers

/-- A table in which no slot but the last one can be unbounded is bounded when none is. -/
theorem isUnbounded_eq_false_iff
    (ordered : ∀ slot ∈ table.items.dropLast, slot.count ≠ .unbounded) :
    table.isUnbounded = false ↔ ∀ slot ∈ table.items, slot.count ≠ .unbounded := by
  unfold isUnbounded
  rcases List.eq_nil_or_concat table.items with empty | ⟨front, last, whole⟩
  · simp [empty]
  · rw [List.concat_eq_append] at whole
    rw [whole, List.dropLast_concat] at ordered
    rw [whole, List.forall_mem_append, and_iff_right ordered]
    simp

/-- In a built table no slot but the last one is unbounded. -/
theorem Built.count_ne_of_mem_dropLast (built : Built table) :
    ∀ slot ∈ table.items.dropLast, slot.count ≠ .unbounded := by
  induction built with
  | empty => simp
  | add _ accepted hypothesis =>
      obtain ⟨_, _, _, inserted⟩ := exists_slot_of_add_eq_ok accepted
      rw [items_of_insert_eq_ok inserted, List.dropLast_concat]
      exact (isUnbounded_eq_false_iff hypothesis).mp (isUnbounded_of_insert_eq_ok inserted)

/-! ## Drawing, looking up and counting -/

/-- The names that are drawn from countable slots are those of the positions. -/
theorem exists_expandList_eq_nameIn (countable : Countable slots) (limit : Nat) :
    ∃ names, expandList limit slots = .ok names ∧
      ∀ position < limit, names[position]? = nameIn slots position := by
  induction slots generalizing limit with
  | nil => exact ⟨[], rfl, by simp⟩
  | cons slot rest hypothesis =>
      rcases Nat.eq_zero_or_pos limit with rfl | positive
      · exact ⟨[], expandList_zero _, by simp⟩
      cases counted : slot.count with
      | unbounded =>
          refine ⟨_, expandList_cons_of_unbounded counted limit rest, ?_⟩
          intro position inside
          rw [nameIn_cons_of_unbounded counted, List.getElem?_replicate_of_lt inside]
      | exactly number =>
          -- The slots behind are asked for as many names as this one leaves to be drawn.
          obtain ⟨names, expanded, drawn⟩ := hypothesis countable.tail (limit - number)
          refine ⟨List.replicate (min limit number) slot.name ++ names, ?_, ?_⟩
          · rw [expandList_cons_of_exactly countable.head counted positive, expanded]
            rfl
          intro position inside
          rcases Nat.lt_or_ge position number with here | behind
          · rw [nameIn_cons_of_lt counted here, List.getElem?_append_left (by simp; omega),
              List.getElem?_replicate_of_lt (by omega)]
          · obtain ⟨offset, rfl⟩ := Nat.exists_eq_add_of_le behind
            have all : min limit number = number := by omega
            rw [nameIn_cons_add counted, ← drawn offset (by omega), all,
              List.getElem?_append_right (by simp)]
            simp

/-- A position has no name when it is not below the count of slots that are all bounded. -/
theorem nameIn_eq_none_iff (position : Nat) :
    nameIn slots position = none ↔
      (∀ slot ∈ slots, slot.count ≠ .unbounded) ∧ totalOf slots ≤ position := by
  induction slots generalizing position with
  | nil => simp [totalOf]
  | cons slot rest hypothesis =>
      rw [List.forall_mem_cons]
      cases counted : slot.count with
      | unbounded => simp [nameIn_cons_of_unbounded counted]
      | exactly number =>
          rcases Nat.lt_or_ge position number with here | behind
          · have short : ¬ totalOf (slot :: rest) ≤ position := by
              simp only [totalOf, counted]
              omega
            simp [nameIn_cons_of_lt counted here, short]
          · obtain ⟨offset, rfl⟩ := Nat.exists_eq_add_of_le behind
            rw [nameIn_cons_add counted, hypothesis]
            simp [totalOf, counted]

theorem nameAt_eq_error_iff (position : Nat) :
    table.nameAt position = .error (.positionOutOfRange (.int position)) ↔
      nameIn table.items position = none := by
  unfold nameAt nameFor
  dsimp only
  cases nameIn table.items position <;> simp

theorem total?_eq_some_iff (total : Nat) :
    table.total? = some total ↔ table.isUnbounded = false ∧ totalOf table.items = total := by
  unfold total?
  cases table.isUnbounded <;> simp

/-- A position of a built table has no name when the table has a count that is not above it. -/
theorem Built.nameIn_eq_none_iff_total? (built : Built table) (position : Nat) :
    nameIn table.items position = none ↔
      ∃ total, table.total? = some total ∧ total ≤ position := by
  simp only [nameIn_eq_none_iff, total?_eq_some_iff, and_assoc, exists_and_left, exists_eq_left',
    isUnbounded_eq_false_iff built.count_ne_of_mem_dropLast]

/-- The expansion of countable slots ends before a name when the position of the name has none. -/
theorem expand_ends_iff_nameIn (countable : Countable table.items) (position : Nat) :
    (∃ names, table.expand (position + 1) = .ok names ∧ names.length ≤ position) ↔
      nameIn table.items position = none := by
  obtain ⟨names, expanded, drawn⟩ := exists_expandList_eq_nameIn countable (position + 1)
  have here := drawn position (Nat.lt_succ_self position)
  rw [← here, List.getElem?_eq_none_iff]
  constructor
  · rintro ⟨others, again, short⟩
    cases expanded.symm.trans again
    exact short
  · intro short
    exact ⟨names, expanded, short⟩

/-! ## The readings agree -/

/-- Of a table to which slots have been offered, some accepted and some refused: a refused offer
leaves it as it is, so it is the table of the accepted offers alone, and only its last slot can be
unbounded. If its slots are countable, the names that are drawn are those of the positions, and
drawing ends before a position, the position is out of range and the count is not above it in the
same cases. -/
theorem readings_agree (offers : List (Value × Value)) :
    let table := attemptAll accept {} offers
    (∀ offer error, table.accept offer = .error error →
        attemptAll accept {} (offers ++ [offer]) = table) ∧
      addAll {} (acceptedAmong accept {} offers) = .ok table ∧
      (∀ slot ∈ table.items.dropLast, slot.count ≠ .unbounded) ∧
      (Countable table.items →
        (∀ limit, ∃ names, table.expand limit = .ok names ∧
          ∀ position < limit, names[position]? = (table.nameAt position).toOption) ∧
        ∀ position : Nat,
          ((∃ names, table.expand (position + 1) = .ok names ∧ names.length ≤ position) ↔
            table.nameAt position = .error (.positionOutOfRange (.int position))) ∧
          (table.nameAt position = .error (.positionOutOfRange (.int position)) ↔
            ∃ total, table.total? = some total ∧ total ≤ position)) := by
  intro table
  have built : Built table := built_attemptAll offers
  refine ⟨?_, foldlM_acceptedAmong accept {} offers, built.count_ne_of_mem_dropLast, ?_⟩
  · intro offer error refused
    exact attemptAll_concat_of_error refused
  intro countable
  constructor
  · intro limit
    obtain ⟨names, expanded, drawn⟩ := exists_expandList_eq_nameIn countable limit
    refine ⟨names, expanded, ?_⟩
    intro position inside
    rw [drawn position inside, ← boundName_eq_nameIn]
    rfl
  · intro position
    rw [nameAt_eq_error_iff]
    exact ⟨expand_ends_iff_nameIn countable position, built.nameIn_eq_none_iff_total? position⟩

/-- A name that is reserved twice around an empty slot, with refused offers in between, has three
positions. Behind an unbounded slot nothing is accepted, and no position is out of range. -/
theorem readings_agree_of_refused_offers :
    let offers : List (Value × Value) :=
      [(.str ['a'], .int 2), (.str ['b'], .int 0), (.none, .int 1), (.str [' ', 'a'], .int 1)]
    let table := attemptAll accept {} offers
    let endless := attemptAll accept {} (offers ++ [(.str ['c'], .int (-1)), (.str ['d'], .int 1)])
    table.expand 5 = .ok [['a'], ['a'], ['a']] ∧
      (∀ position : Nat, table.nameAt position = .error (.positionOutOfRange (.int position)) ↔
        3 ≤ position) ∧
      endless.expand 5 = .ok [['a'], ['a'], ['a'], ['c'], ['c']] ∧
      ∀ position : Nat, endless.nameAt position ≠ .error (.positionOutOfRange (.int position)) := by
  intro offers table endless
  have countable : Countable table.items := by
    unfold Countable
    decide +kernel
  have endlessCountable : Countable endless.items := by
    unfold Countable
    decide +kernel
  obtain ⟨_, _, _, readings⟩ := readings_agree offers
  obtain ⟨_, _, _, endlessReadings⟩ :=
    readings_agree (offers ++ [(.str ['c'], .int (-1)), (.str ['d'], .int 1)])
  have total : table.total? = some 3 := by decide +kernel
  have endlessTotal : endless.total? = none := by decide +kernel
  refine ⟨by with_unfolding_all rfl, ?_, by with_unfolding_all rfl, ?_⟩
  · intro position
    rw [((readings countable).2 position).2, total]
    simp
  · intro position
    rw [ne_eq, ((endlessReadings endlessCountable).2 position).2, endlessTotal]
    simp

end SlotTable
end Handbook
