import Handbook.Proofs.Checks
import Handbook.Slot.Basic

/-!
# Built slot tables

A slot table is built by adding slots to the empty one; what is refused leaves it
as it was. The names of a built table are never blank.
-/

namespace Handbook
namespace SlotTable

/-- A table that comes from the empty one by adding slots. -/
inductive Built : SlotTable → Prop
  | empty : Built {}
  | add
      {table after : SlotTable}
      {name count : Value}
      (built : Built table)
      (accepted : table.add name count = .ok after) : Built after

/-- What an accepted slot was checked for. -/
theorem exists_slot_of_add_eq_ok
    {table after : SlotTable}
    {name count : Value}
    (accepted : table.add name count = .ok after) :
    ∃ slot, Slot.checkName name = .ok slot.name ∧ Slot.checkCount count = .ok slot.count ∧
      table.insert slot = .ok after := by
  obtain ⟨checkedName, nameAccepted, afterName⟩ := exists_of_bind_eq_ok accepted
  obtain ⟨checkedCount, countAccepted, inserted⟩ := exists_of_bind_eq_ok afterName
  exact ⟨⟨checkedName, checkedCount⟩, nameAccepted, countAccepted, inserted⟩

theorem ne_nil_of_checkName
    {value : Value}
    {name : Text}
    (checked : Slot.checkName value = .ok name) :
    name ≠ [] := by
  rintro rfl
  unfold Slot.checkName at checked
  split at checked
  · dsimp only at checked
    split at checked
    · cases checked
    · next nonempty => simp_all
  · cases checked

/-- The names of a built table are not empty. -/
theorem Built.name_ne_nil {table : SlotTable} (built : Built table) :
    ∀ slot ∈ table.items, slot.name ≠ [] := by
  induction built with
  | empty => simp
  | add _ accepted hypothesis =>
      obtain ⟨added, checkedName, _, inserted⟩ := exists_slot_of_add_eq_ok accepted
      intro slot member
      rw [items_of_insert_eq_ok inserted, List.mem_append, List.mem_singleton] at member
      rcases member with before | rfl
      · exact hypothesis slot before
      · exact ne_nil_of_checkName checkedName

/-- A table to which several slots have been added is built. -/
theorem Built.addAll
    {table after : SlotTable}
    {slots : List (Value × Value)}
    (built : Built table)
    (accepted : table.addAll slots = .ok after) :
    Built after :=
  foldlM_keeps built (fun _ _ _ before added => before.add added) accepted

end SlotTable
end Handbook
