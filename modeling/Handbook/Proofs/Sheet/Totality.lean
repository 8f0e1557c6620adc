import Handbook.Proofs.Sheet.Page
import Handbook.Proofs.Slot.Refusal

/-!
# Sheets that can be shown

A sheet of texts and built tables can always be created, and there is one thing
only that keeps it from being shown: a slot that reserves more positions than can
be laid out, if the walk over the positions comes to it. After a walk that is not
refused nothing fails any more.
-/

namespace Handbook
namespace Sheet

/-- A sheet of built tables can be created. It cannot be initialized when a slot that is too large to
be laid out blocks the walk over its positions, every position in front of that slot being reached;
in all other cases it can, and then has a page. -/
theorem exists_page_unless_blocked
    (application category command description : Text)
    {slots : SlotTable}
    {options : OptionTable}
    (slotsBuilt : slots.Built)
    (optionsBuilt : options.Built) :
    ∃ sheet,
      create (.str application) (.str category) (.str command) (.str description)
          (.table slots) (.table options) {} = .ok sheet ∧
        (SlotTable.Blocked [] slots.items → sheet.initialized.failure = some .countTooLarge) ∧
        (¬ SlotTable.Blocked [] slots.items →
          sheet.initialized.failure = none ∧ ∃ page, sheet.initialized.state.page = .ok page) := by
  let sheet : Sheet := { application, category, command, description, slots, options }
  have built : sheet.Built := ⟨slotsBuilt, optionsBuilt, rfl⟩
  rw [← SlotTable.refused_collapse_iff]
  refine ⟨sheet, rfl, ?_, ?_⟩
  · intro refused
    exact failure_initialized_of_refused refused
  · intro notRefused
    have accepted : slots.collapse.refused = false := by simpa using notRefused
    exact ⟨built.failure_initialized_iff.mpr accepted, _, built.page_initialized accepted⟩

/-- A slot of the largest count that can be laid out, and one of a larger count to which the walk does
not come any more. -/
theorem exists_page_of_largest_count :
    let slots : SlotTable :=
      ⟨[⟨['a'], .exactly largestCount⟩, ⟨['b'], .exactly (largestCount + 1)⟩]⟩
    let descriptor : Descriptor :=
      ⟨.str ['a'], .str [], .str ['x'], .toggle, .unset, .bool false⟩
    slots.Built ∧ OptionTable.Built ⟨[descriptor]⟩ ∧
      ∃ sheet,
        create (.str ['b']) (.str []) (.str ['c']) (.str []) (.table slots)
            (.table ⟨[descriptor]⟩) {} = .ok sheet ∧
          sheet.initialized.failure = none ∧
            ∃ page, sheet.initialized.state.page = .ok page := by
  intro slots descriptor
  have slotsAdded : SlotTable.addAll {}
      [(.str ['a'], .int largestCount), (.str ['b'], .int (largestCount + 1))] = .ok slots := rfl
  have optionsAdded : OptionTable.addAll {}
      ([{ names := .str ['a'], description := .str ['x'] }].map .declared) =
      .ok ⟨[descriptor]⟩ := by cbv
  have slotsBuilt : slots.Built := .addAll .empty slotsAdded
  have optionsBuilt : OptionTable.Built ⟨[descriptor]⟩ := .addAll .empty optionsAdded
  have accepted : slots.collapse.refused = false := by cbv
  have notBlocked : ¬ SlotTable.Blocked [] slots.items := by
    rw [← SlotTable.refused_collapse_iff, accepted]
    exact Bool.false_ne_true
  obtain ⟨sheet, created, _, shown⟩ :=
    exists_page_unless_blocked ['b'] [] ['c'] [] slotsBuilt optionsBuilt
  exact ⟨slotsBuilt, optionsBuilt, sheet, created, shown notBlocked⟩

/-- A slot of one position more than can be laid out is accepted, and keeps its sheet from being
initialized. -/
theorem initialized_refused_of_large_count :
    let slots : SlotTable := ⟨[⟨['a'], .exactly (largestCount + 1)⟩]⟩
    let sheet : Sheet :=
      { application := ['b'], category := [], command := ['c'], description := [], slots }
    SlotTable.add {} (.str ['a']) (.int 9223372036854775808) = .ok slots ∧ sheet.Built ∧
      sheet.initialized.failure = some .countTooLarge := by
  intro slots sheet
  have added : SlotTable.add {} (.str ['a']) (.int 9223372036854775808) = .ok slots := by cbv
  exact ⟨added, ⟨.add .empty added, .empty, rfl⟩, failure_initialized_of_refused (by cbv)⟩

end Sheet
end Handbook
