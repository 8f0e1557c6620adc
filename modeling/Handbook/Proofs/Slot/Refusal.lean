import Handbook.Proofs.Slot.Collapse
import Handbook.Proofs.Slot.Positions

/-!
# Refused walks

Which tables refuse the walk over their positions: the ones with a slot that is
too large to be laid out, unless the walk has stopped before it comes to that
slot. It comes there when all positions in front of the slot are reached, that
is, when no run that is too long to be counted ends before the last of them.
-/

namespace Handbook
namespace SlotTable

/-- The walk does not stop at any position of the slots. -/
def AllReached (slots : List Slot) : Prop :=
  ∀ position, nameIn slots position ≠ none → Reached (nameIn slots) position

/-- Among slots behind the given front, there is one too large to be laid out, with no position before
it at which the walk stops. -/
def Blocked (front slots : List Slot) : Prop :=
  ∃ before slot after, slots = before ++ slot :: after ∧ slot.isTooLarge = true ∧
    AllReached (front ++ before)

/-! ## Positions at which the walk stops -/

/-- One position more behind a run that is too long to be counted is not reached. -/
theorem not_allReached
    {slots : List Slot}
    {name : Text}
    (binds : Binds (nameIn slots) name 0 (longestRun + 1))
    (behind : nameIn slots (longestRun + 1) ≠ none) :
    ¬ AllReached slots := by
  intro reached
  have before := reached (longestRun + 1) behind name 0 binds
  omega

/-- The walk stops at the first position behind a full run. -/
theorem not_allReached_of_full
    {slot : Slot}
    (nonempty : slot.count ≠ .exactly 0)
    (name : Text)
    (rest : List Slot) :
    ¬ AllReached (⟨name, .exactly (longestRun + 1)⟩ :: slot :: rest) := by
  have counted : (⟨name, .exactly (longestRun + 1)⟩ : Slot).count = .exactly (longestRun + 1) := rfl
  have behind := nameIn_cons_add counted (slot :: rest) 0
  rw [Nat.add_zero, nameIn_cons_zero nonempty] at behind
  refine not_allReached (binds_of_exactly counted (slot :: rest)) ?_
  exact ne_of_eq_of_ne behind (Option.some_ne_none _)

/-- All positions of one slot are reached if no more than a single one of them is beyond what is
counted. -/
theorem allReached_singleton
    {length : Nat}
    (bounded : length ≤ longestRun + 1)
    (name : Text) :
    AllReached [⟨name, .exactly length⟩] := by
  intro position bound _ start _
  by_contra behind
  have outside : ¬ position < length := by omega
  exact bound (by simp [nameIn, outside])

/-- Slots that bind the same positions have the same positions reached. -/
theorem allReached_congr
    {left right : List Slot}
    (same : ∀ position, nameIn left position = nameIn right position) :
    AllReached left ↔ AllReached right := by
  unfold AllReached
  rw [funext same]

/-- A short slot in front of another name keeps no position from being reached. -/
theorem allReached_cons_of_ne
    {slot : Slot}
    {rest : List Slot}
    {number : Nat}
    (different : nameIn rest 0 ≠ some slot.name)
    (counted : slot.count = .exactly number)
    (short : number ≤ longestRun) :
    AllReached (slot :: rest) ↔ AllReached rest := by
  constructor
  · intro reached position bound
    rw [← nameIn_cons_add counted] at bound
    exact (reached_cons_add different counted short position).mp (reached _ bound)
  · intro reached position bound
    rcases Nat.lt_or_ge position number with inside | behind
    · intro _ start _
      omega
    · obtain ⟨offset, rfl⟩ := Nat.exists_eq_add_of_le behind
      rw [nameIn_cons_add counted] at bound
      exact (reached_cons_add different counted short offset).mpr (reached offset bound)

/-! ## Slots that block the walk -/

theorem not_blocked_nil (front : List Slot) : ¬ Blocked front [] := by
  rintro ⟨before, slot, after, split, _⟩
  cases before <;> cases split

/-- Either the next slot blocks the walk, or one behind it does. -/
theorem blocked_cons {front rest : List Slot} {slot : Slot} :
    Blocked front (slot :: rest) ↔
      slot.isTooLarge = true ∧ AllReached front ∨ Blocked (front ++ [slot]) rest := by
  constructor
  · rintro ⟨before, large, after, split, tooLarge, reached⟩
    cases before with
    | nil =>
        cases split
        rw [List.append_nil] at reached
        exact Or.inl ⟨tooLarge, reached⟩
    | cons first others =>
        cases split
        refine Or.inr ⟨others, large, after, rfl, tooLarge, ?_⟩
        rwa [List.append_assoc, List.singleton_append]
  · rintro (⟨tooLarge, reached⟩ | ⟨before, large, after, rfl, tooLarge, reached⟩)
    · exact ⟨[], slot, rest, rfl, tooLarge, by rwa [List.append_nil]⟩
    · refine ⟨slot :: before, large, after, rfl, tooLarge, ?_⟩
      rwa [List.append_assoc, List.singleton_append] at reached

theorem blocked_cons_of_fits
    {front rest : List Slot}
    {slot : Slot}
    (fits : slot.isTooLarge = false) :
    Blocked front (slot :: rest) ↔ Blocked (front ++ [slot]) rest := by
  rw [blocked_cons]
  simp [fits]

/-- Fronts that keep the same positions from being reached are exchangeable. -/
theorem blocked_congr
    {front other : List Slot}
    (same : ∀ before, AllReached (front ++ before) ↔ AllReached (other ++ before))
    (slots : List Slot) :
    Blocked front slots ↔ Blocked other slots := by
  unfold Blocked
  simp only [same]

/-- Once the walk has stopped, no slot blocks it. -/
theorem not_blocked
    {front : List Slot}
    (stopped : ∀ before, ¬ AllReached (front ++ before))
    (slots : List Slot) :
    ¬ Blocked front slots := by
  rintro ⟨before, _, _, _, _, reached⟩
  exact stopped before reached

/-! ## The walk -/

/-- A slot of the name of the open run: the walk is refused behind it, or stopped within it. -/
theorem refused_collapseFrom_cons
    {slot : Slot}
    {rest : List Slot}
    {length : Nat}
    {finished : List Run}
    (nonempty : slot.count ≠ .exactly 0)
    (fits : slot.isTooLarge = false)
    (short : length ≤ longestRun)
    (following : ∀ total, total ≤ longestRun + 1 →
      ((collapseFrom finished slot.name total rest).refused = true ↔
        Blocked [⟨slot.name, .exactly total⟩] rest)) :
    (collapseFrom finished slot.name length (slot :: rest)).refused = true ↔
      Blocked [⟨slot.name, .exactly length⟩, slot] rest := by
  let joined : Slot := ⟨slot.name, (Count.exactly length).plus slot.count⟩
  have sameNames : ∀ before position,
      nameIn (⟨slot.name, .exactly length⟩ :: slot :: before) position =
        nameIn (joined :: before) position :=
    fun before => nameIn_cons_cons_of_same (by rfl) before
  have merged : Blocked [⟨slot.name, .exactly length⟩, slot] rest ↔ Blocked [joined] rest :=
    blocked_congr (fun before => allReached_congr (sameNames before)) rest
  rw [merged, collapseFrom_cons_of_same nonempty fits short]
  cases counted : (Count.exactly length).plus slot.count with
  | unbounded =>
      have endless : joined.count = .unbounded := counted
      have long : joined.count.isLong = true := by rw [endless]; rfl
      refine iff_of_false Bool.false_ne_true (not_blocked (fun before => ?_) rest)
      refine not_allReached (binds_of_long long before) ?_
      rw [List.singleton_append, nameIn_cons_of_unbounded endless]
      exact Option.some_ne_none _
  | exactly total =>
      have number : joined.count = .exactly total := counted
      have whole : joined = ⟨slot.name, .exactly total⟩ := congrArg (Slot.mk slot.name) counted
      dsimp only
      split
      · next exceeded =>
          have long : joined.count.isLong = true := by
            rw [number, Count.isLong_exactly, decide_eq_true_eq]
            omega
          refine iff_of_false Bool.false_ne_true (not_blocked (fun before => ?_) rest)
          refine not_allReached (binds_of_long long before) ?_
          rw [List.singleton_append, nameIn_cons_of_lt number exceeded]
          exact Option.some_ne_none _
      · next within =>
          rw [whole]
          exact following total (by omega)

/-- A short open run of another name neither stops the walk nor lengthens the run of the next slot. -/
theorem blocked_cons_of_ne
    {slot : Slot}
    {name : Text}
    {length : Nat}
    (nonempty : slot.count ≠ .exactly 0)
    (short : length ≤ longestRun)
    (different : slot.name ≠ name)
    (rest : List Slot) :
    Blocked [⟨name, .exactly length⟩, slot] rest ↔
      Blocked [⟨slot.name, .exactly 0⟩, slot] rest := by
  refine blocked_congr (fun before => ?_) rest
  have next : nameIn (slot :: before) 0 ≠ some name := by
    rw [nameIn_cons_zero nonempty]
    simpa using different
  calc
    AllReached (⟨name, .exactly length⟩ :: slot :: before) ↔ AllReached (slot :: before) :=
      allReached_cons_of_ne next rfl short
    _ ↔ AllReached (⟨slot.name, .exactly 0⟩ :: slot :: before) :=
      (allReached_congr (nameIn_cons_of_empty rfl _)).symm

/-- The walk is refused exactly when a slot blocks it, the open run counting as a slot in front of the
others. -/
theorem refused_collapseFrom_iff
    {slots : List Slot}
    {length : Nat}
    (bounded : length ≤ longestRun + 1)
    (finished : List Run)
    (name : Text) :
    (collapseFrom finished name length slots).refused = true ↔
      Blocked [⟨name, .exactly length⟩] slots := by
  -- A slot that does not block the walk passes into the open run, and so into the front.
  induction slots generalizing finished name length with
  | nil => exact iff_of_false Bool.false_ne_true (not_blocked_nil _)
  | cons slot rest hypothesis =>
      by_cases tooLarge : slot.isTooLarge = true
      · rw [collapseFrom_cons_of_isTooLarge tooLarge, blocked_cons]
        exact iff_of_true rfl (Or.inl ⟨tooLarge, allReached_singleton bounded name⟩)
      have fits : slot.isTooLarge = false := by simpa using tooLarge
      rw [blocked_cons_of_fits fits, List.singleton_append]
      by_cases empty : slot.count = .exactly 0
      · rw [collapseFrom_cons_of_empty empty, hypothesis bounded]
        refine blocked_congr (fun before => allReached_congr ?_) rest
        refine nameIn_cons_congr (fun position => ?_) _
        exact (nameIn_cons_of_empty empty before position).symm
      have following : ∀ finished total, total ≤ longestRun + 1 →
          ((collapseFrom finished slot.name total rest).refused = true ↔
            Blocked [⟨slot.name, .exactly total⟩] rest) :=
        fun finished _ within => hypothesis within finished slot.name
      rcases Nat.lt_or_ge longestRun length with long | short
      · obtain rfl : length = longestRun + 1 := by omega
        rw [collapseFrom_cons_of_long empty fits long]
        exact iff_of_false Bool.false_ne_true
          (not_blocked (not_allReached_of_full empty name) rest)
      by_cases same : slot.name = name
      · subst same
        exact refused_collapseFrom_cons empty fits short (following finished)
      rw [blocked_cons_of_ne empty short same]
      rcases Nat.eq_zero_or_pos length with rfl | opened
      · rw [collapseFrom_zero finished name slot.name]
        exact refused_collapseFrom_cons empty fits short (following finished)
      · rw [collapseFrom_cons_of_ne empty fits opened short same]
        exact refused_collapseFrom_cons empty fits (Nat.zero_le _) (following _)

/-- A table refuses the walk over its positions exactly when one of its slots is too large to be laid
out and the walk does not stop before it. -/
theorem refused_collapse_iff (table : SlotTable) :
    table.collapse.refused = true ↔ Blocked [] table.items := by
  rw [collapse, refused_collapseFrom_iff (Nat.zero_le _)]
  exact blocked_congr (fun before => allReached_congr (nameIn_cons_of_empty rfl before)) table.items

end SlotTable
end Handbook
