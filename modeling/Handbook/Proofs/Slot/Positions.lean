import Handbook.Proofs.Slot.Merged
import Mathlib.Data.List.Chain

/-!
# Positions and runs

Which positions the recorded runs stand for. Leaving out empty slots and merging
neighbours binds every position to the name it had. In the merged list a name is
first met at the start of its first run, and it has a run exactly when one of its
positions is not left behind a run that is too long to be counted.
-/

namespace Handbook

/-- All of a number of positions, from the given one on, are bound to one name. -/
def Binds (names : Nat → Option Text) (name : Text) (start length : Nat) : Prop :=
  ∀ position, start ≤ position → position < start + length → names position = some name

/-- No run that is too long to be counted ends before the position. -/
def Reached (names : Nat → Option Text) (position : Nat) : Prop :=
  ∀ name start, Binds names name start (longestRun + 1) → position < start + (longestRun + 1)

/-- The first run of a name: where it starts, and how many positions it has. A limit that is not
unbounded is their exact number. -/
structure FirstRun
    (names : Nat → Option Text)
    (name : Text)
    (start : Nat)
    (limit : Int) : Prop where
  bound : names start = some name
  least : ∀ position < start, names position ≠ some name
  told : limit = unboundedCount ∨ 0 < limit ∧ limit ≤ longestRun
  counted : ∀ length : Nat, limit = length →
    Binds names name start length ∧ names (start + length) ≠ some name
  unbounded : limit = unboundedCount → Binds names name start (longestRun + 1)

/-- The number of positions that are counted before the first run of a name. -/
def Run.offset (name : Text) : List Run → Int
  | [] => 0
  | run :: rest => if run.name = name then 0 else run.count + offset name rest

/-- The first run of a name. -/
def Run.first? (name : Text) (runs : List Run) : Option Run :=
  runs.find? fun run => run.name = name

theorem Run.offset_cons_of_same
    {name : Text}
    {run : Run}
    (same : run.name = name)
    (rest : List Run) :
    offset name (run :: rest) = 0 := by
  simp [offset, same]

theorem Run.offset_cons_of_ne
    {name : Text}
    {run : Run}
    (different : run.name ≠ name)
    (rest : List Run) :
    offset name (run :: rest) = run.count + offset name rest := by
  simp [offset, different]

theorem Run.first?_cons_of_same
    {name : Text}
    {run : Run}
    (same : run.name = name)
    (rest : List Run) :
    first? name (run :: rest) = some run := by
  simp [first?, same]

theorem Run.first?_cons_of_ne
    {name : Text}
    {run : Run}
    (different : run.name ≠ name)
    (rest : List Run) :
    first? name (run :: rest) = first? name rest := by
  simp [first?, different]

/-- A run stays a run when positions are put in front of all others. -/
theorem Binds.shift
    {names : Nat → Option Text}
    {name : Text}
    {start length before : Nat}
    (binds : Binds (fun position => names (before + position)) name start length) :
    Binds names name (before + start) length := by
  intro position after inside
  obtain ⟨offset, rfl⟩ : ∃ offset, position = before + offset :=
    Nat.exists_eq_add_of_le (by omega)
  exact binds offset (by omega) (by omega)

theorem Binds.unshift
    {names : Nat → Option Text}
    {name : Text}
    {start length before : Nat}
    (binds : Binds names name (before + start) length) :
    Binds (fun position => names (before + position)) name start length :=
  fun position after inside => binds (before + position) (by omega) (by omega)

/-- Positions of another name put in front move the first run of a name by as many. -/
theorem FirstRun.shift
    {names : Nat → Option Text}
    {name other : Text}
    {start before : Nat}
    {limit : Int}
    (run : FirstRun (fun position => names (before + position)) name start limit)
    (front : Binds names other 0 before)
    (different : other ≠ name) :
    FirstRun names name (before + start) limit where
  bound := run.bound
  least := by
    intro position earlier
    rcases Nat.lt_or_ge position before with inFront | behind
    · rw [front position (Nat.zero_le _) (by omega)]
      simpa using different
    · obtain ⟨offset, rfl⟩ := Nat.exists_eq_add_of_le behind
      exact run.least offset (by omega)
  told := run.told
  counted := by
    intro length equal
    obtain ⟨binds, ends⟩ := run.counted length equal
    exact ⟨binds.shift, by simpa only [Nat.add_assoc] using ends⟩
  unbounded := fun endless => (run.unbounded endless).shift

namespace SlotTable

/-! ## Names of slots -/

theorem nameIn_cons_of_lt
    {slot : Slot}
    {number position : Nat}
    (counted : slot.count = .exactly number)
    (inside : position < number)
    (rest : List Slot) :
    nameIn (slot :: rest) position = some slot.name := by
  simp [nameIn, counted, inside]

theorem nameIn_cons_add
    {slot : Slot}
    {number : Nat}
    (counted : slot.count = .exactly number)
    (rest : List Slot)
    (position : Nat) :
    nameIn (slot :: rest) (number + position) = nameIn rest position := by
  simp [nameIn, counted]

/-- A slot that reserves nothing binds no position. -/
theorem nameIn_cons_of_empty
    {slot : Slot}
    (empty : slot.count = .exactly 0)
    (rest : List Slot)
    (position : Nat) :
    nameIn (slot :: rest) position = nameIn rest position := by
  have skipped := nameIn_cons_add empty rest position
  rwa [Nat.zero_add] at skipped

theorem nameIn_cons_of_unbounded
    {slot : Slot}
    (endless : slot.count = .unbounded)
    (rest : List Slot)
    (position : Nat) :
    nameIn (slot :: rest) position = some slot.name := by
  simp [nameIn, endless]

theorem nameIn_cons_zero
    {slot : Slot}
    (nonempty : slot.count ≠ .exactly 0)
    (rest : List Slot) :
    nameIn (slot :: rest) 0 = some slot.name := by
  cases counted : slot.count with
  | unbounded => exact nameIn_cons_of_unbounded counted rest 0
  | exactly number =>
      apply nameIn_cons_of_lt counted
      apply Nat.pos_of_ne_zero
      rintro rfl
      exact nonempty counted

/-- A long slot binds all positions that are told apart, and one more. -/
theorem binds_of_long
    {slot : Slot}
    (long : slot.count.isLong = true)
    (rest : List Slot) :
    Binds (nameIn (slot :: rest)) slot.name 0 (longestRun + 1) := by
  intro position _ inside
  cases counted : slot.count with
  | unbounded => exact nameIn_cons_of_unbounded counted rest position
  | exactly number =>
      rw [counted, Count.isLong_exactly, decide_eq_true_eq] at long
      exact nameIn_cons_of_lt counted (by omega) rest

theorem binds_of_exactly
    {slot : Slot}
    {number : Nat}
    (counted : slot.count = .exactly number)
    (rest : List Slot) :
    Binds (nameIn (slot :: rest)) slot.name 0 number :=
  fun _ _ inside => nameIn_cons_of_lt counted (by omega) rest

theorem nameIn_cons_congr
    {left right : List Slot}
    (same : ∀ position, nameIn left position = nameIn right position)
    (slot : Slot)
    (position : Nat) :
    nameIn (slot :: left) position = nameIn (slot :: right) position := by
  simp only [nameIn, same]

theorem nameIn_reserved (slots : List Slot) (position : Nat) :
    nameIn (reserved slots) position = nameIn slots position := by
  induction slots generalizing position with
  | nil => rfl
  | cons slot rest hypothesis =>
      by_cases empty : slot.count = .exactly 0
      · rw [reserved_cons_of_empty empty, hypothesis, nameIn_cons_of_empty empty]
      · rw [reserved_cons_of_nonempty empty]
        exact nameIn_cons_congr hypothesis slot position

/-- Two slots of one name bind the positions that one slot with both counts binds. -/
theorem nameIn_cons_cons_of_same
    {first second : Slot}
    (same : first.name = second.name)
    (rest : List Slot)
    (position : Nat) :
    nameIn (first :: second :: rest) position =
      nameIn (⟨first.name, first.count.plus second.count⟩ :: rest) position := by
  cases counted : first.count with
  | unbounded => simp [nameIn, counted]
  | exactly number =>
      rcases Nat.lt_or_ge position number with inside | behind
      · rw [nameIn_cons_of_lt counted inside]
        cases following : second.count with
        | unbounded => simp [nameIn]
        | exactly more => simp [nameIn, Nat.lt_add_right more inside]
      · have notInside : ¬ position < number := Nat.not_lt.mpr behind
        cases following : second.count with
        | unbounded => simp [nameIn, counted, following, notInside, same]
        | exactly more =>
            have split : position < number + more ↔ position - number < more := by omega
            simp only [nameIn, counted, following, notInside, if_false, Count.plus_exactly, split,
              same, Nat.sub_add_eq]

theorem nameIn_merge (slots : List Slot) (position : Nat) :
    nameIn (merge slots) position = nameIn slots position := by
  induction slots generalizing position with
  | nil => rfl
  | cons slot rest hypothesis =>
      have whole := nameIn_cons_congr hypothesis slot position
      cases merged : merge rest with
      | nil => rw [← whole, merged, merge, merged]
      | cons next others =>
          rw [merged] at whole
          rw [← whole, merge, merged]
          dsimp only
          split
          · next same => rw [nameIn_cons_cons_of_same same]
          · rfl

/-! ## Separated slots -/

/-- No slot is empty, and neighbours differ in name. -/
structure Separated (slots : List Slot) : Prop where
  nonempty : ∀ slot ∈ slots, slot.count ≠ .exactly 0
  neighbours : slots.IsChain fun first second => first.name ≠ second.name

theorem Separated.tail
    {slot : Slot}
    {rest : List Slot}
    (separated : Separated (slot :: rest)) :
    Separated rest where
  nonempty := fun member present =>
    separated.nonempty member (List.mem_cons_of_mem slot present)
  neighbours := separated.neighbours.tail

/-- Behind a slot comes another name or none. -/
theorem Separated.nameIn_rest_ne
    {slot : Slot}
    {rest : List Slot}
    (separated : Separated (slot :: rest)) :
    nameIn rest 0 ≠ some slot.name := by
  cases rest with
  | nil => simp
  | cons next others =>
      have nonempty : next.count ≠ .exactly 0 := separated.nonempty next (by simp)
      have different : slot.name ≠ next.name :=
        (List.isChain_cons_cons.mp separated.neighbours).1
      rw [nameIn_cons_zero nonempty]
      simpa using Ne.symm different

theorem separated_merge
    {slots : List Slot}
    (nonempty : ∀ slot ∈ slots, slot.count ≠ .exactly 0) :
    Separated (merge slots) := by
  induction slots with
  | nil => exact ⟨by simp, List.isChain_nil⟩
  | cons slot rest hypothesis =>
      obtain ⟨own, others⟩ := List.forall_mem_cons.mp nonempty
      have following := hypothesis others
      cases merged : merge rest with
      | nil =>
          rw [merge, merged]
          exact ⟨by simpa using own, List.isChain_singleton _⟩
      | cons next others =>
          rw [merged] at following
          rw [merge, merged]
          dsimp only
          split
          · next same =>
              refine ⟨?_, following.neighbours.imp_head fun different => ?_⟩
              · exact List.forall_mem_cons.mpr
                  ⟨Count.plus_ne_zero own next.count, following.tail.nonempty⟩
              · exact same ▸ different
          · next different =>
              exact ⟨List.forall_mem_cons.mpr ⟨own, following.nonempty⟩,
                List.isChain_cons_cons.mpr ⟨different, following.neighbours⟩⟩

/-! ## First runs -/

/-- The first slot of a separated list is the first run of its name. -/
theorem firstRun_cons_self
    {slot : Slot}
    {rest : List Slot}
    {number : Nat}
    (separated : Separated (slot :: rest))
    (counted : slot.count = .exactly number)
    (short : number ≤ longestRun) :
    FirstRun (nameIn (slot :: rest)) slot.name 0 number where
  bound := nameIn_cons_zero (separated.nonempty slot List.mem_cons_self) rest
  least := fun position before => absurd before (Nat.not_lt_zero position)
  told := by
    have positive : number ≠ 0 := by
      rintro rfl
      exact separated.nonempty slot List.mem_cons_self counted
    omega
  counted := by
    intro length equal
    obtain rfl : number = length := by exact_mod_cast equal
    refine ⟨binds_of_exactly counted rest, ?_⟩
    have behind := nameIn_cons_add counted rest 0
    rw [Nat.add_zero] at behind
    rw [Nat.zero_add, behind]
    exact separated.nameIn_rest_ne
  unbounded := fun endless => absurd endless (by simp [unboundedCount])

theorem firstRun_cons_of_long
    {slot : Slot}
    (long : slot.count.isLong = true)
    (rest : List Slot) :
    FirstRun (nameIn (slot :: rest)) slot.name 0 unboundedCount where
  bound := binds_of_long long rest 0 (Nat.le_refl 0) (Nat.succ_pos _)
  least := fun position before => absurd before (Nat.not_lt_zero position)
  told := Or.inl rfl
  counted := fun length endless => absurd endless (by simp [unboundedCount])
  unbounded := fun _ => binds_of_long long rest

/-- The offset of the first run of a name is where the name is first met. -/
theorem exists_firstRun
    {slots : List Slot}
    {name : Text}
    {run : Run}
    (separated : Separated slots)
    (first : Run.first? name (cut slots) = some run) :
    ∃ start : Nat, Run.offset name (cut slots) = start ∧
      FirstRun (nameIn slots) name start run.count := by
  induction slots with
  | nil => simp [Run.first?] at first
  | cons slot rest hypothesis =>
      by_cases long : slot.count.isLong = true
      · rw [cut_cons_of_long long] at first ⊢
        by_cases same : slot.name = name
        · rw [Run.first?_cons_of_same same] at first
          cases first
          subst same
          exact ⟨0, Run.offset_cons_of_same rfl [], firstRun_cons_of_long long rest⟩
        · simp [Run.first?, same] at first
      cases counted : slot.count with
      | unbounded => simp [counted] at long
      | exactly number =>
          have short : number ≤ longestRun := by simpa [counted] using long
          rw [cut_cons_of_short (by simpa using long), counted, Count.toInt_exactly] at first ⊢
          by_cases same : slot.name = name
          · rw [Run.first?_cons_of_same same] at first
            cases first
            subst same
            exact ⟨0, Run.offset_cons_of_same rfl _,
              firstRun_cons_self separated counted short⟩
          · rw [Run.first?_cons_of_ne same] at first
            obtain ⟨start, offset, firstRun⟩ := hypothesis separated.tail first
            refine ⟨number + start, ?_, FirstRun.shift ?_ (binds_of_exactly counted rest) same⟩
            · rw [Run.offset_cons_of_ne same, offset]
              simp
            · simpa only [nameIn_cons_add counted] using firstRun

/-! ## Names that have a run -/

/-- A run that is too long to be counted does not begin before the end of a short slot that another
name follows. -/
theorem le_of_binds_long
    {slot : Slot}
    {rest : List Slot}
    {number start : Nat}
    {name : Text}
    (different : nameIn rest 0 ≠ some slot.name)
    (counted : slot.count = .exactly number)
    (short : number ≤ longestRun)
    (binds : Binds (nameIn (slot :: rest)) name start (longestRun + 1)) :
    number ≤ start := by
  by_contra before
  have own := binds start (Nat.le_refl start) (by omega)
  have behind := binds number (by omega) (by omega)
  rw [nameIn_cons_of_lt counted (by omega)] at own
  have next := nameIn_cons_add counted rest 0
  rw [Nat.add_zero] at next
  rw [next, ← own] at behind
  exact different behind

/-- Behind a short slot, the same positions are reached as in the rest alone. -/
theorem reached_cons_add
    {slot : Slot}
    {rest : List Slot}
    {number : Nat}
    (different : nameIn rest 0 ≠ some slot.name)
    (counted : slot.count = .exactly number)
    (short : number ≤ longestRun)
    (position : Nat) :
    Reached (nameIn (slot :: rest)) (number + position) ↔ Reached (nameIn rest) position := by
  constructor
  · intro reached name start binds
    have shifted : Binds (nameIn (slot :: rest)) name (number + start) (longestRun + 1) :=
      Binds.shift (by simpa only [nameIn_cons_add counted] using binds)
    have before := reached name (number + start) shifted
    omega
  · intro reached name start binds
    obtain ⟨offset, rfl⟩ :=
      Nat.exists_eq_add_of_le (le_of_binds_long different counted short binds)
    have unshifted := binds.unshift
    simp only [nameIn_cons_add counted] at unshifted
    have before := reached name offset unshifted
    omega

/-- A name has a run exactly when one of its positions is reached. -/
theorem isSome_first?_cut_iff
    {slots : List Slot}
    (separated : Separated slots)
    (name : Text) :
    (Run.first? name (cut slots)).isSome = true ↔
      ∃ position, nameIn slots position = some name ∧ Reached (nameIn slots) position := by
  induction slots with
  | nil => simp [Run.first?]
  | cons slot rest hypothesis =>
      by_cases same : slot.name = name
      · have named : (Run.first? name (cut (slot :: rest))).isSome = true := by
          unfold cut
          split <;> simp [Run.first?, same]
        have nonempty := separated.nonempty slot List.mem_cons_self
        have reached : Reached (nameIn (slot :: rest)) 0 := fun _ start _ =>
          Nat.lt_of_lt_of_le (Nat.succ_pos longestRun) (Nat.le_add_left _ start)
        exact iff_of_true named ⟨0, same ▸ nameIn_cons_zero nonempty rest, reached⟩
      by_cases long : slot.count.isLong = true
      · rw [cut_cons_of_long long, Run.first?_cons_of_ne same]
        refine iff_of_false (by simp [Run.first?]) ?_
        rintro ⟨position, bound, reached⟩
        have inside := reached slot.name 0 (binds_of_long long rest)
        have own := binds_of_long long rest position (Nat.zero_le position) inside
        exact same (Option.some.inj (own.symm.trans bound))
      cases counted : slot.count with
      | unbounded => simp [counted] at long
      | exactly number =>
          have short : number ≤ longestRun := by simpa [counted] using long
          rw [cut_cons_of_short (by simpa using long), Run.first?_cons_of_ne same,
            hypothesis separated.tail]
          constructor
          · rintro ⟨position, bound, reached⟩
            exact ⟨number + position, by rwa [nameIn_cons_add counted],
              (reached_cons_add separated.nameIn_rest_ne counted short position).mpr reached⟩
          · rintro ⟨position, bound, reached⟩
            rcases Nat.lt_or_ge position number with inside | behind
            · rw [nameIn_cons_of_lt counted inside] at bound
              exact absurd (Option.some.inj bound) same
            · obtain ⟨offset, rfl⟩ := Nat.exists_eq_add_of_le behind
              rw [nameIn_cons_add counted] at bound
              exact ⟨offset, bound,
                (reached_cons_add separated.nameIn_rest_ne counted short offset).mp reached⟩

/-! ## Positions of a table -/

/-- The name that a position is bound to, unless it is out of range. -/
def boundName (table : SlotTable) (position : Nat) : Option Text :=
  (table.nameAt position).toOption

theorem boundName_eq_nameIn (table : SlotTable) : table.boundName = nameIn table.items := by
  funext position
  unfold boundName nameAt nameFor
  dsimp only
  cases nameIn table.items position <;> rfl

theorem nameIn_merge_reserved (table : SlotTable) :
    nameIn (merge (reserved table.items)) = table.boundName := by
  funext position
  rw [boundName_eq_nameIn, nameIn_merge, nameIn_reserved]

theorem separated_merge_reserved (table : SlotTable) :
    Separated (merge (reserved table.items)) :=
  separated_merge fun _ member => count_ne_of_mem_reserved member

/-- The first merged run of a name is the first run of positions bound to it. -/
theorem exists_firstRun_mergedRuns
    {table : SlotTable}
    {name : Text}
    {run : Run}
    (first : Run.first? name table.mergedRuns = some run) :
    ∃ start : Nat, Run.offset name table.mergedRuns = start ∧
      FirstRun table.boundName name start run.count := by
  rw [← nameIn_merge_reserved]
  exact exists_firstRun (separated_merge_reserved table) first

/-- A name has a merged run exactly when the walk reaches a position bound to it. -/
theorem isSome_first?_mergedRuns_iff (table : SlotTable) (name : Text) :
    (Run.first? name table.mergedRuns).isSome = true ↔
      ∃ position, table.boundName position = some name ∧ Reached table.boundName position := by
  rw [← nameIn_merge_reserved]
  exact isSome_first?_cut_iff (separated_merge_reserved table) name

end SlotTable
end Handbook
