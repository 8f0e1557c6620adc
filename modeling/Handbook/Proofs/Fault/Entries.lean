import Handbook.Fault.Basic
import Mathlib.Data.List.Induction

/-!
# Entries by name

The extra options of a fault are entries by name, in the order in which the names
were first set. An entry takes the place of the one that its name has, or comes
last. So the latest entry of a name is the one that counts, and it does not matter
whether entries are set one after another or are put together first.
-/

namespace Handbook

variable {entries base : List (Text × Value)} {entry first second : Text × Value} {name : Text}

/-! ## Setting an entry -/

/-- The names that have an entry. -/
def entryNames (entries : List (Text × Value)) : List Text :=
  entries.map Prod.fst

/-- The entries with one in the place of each other of its name. -/
def overwrite (entry : Text × Value) (entries : List (Text × Value)) : List (Text × Value) :=
  entries.map fun other => if other.1 = entry.1 then entry else other

theorem setEntry_of_mem (present : entry.1 ∈ entryNames entries) :
    setEntry entries entry = overwrite entry entries := by
  obtain ⟨other, member, same⟩ := List.mem_map.mp present
  have found : (entries.any fun other => other.1 == entry.1) = true :=
    List.any_eq_true.mpr ⟨other, member, beq_iff_eq.mpr same⟩
  simp [setEntry, found, overwrite]

theorem setEntry_of_not_mem (missing : entry.1 ∉ entryNames entries) :
    setEntry entries entry = entries ++ [entry] := by
  have absent : (entries.any fun other => other.1 == entry.1) = false := by
    rw [List.any_eq_false]
    intro other member same
    exact missing (List.mem_map.mpr ⟨other, member, beq_iff_eq.mp same⟩)
  simp [setEntry, absent]

@[simp] theorem entryNames_overwrite (entry : Text × Value) (entries : List (Text × Value)) :
    entryNames (overwrite entry entries) = entryNames entries := by
  unfold entryNames overwrite
  rw [List.map_map]
  apply List.map_congr_left
  intro other _
  dsimp only [Function.comp_apply]
  split
  · next same => exact same.symm
  · rfl

theorem overwrite_of_not_mem (missing : entry.1 ∉ entryNames entries) :
    overwrite entry entries = entries := by
  have kept : ∀ other ∈ entries, (if other.1 = entry.1 then entry else other) = other := by
    intro other member
    exact if_neg fun same => missing (List.mem_map.mpr ⟨other, member, same⟩)
  exact (List.map_congr_left kept).trans (List.map_id' entries)

theorem overwrite_overwrite_of_same (same : first.1 = second.1) (entries : List (Text × Value)) :
    overwrite second (overwrite first entries) = overwrite second entries := by
  unfold overwrite
  rw [List.map_map]
  apply List.map_congr_left
  intro other _
  dsimp only [Function.comp_apply]
  rw [← same]
  split <;> simp_all

theorem overwrite_comm (different : first.1 ≠ second.1) (entries : List (Text × Value)) :
    overwrite second (overwrite first entries) = overwrite first (overwrite second entries) := by
  unfold overwrite
  rw [List.map_map, List.map_map]
  apply List.map_congr_left
  intro other _
  dsimp only [Function.comp_apply]
  split <;> split <;> simp_all

theorem mem_entryNames_setEntry :
    name ∈ entryNames (setEntry entries entry) ↔ name ∈ entryNames entries ∨ name = entry.1 := by
  by_cases present : entry.1 ∈ entryNames entries
  · rw [setEntry_of_mem present, entryNames_overwrite, or_iff_left_of_imp]
    rintro rfl
    exact present
  · rw [setEntry_of_not_mem present]
    simp [entryNames]

/-- Of two entries of one name that are set, the later one stays. -/
theorem setEntry_setEntry_of_same (same : first.1 = second.1) (entries : List (Text × Value)) :
    setEntry (setEntry entries first) second = setEntry entries second := by
  have set : second.1 ∈ entryNames (setEntry entries first) :=
    mem_entryNames_setEntry.mpr (.inr same.symm)
  rw [setEntry_of_mem set]
  by_cases present : first.1 ∈ entryNames entries
  · rw [setEntry_of_mem present, setEntry_of_mem (same ▸ present), overwrite_overwrite_of_same same]
  · have missing : second.1 ∉ entryNames entries := same ▸ present
    rw [setEntry_of_not_mem present, setEntry_of_not_mem missing]
    unfold overwrite
    rw [List.map_append, ← overwrite, overwrite_of_not_mem missing]
    simp [same]

/-- An entry whose name is there already can be set before or after one of another name. -/
theorem setEntry_comm
    (present : second.1 ∈ entryNames entries)
    (different : first.1 ≠ second.1) :
    setEntry (setEntry entries first) second = setEntry (setEntry entries second) first := by
  have still : second.1 ∈ entryNames (setEntry entries first) :=
    mem_entryNames_setEntry.mpr (.inl present)
  rw [setEntry_of_mem still, setEntry_of_mem present]
  by_cases there : first.1 ∈ entryNames entries
  · have thereStill : first.1 ∈ entryNames (overwrite second entries) := by
      rwa [entryNames_overwrite]
    rw [setEntry_of_mem there, setEntry_of_mem thereStill, overwrite_comm different]
  · have missing : first.1 ∉ entryNames (overwrite second entries) := by
      rwa [entryNames_overwrite]
    rw [setEntry_of_not_mem there, setEntry_of_not_mem missing]
    unfold overwrite
    simp [different]

/-! ## Setting several entries -/

/-- Where an entry has its name already, setting it and then others that it overwrites is the same
as setting it at last. -/
theorem foldl_overwrite_of_mem (present : entry.1 ∈ entryNames base) :
    (overwrite entry entries).foldl setEntry (setEntry base entry) =
      setEntry (entries.foldl setEntry base) entry := by
  induction entries generalizing base with
  | nil => rfl
  | cons other rest hypothesis =>
      have still : entry.1 ∈ entryNames (setEntry base other) :=
        mem_entryNames_setEntry.mpr (.inl present)
      rw [List.foldl_cons, ← hypothesis still]
      unfold overwrite
      rw [List.map_cons, List.foldl_cons]
      split
      · next same =>
          rw [setEntry_setEntry_of_same rfl, setEntry_setEntry_of_same same]
      · next different => rw [setEntry_comm present different]

/-- Entries that one entry has overwritten are set like those it comes after. -/
theorem foldl_overwrite (present : entry.1 ∈ entryNames entries) (base : List (Text × Value)) :
    (overwrite entry entries).foldl setEntry base =
      setEntry (entries.foldl setEntry base) entry := by
  induction entries generalizing base with
  | nil => exact absurd present List.not_mem_nil
  | cons other rest hypothesis =>
      by_cases same : other.1 = entry.1
      · have first : overwrite entry (other :: rest) = entry :: overwrite entry rest := by
          simp [overwrite, same]
        have there : entry.1 ∈ entryNames (setEntry base other) :=
          mem_entryNames_setEntry.mpr (.inr same.symm)
        rw [first, List.foldl_cons, List.foldl_cons, ← foldl_overwrite_of_mem there,
          setEntry_setEntry_of_same same]
      · have first : overwrite entry (other :: rest) = other :: overwrite entry rest := by
          simp [overwrite, same]
        have behind : entry.1 ∈ entryNames rest :=
          (List.mem_cons.mp present).resolve_left (Ne.symm same)
        rw [first, List.foldl_cons, List.foldl_cons, hypothesis behind]

/-- Setting an entry among others that are set is the same as setting it after them. -/
theorem foldl_setEntry
    (entries : List (Text × Value))
    (entry : Text × Value)
    (base : List (Text × Value)) :
    (setEntry entries entry).foldl setEntry base =
      setEntry (entries.foldl setEntry base) entry := by
  by_cases present : entry.1 ∈ entryNames entries
  · rw [setEntry_of_mem present, foldl_overwrite present]
  · rw [setEntry_of_not_mem present, List.foldl_append]
    rfl

/-- Entries that are set after others are set with them. -/
theorem foldl_foldl_setEntry (later entries base : List (Text × Value)) :
    (later.foldl setEntry entries).foldl setEntry base =
      later.foldl setEntry (entries.foldl setEntry base) := by
  induction later generalizing entries with
  | nil => rfl
  | cons entry rest hypothesis => rw [List.foldl_cons, hypothesis, foldl_setEntry, List.foldl_cons]

/-- Entries of different names that are set where nothing is yet are those that were set. -/
theorem foldl_setEntry_nil (distinct : (entryNames entries).Nodup) :
    entries.foldl setEntry [] = entries := by
  induction entries using List.reverseRecOn with
  | nil => rfl
  | append_singleton entries entry hypothesis =>
      rw [entryNames, List.map_append, List.nodup_append] at distinct
      obtain ⟨others, _, apart⟩ := distinct
      have missing : entry.1 ∉ entryNames entries :=
        fun present => apart _ present entry.1 List.mem_cons_self rfl
      rw [List.foldl_append, hypothesis others]
      exact setEntry_of_not_mem missing

/-- Setting an entry gives no name a second one. -/
theorem nodup_setEntry
    (distinct : (entryNames entries).Nodup)
    (entry : Text × Value) :
    (entryNames (setEntry entries entry)).Nodup := by
  by_cases present : entry.1 ∈ entryNames entries
  · rwa [setEntry_of_mem present, entryNames_overwrite]
  · rw [setEntry_of_not_mem present, entryNames, List.map_append]
    refine List.nodup_append.mpr ⟨distinct, List.pairwise_singleton _ _, ?_⟩
    intro name named other single same
    cases List.mem_singleton.mp single
    exact present (same ▸ named)

theorem nodup_foldl_setEntry
    (distinct : (entryNames base).Nodup)
    (entries : List (Text × Value)) :
    (entryNames (entries.foldl setEntry base)).Nodup := by
  induction entries generalizing base with
  | nil => exact distinct
  | cons entry rest hypothesis => exact hypothesis (nodup_setEntry distinct entry)

/-! ## What is there afterwards -/

theorem mem_of_mem_setEntry (member : first ∈ setEntry entries second) :
    first ∈ entries ∨ first = second := by
  by_cases present : second.1 ∈ entryNames entries
  · rw [setEntry_of_mem present] at member
    obtain ⟨other, among, rfl⟩ := List.mem_map.mp member
    split
    · exact .inr rfl
    · exact .inl among
  · rw [setEntry_of_not_mem present] at member
    simpa using member

/-- What is among entries that were set was there or was set. -/
theorem mem_of_mem_foldl_setEntry
    (member : entry ∈ entries.foldl setEntry base) :
    entry ∈ base ∨ entry ∈ entries := by
  induction entries generalizing base with
  | nil => exact .inl member
  | cons other rest hypothesis =>
      rcases hypothesis member with among | behind
      · rcases mem_of_mem_setEntry among with there | rfl
        · exact .inl there
        · exact .inr List.mem_cons_self
      · exact .inr (List.mem_cons_of_mem other behind)

/-! ## The latest entry of a name -/

/-- The value of the last entry of a name. -/
def latest? (entries : List (Text × Value)) (name : Text) : Option Value :=
  entries.reverse.lookup name

theorem latest?_concat (entries : List (Text × Value)) (entry : Text × Value) (name : Text) :
    latest? (entries ++ [entry]) name =
      if name = entry.1 then some entry.2 else latest? entries name := by
  unfold latest?
  rw [List.reverse_append, List.reverse_singleton, List.singleton_append, List.lookup_cons]
  by_cases same : name = entry.1
  · simp [same]
  · have other : (name == entry.1) = false := beq_eq_false_iff_ne.mpr same
    simp [same, other]

theorem overwrite_concat (entry other : Text × Value) (entries : List (Text × Value)) :
    overwrite entry (entries ++ [other]) =
      overwrite entry entries ++ [if other.1 = entry.1 then entry else other] := by
  simp [overwrite]

theorem latest?_overwrite_of_ne (different : name ≠ entry.1) (entries : List (Text × Value)) :
    latest? (overwrite entry entries) name = latest? entries name := by
  induction entries using List.reverseRecOn with
  | nil => rfl
  | append_singleton entries other hypothesis =>
      rw [overwrite_concat, latest?_concat, latest?_concat, hypothesis]
      split
      · next same => rw [if_neg (same ▸ different)]
      · rfl

theorem latest?_overwrite_of_mem (present : entry.1 ∈ entryNames entries) :
    latest? (overwrite entry entries) entry.1 = some entry.2 := by
  induction entries using List.reverseRecOn with
  | nil => exact absurd present List.not_mem_nil
  | append_singleton entries other hypothesis =>
      rw [overwrite_concat, latest?_concat]
      by_cases same : other.1 = entry.1
      · simp [same]
      · have before : entry.1 ∈ entryNames entries := by
          simpa [entryNames, Ne.symm same] using present
        simp [same, Ne.symm same, hypothesis before]

theorem latest?_setEntry (entries : List (Text × Value)) (entry : Text × Value) (name : Text) :
    latest? (setEntry entries entry) name =
      if name = entry.1 then some entry.2 else latest? entries name := by
  by_cases present : entry.1 ∈ entryNames entries
  · rw [setEntry_of_mem present]
    split
    · next same => rw [same, latest?_overwrite_of_mem present]
    · next different => rw [latest?_overwrite_of_ne different]
  · rw [setEntry_of_not_mem present, latest?_concat]

/-- The latest entry of a name is one of those that are set, if the name is among them. -/
theorem latest?_foldl_setEntry (entries base : List (Text × Value)) (name : Text) :
    latest? (entries.foldl setEntry base) name = (latest? entries name).or (latest? base name) := by
  induction entries using List.reverseRecOn with
  | nil => rfl
  | append_singleton entries entry hypothesis =>
      rw [List.foldl_append, List.foldl_cons, List.foldl_nil, latest?_setEntry, latest?_concat,
        hypothesis]
      split <;> rfl

end Handbook
