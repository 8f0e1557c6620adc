import Handbook.Command.Registry
import Handbook.Proofs.Offers
import Mathlib.Data.List.Pairwise

/-!
# The names of commands

Present and former symbols share one namespace. A command is registered only if
it keeps apart from every command that is there already, so the commands of a
registry keep apart from one another, whatever was offered to it and refused.
Nothing keeps a command apart from itself: its former symbol may be the present
one.
-/

namespace Handbook

namespace Value

/-- Only a text equals a text. -/
theorem equals_str_iff {value : Value} {text : Text} :
    value.equals (.str text) = true ↔ value = .str text := by
  cases value <;> simp [equals, equalsPlain, asInt?]

theorem eq_unset_of_equals {value : Value} (equal : value.equals .unset = true) :
    value = .unset := by
  cases value <;> simp_all [equals, equalsPlain, asInt?]

theorem text?_eq_some_iff {value : Value} {text : Text} :
    value.text? = some text ↔ value = .str text := by
  cases value <;> simp [text?]

end Value

namespace Registry

variable {registry after : Registry} {command : Command}

/-! ## Former symbols -/

theorem wentBy_str_iff {former : Text} :
    wentBy command (.str former) = true ↔ command.formerly = .str former := by
  rw [wentBy, Bool.and_eq_true, Value.equals_str_iff, and_iff_right_iff_imp]
  intro named
  rw [named]
  rfl

/-- No command went by the mark of a symbol that was not given. -/
@[simp] theorem wentBy_unset (command : Command) : wentBy command .unset = false := by
  rw [Bool.eq_false_iff]
  intro went
  obtain ⟨given, equal⟩ := Bool.and_eq_true_iff.mp went
  rw [Value.eq_unset_of_equals equal] at given
  cases given

theorem contains_iff {symbol : Text} :
    registry.contains symbol = true ↔ ∃ entry ∈ registry.entries, entry.1 = symbol := by
  simp [contains]

/-- The symbol that takes the place of a former one is registered. -/
theorem contains_of_formerly
    {former : Value}
    {current : Text}
    (renamed : registry.formerly former = some current) :
    registry.contains current = true := by
  obtain ⟨entry, found, rfl⟩ := Option.map_eq_some_iff.mp renamed
  exact contains_iff.mpr ⟨entry, List.mem_of_find?_eq_some found, rfl⟩

/-! ## Accepted commands -/

/-- The entry of a command, under its own symbol. -/
def entryOf (command : Command) : Text × Command :=
  (command.symbol.text?.getD [], command)

/-- A command that an empty registry accepts: it has a symbol, and can be looked up by its former
one. -/
structure Registrable (command : Command) : Prop where
  symbol_eq : checkSymbol command = .ok (entryOf command).1
  former_fit : command.formerly.unhashableKind? = none

theorem checkSymbol_eq_ok
    {symbol : Text}
    (accepted : checkSymbol command = .ok symbol) :
    command.symbol = .str symbol := by
  unfold checkSymbol at accepted
  split at accepted
  · next text named =>
      split at accepted
      · cases accepted
      · cases accepted
        exact named
  · cases accepted

theorem symbol_entryOf (registrable : Registrable command) :
    command.symbol = .str (entryOf command).1 :=
  checkSymbol_eq_ok registrable.symbol_eq

/-- Two entries of a registry keep apart: their symbols differ, the symbol of neither is the former
one of the other, and the later one's former symbol is not that of the earlier one. -/
structure Apart (earlier later : Text × Command) : Prop where
  symbol_ne : earlier.1 ≠ later.1
  earlier_former_ne : earlier.2.formerly ≠ .str later.1
  later_former_ne : later.2.formerly ≠ .str earlier.1
  formers_differ : wentBy earlier.2 later.2.formerly = false

/-- A symbol is free when no command is registered under it and none went by it. -/
theorem isTaken_eq_false_iff {former : Value} :
    registry.isTaken former = false ↔
      ∀ entry ∈ registry.entries, former ≠ .str entry.1 ∧ wentBy entry.2 former = false := by
  have present : former.text?.any registry.contains = false ↔
      ∀ entry ∈ registry.entries, former ≠ .str entry.1 := by
    rw [Option.any_eq_false]
    constructor
    · intro unregistered entry member named
      have absent := unregistered entry.1 (Value.text?_eq_some_iff.mpr named)
      rw [contains_iff.mpr ⟨entry, member, rfl⟩] at absent
      cases absent
    · intro unnamed text named
      rw [Bool.eq_false_iff]
      intro registered
      obtain ⟨entry, member, rfl⟩ := contains_iff.mp registered
      exact unnamed entry member (Value.text?_eq_some_iff.mp named)
  have past : (registry.formerly former).isSome = false ↔
      ∀ entry ∈ registry.entries, wentBy entry.2 former = false := by
    simp [formerly]
  rw [isTaken, Bool.or_eq_false_iff, present, past]
  exact forall₂_and.symm

/-- A former symbol is accepted when it can be looked up and is free; the mark of a symbol that was
not given always is. -/
theorem checkFormer_eq_ok_iff :
    registry.checkFormer command = .ok () ↔
      command.formerly.unhashableKind? = none ∧ registry.isTaken command.formerly = false := by
  unfold checkFormer
  split
  · next marked =>
      have unset : command.formerly = .unset := Value.isUnset_iff.mp marked
      simp [unset, isTaken_eq_false_iff, Value.unhashableKind?]
  · split
    · next unfit => simp [unfit]
    · next fit =>
        cases registry.isTaken command.formerly <;> simp [fit]

/-- A command is accepted when it is registrable and keeps apart from all that are registered. It is
then the last entry. -/
theorem insert_eq_ok_iff :
    registry.insert command = .ok after ↔
      Registrable command ∧ (∀ entry ∈ registry.entries, Apart entry (entryOf command)) ∧
        after = ⟨registry.entries ++ [entryOf command]⟩ := by
  constructor
  · intro accepted
    obtain ⟨symbol, declared, afterSymbol⟩ := exists_of_bind_eq_ok accepted
    have entry : entryOf command = (symbol, command) := by
      rw [entryOf, checkSymbol_eq_ok declared]
      rfl
    by_cases taken : registry.isTaken (.str symbol) = true
    · rw [if_pos taken] at afterSymbol
      cases afterSymbol
    rw [if_neg taken] at afterSymbol
    obtain ⟨_, former, result⟩ := exists_of_bind_eq_ok afterSymbol
    obtain ⟨fit, formerFree⟩ := checkFormer_eq_ok_iff.mp former
    -- The two searches, for the symbol and for the former symbol, give the parts of `Apart`.
    have symbolFree := isTaken_eq_false_iff.mp (Bool.eq_false_iff.mpr taken)
    rw [isTaken_eq_false_iff] at formerFree
    cases result
    rw [entry]
    refine ⟨⟨by rw [declared, entry], fit⟩, ?_, rfl⟩
    intro entry member
    obtain ⟨symbolNe, notFormer⟩ := symbolFree entry member
    obtain ⟨formerNe, formersDiffer⟩ := formerFree entry member
    refine ⟨?_, ?_, formerNe, formersDiffer⟩
    · rintro rfl
      exact symbolNe rfl
    · intro named
      rw [wentBy_str_iff.mpr named] at notFormer
      cases notFormer
  · rintro ⟨registrable, apart, rfl⟩
    have symbolFree : registry.isTaken (.str (entryOf command).1) = false := by
      rw [isTaken_eq_false_iff]
      intro entry member
      refine ⟨?_, ?_⟩
      · intro equal
        exact (apart entry member).symbol_ne (by injection equal with equal; exact equal.symm)
      · rw [← Bool.not_eq_true, wentBy_str_iff]
        exact (apart entry member).earlier_former_ne
    have former : registry.checkFormer command = .ok () := by
      rw [checkFormer_eq_ok_iff, isTaken_eq_false_iff]
      exact ⟨registrable.former_fit, fun entry member =>
        ⟨(apart entry member).later_former_ne, (apart entry member).formers_differ⟩⟩
    simp only [insert, registrable.symbol_eq, bind, Except.bind, symbolFree, former]
    rfl

/-! ## Registries that come from the empty one -/

/-- What is kept by whatever is offered to a registry: every command stands under its own symbol, and
no two are in each other's way. -/
structure Sound (registry : Registry) : Prop where
  registrable : ∀ entry ∈ registry.entries, Registrable entry.2 ∧ entry = entryOf entry.2
  apart : registry.entries.Pairwise Apart

theorem sound_empty : Sound {} :=
  ⟨by simp, List.Pairwise.nil⟩

theorem Sound.insert (sound : registry.Sound) (accepted : registry.insert command = .ok after) :
    after.Sound := by
  obtain ⟨registrable, apart, rfl⟩ := insert_eq_ok_iff.mp accepted
  constructor
  · intro entry member
    rcases List.mem_append.mp member with before | added
    · exact sound.registrable entry before
    · rw [List.mem_singleton.mp added]
      exact ⟨registrable, rfl⟩
  · refine List.pairwise_append.mpr ⟨sound.apart, List.pairwise_singleton _ _, ?_⟩
    intro entry member added isAdded
    rw [List.mem_singleton.mp isAdded]
    exact apart entry member

/-- What is offered to a sound registry and accepted leaves it sound. -/
theorem Sound.register
    {after : Registry}
    {offered : Offered Command}
    (sound : registry.Sound)
    (accepted : registry.register offered = .ok after) :
    after.Sound := by
  cases offered with
  | foreign => cases accepted
  | item command => exact sound.insert accepted

/-- Whatever is offered to a registry, it stays sound. -/
theorem Sound.attemptAll (sound : registry.Sound) (offers : List (Offered Command)) :
    (registry.attemptAll offers).Sound :=
  attemptAll_keeps sound (fun _ _ _ before accepted => before.register accepted) offers

/-! ## Two commands have no name in common -/

/-- Two entries of a registry share no name, present or former, that is a text. -/
structure Separate (first second : Text × Command) : Prop where
  symbol_ne : first.1 ≠ second.1
  former_ne : first.2.formerly ≠ .str second.1
  other_former_ne : second.2.formerly ≠ .str first.1
  formers_differ : ∀ former, first.2.formerly = .str former → second.2.formerly ≠ .str former

variable {first second : Text × Command}

theorem Separate.symm (separate : Separate first second) : Separate second first where
  symbol_ne := separate.symbol_ne.symm
  former_ne := separate.other_former_ne
  other_former_ne := separate.former_ne
  formers_differ former named otherNamed := separate.formers_differ former otherNamed named

theorem Apart.separate (apart : Apart first second) : Separate first second where
  symbol_ne := apart.symbol_ne
  former_ne := apart.earlier_former_ne
  other_former_ne := apart.later_former_ne
  formers_differ := by
    intro former named otherNamed
    have went := apart.formers_differ
    rw [otherNamed, wentBy_str_iff.mpr named] at went
    cases went

/-- Any two entries of a sound registry share no name, in whichever order they were added. -/
theorem Sound.separate
    (sound : registry.Sound)
    (member : first ∈ registry.entries)
    (otherMember : second ∈ registry.entries)
    (different : first ≠ second) :
    Separate first second := by
  have : Std.Symm Separate := ⟨fun _ _ => Separate.symm⟩
  exact (sound.apart.imp Apart.separate).forall member otherMember different

/-- What holds of one entry only is found at that entry. -/
theorem find?_eq_some_of_unique
    {holds : Text × Command → Bool}
    (member : first ∈ registry.entries)
    (here : holds first = true)
    (only : ∀ other ∈ registry.entries, holds other = true → other = first) :
    registry.entries.find? holds = some first := by
  cases found : registry.entries.find? holds with
  | none =>
      exact absurd here (by simpa using List.find?_eq_none.mp found first member)
  | some other =>
      rw [only other (List.mem_of_find?_eq_some found) (List.find?_some found)]

/-- A registered symbol is that of one command. -/
theorem Sound.lookup_eq_some_iff (sound : registry.Sound) {symbol : Text} :
    registry.lookup symbol = some command ↔ (symbol, command) ∈ registry.entries := by
  constructor
  · intro found
    obtain ⟨entry, located, rfl⟩ := Option.map_eq_some_iff.mp found
    have same : entry.1 = symbol := by simpa using List.find?_some located
    rw [← same]
    exact List.mem_of_find?_eq_some located
  · intro member
    have located : registry.entries.find? (fun entry => entry.1 == symbol) =
        some (symbol, command) := by
      apply find?_eq_some_of_unique member (by simp)
      intro other otherMember same
      by_contra different
      exact (sound.separate otherMember member different).symbol_ne (by simpa using same)
    rw [lookup, located]
    rfl

/-- Of all commands, only the one registered under a symbol can have gone by that symbol. -/
theorem Sound.eq_of_former_symbol
    (sound : registry.Sound)
    (member : first ∈ registry.entries)
    (otherMember : second ∈ registry.entries)
    (named : second.2.formerly = .str first.1) :
    second = first := by
  by_contra different
  exact (sound.separate otherMember member different).former_ne named

/-- Whatever commands are offered to an empty registry, and whether they are accepted or refused, no
registered symbol is the former symbol of another command, and no command went by the former symbol
of an earlier one. So no registered symbol is answered with a present one, unless its own command
names it as its former symbol: it is answered with itself then. -/
theorem symbols_apart (offers : List (Offered Command)) :
    let registry := ({} : Registry).attemptAll offers
    (∀ entry ∈ registry.entries, ∀ other ∈ registry.entries,
        other.2.formerly = .str entry.1 → other = entry) ∧
      (registry.entries.Pairwise fun earlier later =>
        wentBy earlier.2 later.2.formerly = false) ∧
      ∀ entry ∈ registry.entries,
        registry.formerly (.str entry.1) =
          if wentBy entry.2 (.str entry.1) then some entry.1 else none := by
  intro registry
  have sound : registry.Sound := sound_empty.attemptAll offers
  refine ⟨?_, sound.apart.imp Apart.formers_differ, ?_⟩
  · intro entry member other otherMember named
    exact sound.eq_of_former_symbol member otherMember named
  · intro entry member
    have only : ∀ other ∈ registry.entries, wentBy other.2 (.str entry.1) = true → other = entry :=
      fun other otherMember went =>
        sound.eq_of_former_symbol member otherMember (wentBy_str_iff.mp went)
    split
    · next went =>
        rw [formerly, find?_eq_some_of_unique member went only]
        rfl
    · next notWent =>
        rw [formerly, List.find?_eq_none.mpr, Option.map_none]
        intro other otherMember went
        exact notWent (only other otherMember went ▸ went)

/-- A command is accepted that names its own symbol as its former one, and its symbol is then present
and former at once. -/
theorem formerly_of_own_symbol :
    let seed : Command :=
      { label := "Seed"
        symbol := .str "seed"
        formerly := .str "seed"
        body := .action fun _ => Report.done .okay }
    ∃ registry, ({} : Registry).register (.item seed) = .ok registry ∧
      registry.contains "seed" = true ∧ registry.formerly (.str "seed") = some "seed" := by
  intro seed
  exact ⟨⟨[("seed", seed)]⟩, by rfl, by decide, by decide +kernel⟩

end Registry
end Handbook
