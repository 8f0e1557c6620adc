import Handbook.Proofs.Command.Instances
import Handbook.Proofs.Command.Names
import Handbook.Proofs.Text.Sorting
import Mathlib.Data.List.Find

/-!
# The order of registration

Whether several commands can all be registered is a question about pairs of them
that does not ask which one comes first. A registry that holds them answers by
their names, and a name belongs to one command; what it lists, it lists by
symbol. So the order of registration leaves no trace.
-/

namespace Handbook

namespace Registry

variable {registry first second after : Registry}

/-! ## Registering several commands -/

/-- Commands are all accepted when each is registrable and all of them, with the commands that are
registered already, keep apart in this order. -/
theorem registerAll_eq_ok_iff
    {commands : List Command}
    (apart : registry.entries.Pairwise Apart) :
    registry.registerAll commands = .ok after ↔
      (∀ command ∈ commands, Registrable command) ∧
        (registry.entries ++ commands.map entryOf).Pairwise Apart ∧
        after = ⟨registry.entries ++ commands.map entryOf⟩ := by
  induction commands generalizing registry with
  | nil => simp [apart, eq_comm]
  | cons command rest hypothesis =>
      have moved : registry.entries ++ (command :: rest).map entryOf =
          registry.entries ++ [entryOf command] ++ rest.map entryOf := by simp
      -- The first command joins the registered entries, over which the induction is general.
      rw [moved]
      constructor
      · intro accepted
        obtain ⟨next, inserted, following⟩ := exists_of_bind_eq_ok accepted
        obtain ⟨registrable, keepsApart, rfl⟩ := insert_eq_ok_iff.mp inserted
        have nextApart : (registry.entries ++ [entryOf command]).Pairwise Apart :=
          List.pairwise_append.mpr
            ⟨apart, List.pairwise_singleton _ _, by simpa using keepsApart⟩
        obtain ⟨restRegistrable, whole, rfl⟩ := (hypothesis nextApart).mp following
        exact ⟨List.forall_mem_cons.mpr ⟨registrable, restRegistrable⟩, whole, rfl⟩
      · rintro ⟨registrable, whole, rfl⟩
        obtain ⟨here, others⟩ := List.forall_mem_cons.mp registrable
        have nextApart := (List.pairwise_append.mp whole).1
        have inserted : registry.register (.item command) =
            .ok ⟨registry.entries ++ [entryOf command]⟩ := by
          refine insert_eq_ok_iff.mpr ⟨here, ?_, rfl⟩
          simpa using (List.pairwise_append.mp nextApart).2.2
        have following := (hypothesis nextApart).mpr ⟨others, whole, rfl⟩
        rw [registerAll, List.foldlM_cons, inserted]
        exact following

/-- A registry that has accepted several commands holds them in order, each under its symbol. -/
theorem entries_of_registerAll
    {commands : List Command}
    (registered : registerAll {} commands = .ok first) :
    first.entries = commands.map entryOf ∧ first.Sound := by
  obtain ⟨registrable, apart, rfl⟩ := (registerAll_eq_ok_iff List.Pairwise.nil).mp registered
  refine ⟨rfl, ?_, apart⟩
  intro entry member
  obtain ⟨command, declared, rfl⟩ := List.mem_map.mp member
  exact ⟨registrable command declared, rfl⟩

/-- An entry with a property stands under a symbol when a command that has it is declared with that
symbol. -/
theorem exists_entry_iff
    {commands : List Command}
    (registered : registerAll {} commands = .ok first)
    (property : Command → Prop)
    (symbol : Text) :
    (∃ entry ∈ first.entries, entry.1 = symbol ∧ property entry.2) ↔
      ∃ command ∈ commands, command.symbol = .str symbol ∧ property command := by
  obtain ⟨entries, sound⟩ := entries_of_registerAll registered
  have symbolIff : ∀ entry ∈ first.entries,
      (entry.2.symbol = .str symbol ↔ entry.1 = symbol) := by
    intro entry member
    obtain ⟨registrable, isOwn⟩ := sound.registrable entry member
    rw [symbol_entryOf registrable, ← isOwn]
    simp
  constructor
  · rintro ⟨entry, member, named, holds⟩
    obtain ⟨command, declared, rfl⟩ := List.mem_map.mp (entries ▸ member)
    exact ⟨command, declared, (symbolIff _ member).mpr named, holds⟩
  · rintro ⟨command, declared, named, holds⟩
    have member : entryOf command ∈ first.entries := entries ▸ List.mem_map_of_mem declared
    exact ⟨entryOf command, member, (symbolIff _ member).mp named, holds⟩

/-- A command whose former symbol, if it has one, is a text. -/
def HasPlainFormer (command : Command) : Prop :=
  command.formerly = .unset ∨ ∃ former, command.formerly = .str former

/-- Of commands with plain former symbols, those that share no name keep apart in either order. -/
theorem Separate.apart
    {first second : Text × Command}
    (separate : Separate first second)
    (plain : HasPlainFormer second.2) :
    Apart first second where
  symbol_ne := separate.symbol_ne
  earlier_former_ne := separate.former_ne
  later_former_ne := separate.other_former_ne
  formers_differ := by
    rcases plain with unset | ⟨former, named⟩
    · rw [unset, wentBy_unset]
    · rw [Bool.eq_false_iff, named, ne_eq, wentBy_str_iff]
      intro same
      exact separate.formers_differ former same named

/-- Commands with plain former symbols that are accepted in one order are accepted in any other. -/
theorem exists_registerAll_of_perm
    {commands others : List Command}
    (plain : ∀ command ∈ commands, HasPlainFormer command)
    (permuted : commands.Perm others)
    (registered : registerAll {} commands = .ok first) :
    ∃ second, registerAll {} others = .ok second ∧ first.entries.Perm second.entries := by
  obtain ⟨registrable, apart, rfl⟩ := (registerAll_eq_ok_iff List.Pairwise.nil).mp registered
  have entriesPermuted : (commands.map entryOf).Perm (others.map entryOf) := permuted.map entryOf
  -- Keeping apart asks who came first, sharing no name does not: only the latter can be permuted.
  have separate : (others.map entryOf).Pairwise Separate :=
    (apart.imp Apart.separate).perm entriesPermuted Separate.symm
  have othersApart : (others.map entryOf).Pairwise Apart := by
    refine separate.imp_of_mem ?_
    intro first second _ member keptSeparate
    obtain ⟨command, declared, rfl⟩ := List.mem_map.mp member
    exact keptSeparate.apart (plain command (permuted.mem_iff.mpr declared))
  have othersRegistrable : ∀ command ∈ others, Registrable command :=
    fun command member => registrable command (permuted.mem_iff.mpr member)
  exact ⟨⟨others.map entryOf⟩,
    (registerAll_eq_ok_iff List.Pairwise.nil).mpr ⟨othersRegistrable, othersApart, rfl⟩,
    entriesPermuted⟩

/-! ## Answers -/

theorem Sound.lookup_eq_of_perm
    (sound : first.Sound)
    (permuted : first.entries.Perm second.entries)
    (symbol : Text) :
    second.lookup symbol = first.lookup symbol := by
  have found := List.find?_eq_find?_of_perm
    (p := fun entry : Text × Command => entry.1 == symbol) permuted <| by
      rintro entry ⟨member, here⟩ other ⟨otherMember, there⟩
      by_contra different
      apply (sound.separate member otherMember different).symbol_ne
      rw [beq_iff_eq.mp here, beq_iff_eq.mp there]
  rw [lookup, lookup, found]

theorem Sound.formerly_eq_of_perm
    (sound : first.Sound)
    (permuted : first.entries.Perm second.entries)
    (former : Text) :
    second.formerly (.str former) = first.formerly (.str former) := by
  have found := List.find?_eq_find?_of_perm
    (p := fun entry : Text × Command => wentBy entry.2 (.str former)) permuted <| by
      rintro entry ⟨member, here⟩ other ⟨otherMember, there⟩
      by_contra different
      exact (sound.separate member otherMember different).formers_differ former
        (wentBy_str_iff.mp here) (wentBy_str_iff.mp there)
  rw [formerly, formerly, found]

/-- The symbols of a registry are in ascending order. -/
theorem pairwise_symbols (registry : Registry) :
    registry.symbols.Pairwise fun first second => ¬ second < first :=
  Text.pairwise_mergeSort id (registry.entries.map Prod.fst)

theorem symbols_eq_of_perm (permuted : first.entries.Perm second.entries) :
    second.symbols = first.symbols := by
  apply List.Perm.eq_of_pairwise _ (pairwise_symbols second) (pairwise_symbols first)
  · exact (symbols_perm second).trans ((permuted.symm.map _).trans (symbols_perm first).symm)
  · intro left right _ _ notAbove notBelow
    exact Text.eq_of_not_lt notAbove notBelow

/-- A sound registry lists each symbol once. -/
theorem Sound.pairwise_lt_symbols (sound : registry.Sound) :
    registry.symbols.Pairwise (· < ·) := by
  have nodup : registry.symbols.Nodup := by
    rw [(symbols_perm registry).nodup_iff, List.nodup_iff_pairwise_ne, List.pairwise_map]
    exact sound.apart.imp Apart.symbol_ne
  refine (pairwise_symbols registry).imp₂ ?_ nodup
  intro left right notAbove different
  by_contra notBelow
  exact different (Text.eq_of_not_lt notAbove notBelow)

theorem find_eq_of_lookup
    (same : ∀ symbol, second.lookup symbol = first.lookup symbol)
    (host : Host)
    (settings : Settings)
    (symbol tokens : Value) :
    second.find host settings symbol tokens = first.find host settings symbol tokens := by
  simp only [find, same]

theorem allInstances_eq_of_lookup
    (same : ∀ symbol, second.lookup symbol = first.lookup symbol)
    (sameSymbols : second.symbols = first.symbols)
    (host : Host)
    (settings : Settings) :
    second.allInstances host settings = first.allInstances host settings := by
  have instances : second.instance? host settings = first.instance? host settings := by
    funext symbol
    simp only [instance?, same]
  rw [allInstances, allInstances, sameSymbols, instances]

/-! ## Lists of commands -/

/-- Whether a command is registered under a symbol and shown in lists. -/
def isListed (registry : Registry) (symbol : Text) : Bool :=
  (registry.lookup symbol).any fun command => !command.hidden

/-- The symbols that are shown in lists. -/
def listed (registry : Registry) : List Text :=
  registry.symbols.filter registry.isListed

/-- The line that an instance has in a list of commands, none if its command is hidden. -/
def listLine (invocation : Invocation) : Text :=
  if invocation.command.hidden then [] else invocation.call.symbol ++ ['\n']

theorem flatMap_listLine (host : Host) (settings : Settings) (symbols : List Text) :
    (symbols.filterMap (registry.instance? host settings)).flatMap listLine =
      (symbols.filter registry.isListed).flatMap fun symbol => symbol ++ ['\n'] := by
  induction symbols with
  | nil => rfl
  | cons symbol rest hypothesis =>
      rw [List.filterMap_cons, List.filter_cons]
      cases found : registry.lookup symbol with
      | none => simp [instance?, isListed, found, hypothesis]
      | some command =>
          cases hidden : command.hidden <;>
            simp [instance?, isListed, listLine, found, hidden, hypothesis]

/-- What stands above a list of commands. -/
def usageHeading (host : Host) (settings : Settings) : Text :=
  let name := (settings.resolve host).application.displayed
  "\nUsage: " ++ name ++ " COMMAND [--help]\n" ++
    ("\nInfo: The " ++ name ++ " commands are:\n\n")

/-- The list of concrete commands has one line for each symbol that is shown. -/
theorem displayNames_eq
    (concrete : ∀ entry ∈ registry.entries, IsConcrete entry.2)
    (host : Host) :
    registry.displayNames host =
      Report.write .output (registry.listed.flatMap fun symbol => symbol ++ ['\n']) := by
  have written : ∀ invocation ∈ registry.allInstances host {},
      (if invocation.command.hidden = true then Report.done ()
        else Report.write .output (invocation.call.symbol ++ ['\n'])) =
        Report.write .output (listLine invocation) := by
    intro invocation _
    cases hidden : invocation.command.hidden with
    | false => simp [listLine, hidden]
    | true =>
        simp only [listLine, hidden, if_pos]
        rfl
  rw [displayNames, broadcast_eq concrete, listed, ← flatMap_listLine host {}, ← allInstances]
  exact Report.forEach_write written

theorem displayUsage_eq
    (concrete : ∀ entry ∈ registry.entries, IsConcrete entry.2)
    (host : Host)
    (settings : Settings) :
    registry.displayUsage host settings =
      Report.write .output
        (usageHeading host settings ++ registry.listed.flatMap fun symbol => symbol ++ ['\n']) := by
  unfold displayUsage usageHeading
  dsimp only [Report.bind_eq]
  rw [displayNames_eq concrete, Report.write_andThen_write, Report.write_andThen_write]
  exact congrArg (Report.write .output) (List.append_assoc _ _ _).symm

/-- The symbols shown in lists are those of the commands that are not hidden. -/
theorem Sound.mem_listed_iff (sound : registry.Sound) {symbol : Text} :
    symbol ∈ registry.listed ↔
      ∃ entry ∈ registry.entries, entry.1 = symbol ∧ entry.2.hidden = false := by
  rw [listed, List.mem_filter, isListed, Option.any_eq_true]
  constructor
  · rintro ⟨_, command, found, shown⟩
    exact ⟨(symbol, command), sound.lookup_eq_some_iff.mp found, rfl, by simpa using shown⟩
  · rintro ⟨entry, member, rfl, shown⟩
    refine ⟨mem_symbols_iff.mpr ⟨entry, member, rfl⟩, entry.2, ?_, by simpa using shown⟩
    exact sound.lookup_eq_some_iff.mpr member

/-- Commands with plain former symbols that can be registered in one order can be registered in any
other, and give a registry that finds the same commands, knows the same former symbols, has the same
symbols in ascending order, hands out the same instances in this order, and shows the same list, in
which each symbol that is not hidden has one line. -/
theorem registerAll_perm
    {commands others : List Command}
    (concrete : ∀ command ∈ commands, IsConcrete command)
    (plain : ∀ command ∈ commands, HasPlainFormer command)
    (permuted : commands.Perm others)
    (registered : registerAll {} commands = .ok first) :
    ∃ second, registerAll {} others = .ok second ∧
      (∀ host settings symbol tokens,
        second.find host settings (.str symbol) tokens =
          first.find host settings (.str symbol) tokens) ∧
      (∀ former, second.formerly (.str former) = first.formerly (.str former)) ∧
      (second.symbols = first.symbols ∧ first.symbols.Pairwise (· < ·) ∧
        ∀ symbol, symbol ∈ first.symbols ↔ ∃ command ∈ commands, command.symbol = .str symbol) ∧
      (∀ host settings, ∃ instances : List Invocation,
        instances.map (fun invocation => invocation.call.symbol) = first.symbols ∧
          first.instances host settings = .ok instances ∧
          second.instances host settings = .ok instances ∧
          ∀ action,
            first.broadcast host settings action = Report.forEach action instances ∧
              second.broadcast host settings action = Report.forEach action instances) ∧
      ∃ shown : List Text, shown.Pairwise (· < ·) ∧
        (∀ symbol, symbol ∈ shown ↔
          ∃ command ∈ commands, command.symbol = .str symbol ∧ command.hidden = false) ∧
        ∀ host settings,
          first.displayUsage host settings =
              Report.write .output
                (usageHeading host settings ++ shown.flatMap fun symbol => symbol ++ ['\n']) ∧
            second.displayUsage host settings = first.displayUsage host settings := by
  obtain ⟨second, othersRegistered, entriesPermuted⟩ :=
    exists_registerAll_of_perm plain permuted registered
  obtain ⟨entries, sound⟩ := entries_of_registerAll registered
  have firstConcrete : ∀ entry ∈ first.entries, IsConcrete entry.2 := by
    rw [entries]
    simpa [entryOf] using concrete
  have secondConcrete : ∀ entry ∈ second.entries, IsConcrete entry.2 :=
    fun entry member => firstConcrete entry (entriesPermuted.mem_iff.mpr member)
  have lookups := sound.lookup_eq_of_perm entriesPermuted
  have symbols := symbols_eq_of_perm entriesPermuted
  refine ⟨second, othersRegistered, ?_, sound.formerly_eq_of_perm entriesPermuted,
    ⟨symbols, sound.pairwise_lt_symbols, ?_⟩, ?_, ?_⟩
  · intro host settings symbol tokens
    exact find_eq_of_lookup lookups host settings _ tokens
  · intro symbol
    have declared := exists_entry_iff registered (fun _ => True) symbol
    simpa only [and_true, ← mem_symbols_iff] using declared
  · intro host settings
    have same := allInstances_eq_of_lookup lookups symbols host settings
    refine ⟨_, symbols_allInstances first host settings, instances_eq firstConcrete, ?_, ?_⟩
    · rw [instances_eq secondConcrete, same]
    · intro action
      refine ⟨broadcast_eq firstConcrete action, ?_⟩
      rw [broadcast_eq secondConcrete, same]
  · have listed : second.listed = first.listed := by
      have shown : second.isListed = first.isListed := by
        funext symbol
        rw [isListed, isListed, lookups]
      rw [Registry.listed, Registry.listed, symbols, shown]
    refine ⟨first.listed, sound.pairwise_lt_symbols.filter _, ?_, ?_⟩
    · intro symbol
      exact sound.mem_listed_iff.trans
        (exists_entry_iff registered (fun command => command.hidden = false) symbol)
    · intro host settings
      refine ⟨displayUsage_eq firstConcrete host settings, ?_⟩
      rw [displayUsage_eq firstConcrete, displayUsage_eq secondConcrete, listed]

/-- A renamed command, the help command and a hidden one, registered in both orders. -/
theorem registerAll_perm_of_reversed_commands :
    let seed : Command :=
      { label := "Seed"
        symbol := .str "seed"
        formerly := .str "newseed"
        body := .action fun _ => Report.done .okay }
    let secret : Command :=
      { label := "Secret"
        symbol := .str "secret"
        hidden := true
        body := .action fun _ => Report.done .failure }
    let commands := [seed, helpCommand, secret]
    (∀ command ∈ commands, IsConcrete command) ∧ (∀ command ∈ commands, HasPlainFormer command) ∧
      ∃ first second,
        registerAll {} commands = .ok first ∧ registerAll {} commands.reverse = .ok second ∧
          second.symbols = first.symbols ∧
          second.formerly (.str "newseed") = first.formerly (.str "newseed") ∧
          ∀ host settings,
            second.displayUsage host settings = first.displayUsage host settings := by
  intro seed secret commands
  have concrete : ∀ command ∈ commands, IsConcrete command := by
    simp [commands, seed, secret, helpCommand, IsConcrete]
  have plain : ∀ command ∈ commands, HasPlainFormer command := by
    simp [commands, seed, secret, helpCommand, HasPlainFormer]
  have registered : registerAll {} commands =
      .ok ⟨[("seed", seed), ("help", helpCommand), ("secret", secret)]⟩ := by with_unfolding_all rfl
  obtain ⟨second, othersRegistered, _, formers, ⟨symbols, _⟩, _, _, _, _, usage⟩ :=
    registerAll_perm concrete plain commands.reverse_perm.symm registered
  exact ⟨concrete, plain, _, second, registered, othersRegistered, symbols, formers _,
    fun host settings => (usage host settings).2⟩

end Registry
end Handbook
