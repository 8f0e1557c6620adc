import Handbook.Command.Display
import Handbook.Proofs.Checks
import Handbook.Proofs.Reports
import Mathlib.Data.List.Basic

/-!
# Instances of commands

Looking up a symbol gives an instance of its command for the call at hand, unless
the command has no body. A registry of concrete commands has an instance for each
of its symbols, and hands them out in the order of the symbols.
-/

namespace Handbook

/-- Settling the application's name once more changes nothing. -/
@[simp] theorem Settings.resolve_resolve (settings : Settings) (host : Host) :
    (settings.resolve host).resolve host = settings.resolve host := by
  have settled : host.applicationName (host.applicationName settings.application) =
      host.applicationName settings.application := by
    unfold Host.applicationName Value.orElse
    cases given : settings.application.isUnset with
    | true => cases named : host.name.isUnset <;> simp [named]
    | false => simp [given]
  unfold resolve
  rw [settled]

namespace Registry

variable {registry : Registry} {command : Command} {host : Host} {settings : Settings}

/-! ## One instance -/

/-- A command with a body of its own. -/
def IsConcrete (command : Command) : Prop :=
  command.body ≠ .missing

theorem find_of_lookup_eq_none
    {symbol : Text}
    {tokens : Value}
    (absent : registry.lookup symbol = none) :
    registry.find host settings (.str symbol) tokens = .ok none := by
  simp [find, absent, bind, Except.bind, pure, Except.pure]

theorem find_of_missing
    {symbol : Text}
    {tokens : Value}
    (found : registry.lookup symbol = some command)
    (missing : command.body = .missing) :
    registry.find host settings (.str symbol) tokens = .error (.bodyMissing command.label) := by
  simp [find, found, instantiate, missing, bind, Except.bind]

/-- A command with a body has an instance for every call. -/
theorem find_of_concrete
    {symbol : Text}
    {tokens : List Value}
    (found : registry.lookup symbol = some command)
    (concrete : IsConcrete command) :
    registry.find host settings (.str symbol) (.list tokens) =
      .ok (some ⟨command, ⟨host, symbol, tokens, settings.resolve host⟩⟩) := by
  have instantiated : instantiate command host settings symbol (.list tokens) =
      .ok ⟨command, ⟨host, symbol, tokens, settings.resolve host⟩⟩ := by
    unfold instantiate
    split
    · next missing => exact absurd missing concrete
    · rfl
  simp [find, found, instantiated, bind, Except.bind, pure, Except.pure]

/-! ## All instances -/

theorem symbols_perm (registry : Registry) :
    registry.symbols.Perm (registry.entries.map (·.1)) :=
  List.mergeSort_perm _ _

theorem mem_symbols_iff {symbol : Text} :
    symbol ∈ registry.symbols ↔ ∃ entry ∈ registry.entries, entry.1 = symbol := by
  rw [(symbols_perm registry).mem_iff, List.mem_map]

theorem isSome_lookup_iff {symbol : Text} :
    (registry.lookup symbol).isSome ↔ ∃ entry ∈ registry.entries, entry.1 = symbol := by
  simp [lookup]

/-- The instance of the command of a symbol, for a call without tokens. -/
def instance?
    (registry : Registry)
    (host : Host)
    (settings : Settings)
    (symbol : Text) : Option Invocation :=
  (registry.lookup symbol).map fun command =>
    ⟨command, ⟨host, symbol, [], settings.resolve host⟩⟩

/-- The instances of all commands, in order of symbols. -/
def allInstances
    (registry : Registry)
    (host : Host)
    (settings : Settings) : List Invocation :=
  registry.symbols.filterMap (registry.instance? host settings)

theorem find_eq_instance?
    (concrete : ∀ entry ∈ registry.entries, IsConcrete entry.2)
    (symbol : Text) :
    registry.find host settings (.str symbol) (.list []) =
      .ok (registry.instance? host settings symbol) := by
  unfold instance?
  cases found : registry.lookup symbol with
  | none => exact find_of_lookup_eq_none found
  | some command =>
      obtain ⟨entry, located, rfl⟩ := Option.map_eq_some_iff.mp found
      exact find_of_concrete found (concrete entry (List.mem_of_find?_eq_some located))

/-- Concrete commands all have their instances, in order of symbols. -/
theorem instances_eq (concrete : ∀ entry ∈ registry.entries, IsConcrete entry.2) :
    registry.instances host settings = .ok (registry.allInstances host settings) := by
  have found : registry.symbols.mapM (fun symbol =>
      registry.find host settings (.str symbol) (.list [])) =
      .ok (registry.symbols.map (registry.instance? host settings)) :=
    mapM_eq_ok_map fun symbol _ => find_eq_instance? concrete symbol
  rw [instances, found, allInstances]
  simp [Except.map, List.filterMap_map]

/-- An action is handed each instance once, in order of symbols. -/
theorem broadcast_eq
    (concrete : ∀ entry ∈ registry.entries, IsConcrete entry.2)
    (action : Invocation → Report Unit) :
    registry.broadcast host settings action =
      Report.forEach action (registry.allInstances host settings) := by
  rw [allInstances, ← Report.forEach_filterMap, broadcast]
  congr 1
  funext symbol
  rw [find_eq_instance? concrete]
  simp only [Report.ofExcept, Report.bind_eq, Report.done_andThen]
  cases registry.instance? host settings symbol <;> rfl

/-- The instances of a registry are those of its symbols, one for each. -/
theorem symbols_allInstances (registry : Registry) (host : Host) (settings : Settings) :
    (registry.allInstances host settings).map (fun invocation => invocation.call.symbol) =
      registry.symbols := by
  have own : ∀ symbol ∈ registry.symbols,
      (registry.instance? host settings symbol).map (fun invocation => invocation.call.symbol) =
        some symbol := by
    intro symbol member
    obtain ⟨command, found⟩ :=
      Option.isSome_iff_exists.mp (isSome_lookup_iff.mpr (mem_symbols_iff.mp member))
    rw [instance?, found]
    rfl
  rw [allInstances, List.map_filterMap, List.filterMap_congr own, List.filterMap_some]

end Registry
end Handbook
