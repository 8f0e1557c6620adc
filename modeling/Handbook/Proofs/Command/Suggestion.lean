import Handbook.Proofs.Command.Routing
import Handbook.Proofs.Similarity.Closest

/-!
# The suggestion for an unknown symbol

A text that is no symbol is answered with a hint at the closest registered symbol, if
there is one. Which one that is depends on the symbols that are registered, and not on
the order in which they were.
-/

namespace Handbook.Registry

open Similarity (similarity IsSimilarity IsClosest)

variable {registry other : Registry} {host : Host} {symbol word : Text}

theorem mem_symbols_iff_contains : symbol ∈ registry.symbols ↔ registry.contains symbol = true := by
  rw [mem_symbols_iff, contains_iff]

theorem suggestion_ne_nil (symbol : Text) : suggestion symbol ≠ [] := by
  unfold suggestion
  simp

/-- There is no hint exactly when no registered symbol is similar enough. -/
theorem hintText_eq_nil_iff :
    registry.hintText word = [] ↔
      ∀ symbol, registry.contains symbol = true → similarity symbol (word.map some) < 3 / 5 := by
  have unsuggested : registry.hintText word = [] ↔
      Similarity.closest? registry.symbols (word.map some) = none := by
    unfold hintText
    cases Similarity.closest? registry.symbols (word.map some) with
    | none => simp
    | some symbol => simp [suggestion_ne_nil]
  rw [unsuggested, Similarity.closest?_eq_none_iff]
  simp only [mem_symbols_iff_contains]

/-- A hint is the suggestion of the closest registered symbol. -/
theorem exists_isClosest_of_hintText (hinted : registry.hintText word ≠ []) :
    ∃ symbol, IsClosest (word.map some) registry.symbols symbol ∧
      registry.hintText word = suggestion symbol := by
  unfold hintText at hinted ⊢
  cases found : Similarity.closest? registry.symbols (word.map some) with
  | none => simp [found] at hinted
  | some symbol => exact ⟨symbol, Similarity.isClosest_of_closest? found, rfl⟩

/-- Registries of the same symbols give the same hints. -/
theorem hintText_congr (same : ∀ symbol, registry.contains symbol = other.contains symbol) :
    registry.hintText word = other.hintText word := by
  have chosen : Similarity.closest? registry.symbols (word.map some) =
      Similarity.closest? other.symbols (word.map some) := by
    apply Similarity.closest?_congr
    intro symbol
    rw [mem_symbols_iff_contains, mem_symbols_iff_contains, same]
  unfold hintText
  rw [chosen]

/-- The symbol of a suggestion has an instance for every call, unless its command has no body. -/
theorem find_of_mem_symbols (member : symbol ∈ registry.symbols) :
    ∃ command, registry.lookup symbol = some command ∧
      ∀ settings tokens,
        (IsConcrete command →
          registry.find host settings (.str symbol) (.list tokens) =
            .ok (some ⟨command, ⟨host, symbol, tokens, settings.resolve host⟩⟩)) ∧
        (¬ IsConcrete command →
          registry.find host settings (.str symbol) (.list tokens) =
            .error (.bodyMissing command.label)) := by
  obtain ⟨command, found⟩ :=
    Option.isSome_iff_exists.mp (isSome_lookup_iff.mpr (mem_symbols_iff.mp member))
  refine ⟨command, found, fun settings tokens => ⟨find_of_concrete found, fun bodiless => ?_⟩⟩
  exact find_of_missing found (not_not.mp bodiless)

/-- The notice for a text that is no symbol has an empty hint exactly when no registered symbol is
similar to the text by three fifths at least. Any other hint names the symbol that is first by
similarity and then by the order of texts. That symbol is registered: its command has an instance
for every call, unless it has no body. Registries of the same symbols print the same notice, in
whatever order the symbols came to be registered. -/
theorem displayInvalidCommand_suggests_closest
    (registry : Registry)
    (host : Host)
    (settings : Settings)
    (word : Text) :
    let letters := word.map some
    let notice := registry.unknownNotice host (settings.resolve host) word
    registry.displayInvalidCommand host settings (.str word) = notice.surface host ∧
      (∀ symbol share, IsSimilarity symbol letters share ↔ share = similarity symbol letters) ∧
      (∃ hint, notice.options.hint = .str hint ∧
        (hint = [] ↔
          ∀ symbol, registry.contains symbol = true → similarity symbol letters < 3 / 5) ∧
        (hint ≠ [] →
          ∃ symbol, IsClosest letters registry.symbols symbol ∧ hint = suggestion symbol ∧
            ∃ command, registry.lookup symbol = some command ∧
              ∀ given tokens,
                (IsConcrete command →
                  registry.find host given (.str symbol) (.list tokens) =
                    .ok (some ⟨command, ⟨host, symbol, tokens, given.resolve host⟩⟩)) ∧
                (¬ IsConcrete command →
                  registry.find host given (.str symbol) (.list tokens) =
                    .error (.bodyMissing command.label)))) ∧
      ∀ other : Registry, (∀ symbol, registry.contains symbol = other.contains symbol) →
        registry.displayInvalidCommand host settings (.str word) =
          other.displayInvalidCommand host settings (.str word) := by
  intro letters notice
  refine ⟨displayInvalidCommand_str word, fun symbol share => Similarity.isSimilarity_iff,
    ⟨registry.hintText word, rfl, hintText_eq_nil_iff, fun hinted => ?_⟩, fun other same => ?_⟩
  · obtain ⟨symbol, closest, suggested⟩ := exists_isClosest_of_hintText hinted
    exact ⟨symbol, closest, suggested, find_of_mem_symbols closest.mem⟩
  · rw [displayInvalidCommand_str, displayInvalidCommand_str, unknownNotice, unknownNotice,
      hintText_congr same]

/-- A command without a body is registered and suggested, and has no instance. -/
theorem suggested_symbol_without_body :
    let seed : Command :=
      { label := "Seed"
        symbol := .str "seed"
        body := .missing }
    ∃ registry, registerAll {} [seed] = .ok registry ∧
      registry.displayInvalidCommand {} {} (.str "sead") =
        (registry.unknownNotice {} (Settings.resolve {} {}) "sead").surface {} ∧
      (registry.unknownNotice {} (Settings.resolve {} {}) "sead").options.hint =
        .str "did you mean 'seed'?" ∧
      registry.find {} {} (.str "seed") (.list []) = .error (.bodyMissing "Seed") := by
  intro seed
  refine ⟨⟨[("seed", seed)]⟩, by rfl, displayInvalidCommand_str "sead", ?_, by rfl⟩
  have suggested : hintText ⟨[("seed", seed)]⟩ "sead" = "did you mean 'seed'?" := by
    decide +kernel
  exact congrArg Value.str suggested

end Handbook.Registry
