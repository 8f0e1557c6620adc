import Handbook.Proofs.Command.Help
import Handbook.Proofs.Fault.Surfacing

/-!
# The route of a command line

The first token of a command line is a registered symbol, a former one, or
neither. A registered symbol leads to the help of its command or to its body. Any
other one is answered with a notice, which is printed on the error channel in
shell mode and is issued or raised otherwise; nothing of it comes to the output.
-/

namespace Handbook

/-- A message becomes a fault of its class, with the options that are set, and is surfaced. -/
theorem reportFault_str
    {host : Host}
    {kind : FaultClass}
    {overrides : Overrides}
    (message : Text)
    (plain : overrides.extra = []) :
    reportFault host kind (.str message) overrides =
      Fault.surface ⟨kind, some message, (FaultOptions.ofClass kind host).override overrides⟩
        host := by
  have created : Fault.create host kind (.str message) {} =
      .ok ⟨kind, some message, FaultOptions.ofClass kind host⟩ := by
    simp [Fault.create, Fault.checkMessage, Except.map]
  rw [reportFault, created]
  simp [trigger, Fault.replace, plain, Fault.override]

namespace Registry

variable {registry : Registry} {host : Host} {settings given : Settings}
variable {symbol : Text} {tokens : List Value}

/-! ## The notice for a symbol that is not registered -/

/-- The hint for a text that is no symbol. -/
def hintText (registry : Registry) (word : Text) : Text :=
  match Similarity.closest? registry.symbols (word.map some) with
  | some symbol => suggestion symbol
  | none => []

/-- The letters of a text are its characters. -/
theorem letters_str (word : Text) : letters (.str word) = .ok (word.map some) := by
  have fit : ∀ text : Text,
      Value.unhashableKind?.unhashableItem? (text.map fun character => .str [character]) = none := by
    intro text
    induction text with
    | nil => rfl
    | cons character rest hypothesis => exact hypothesis
  unfold letters Value.members?
  simp only [fit, List.map_map, Except.ok.injEq]
  rfl

/-- Whatever a text is, there is a hint for it, possibly an empty one. -/
theorem hint_str (registry : Registry) (word : Text) :
    registry.hint (.str word) = .ok (registry.hintText word) := by
  have places : (Value.str word).hasPlaces = true := rfl
  unfold hint hintText
  rw [letters_str, places]
  dsimp only [bind, Except.bind]
  cases Similarity.closest? registry.symbols (word.map some) <;> rfl

/-- The warning that a symbol was renamed. -/
def renamedNotice (host : Host) (settings : Settings) (former current : Text) : Fault :=
  let name := settings.application.displayed
  { kind := .deprecatedCommand
    message := some
      ("The '" ++ former ++ "' command has been replaced by '" ++ current ++ "'.")
    options := (FaultOptions.ofClass .deprecatedCommand host).override
      (settings.overrides
        (some ("enter '" ++ name ++ ' ' :: current ++ " --help' for its instructions")) none) }

/-- The error that a symbol is unknown. -/
def unknownNotice
    (registry : Registry)
    (host : Host)
    (settings : Settings)
    (symbol : Text) : Fault :=
  let name := settings.application.displayed
  { kind := .unknownCommand
    message := some
      ("'" ++ symbol ++ "' is not a " ++ name ++ " command. Enter '" ++ name ++
        " help' for a list of commands.")
    options := (FaultOptions.ofClass .unknownCommand host).override
      (settings.overrides (some (registry.hintText symbol)) (some true)) }

/-- What a symbol that is not registered is answered with. -/
def notice (registry : Registry) (host : Host) (settings : Settings) (symbol : Text) : Fault :=
  match registry.formerly (.str symbol) with
  | some current => renamedNotice host settings symbol current
  | none => registry.unknownNotice host settings symbol

theorem displayDeprecatedCommand_str (former current : Text) :
    displayDeprecatedCommand host settings (.str former) (.str current) =
      (renamedNotice host (settings.resolve host) former current).surface host := by
  unfold displayDeprecatedCommand renamedNotice
  rw [reportFault_str _ rfl]
  simp [Value.displayed_str, Error.marked]

theorem displayInvalidCommand_str (symbol : Text) :
    registry.displayInvalidCommand host settings (.str symbol) =
      (registry.unknownNotice host (settings.resolve host) symbol).surface host := by
  unfold displayInvalidCommand unknownNotice
  rw [hint_str]
  simp only [Report.ofExcept_ok, Report.bind_eq, Report.done_andThen]
  rw [reportFault_str _ rfl]
  simp [Value.displayed_str, Error.marked]

theorem shell_notice : (registry.notice host settings symbol).options.shell = settings.shell := by
  unfold notice
  split <;> rfl

theorem stream_notice : (registry.notice host settings symbol).options.stream = .channel .error := by
  unfold notice
  split <;> rfl

/-- No notice ends the program. -/
theorem gentle_notice :
    ((registry.notice host settings symbol).kind.isWarning ||
      (registry.notice host settings symbol).options.deferred.truthy) = true := by
  unfold notice
  split <;> rfl

/-- A symbol that is not registered is answered with its notice, and is invalid. -/
theorem unnoted_rejectSymbol :
    (registry.rejectSymbol host settings (.str symbol)).unnoted =
      ((registry.notice host (settings.resolve host) symbol).surface host).unnoted.andThen
        fun _ => Report.done .invalid := by
  unfold rejectSymbol notice
  cases registry.formerly (.str symbol) with
  | some current => simp [displayDeprecatedCommand_str]
  | none => simp [displayInvalidCommand_str]

/-! ## Command lines that no registered symbol begins -/

theorem unnoted_dispatch_of_lookup_eq_none (absent : registry.lookup symbol = none) :
    (registry.dispatch host given (.list (.str symbol :: tokens))).unnoted =
      ((registry.notice host (given.resolve host) symbol).surface host).unnoted.andThen
        fun _ => Report.done .invalid := by
  rw [dispatch_list, route, find_of_lookup_eq_none absent]
  simp only [Report.ofExcept_ok, Report.bind_eq, Report.done_andThen]
  rw [unnoted_rejectSymbol, Settings.resolve_resolve]

/-- In shell mode the notice is printed on the error channel, and the command line is invalid. -/
theorem unnoted_dispatch_of_shell
    (absent : registry.lookup symbol = none)
    (shell : given.shell.truthy = true)
    (printed :
      ((registry.notice host (given.resolve host) symbol).page host).failure = none) :
    (registry.dispatch host given (.list (.str symbol :: tokens))).unnoted =
      ⟨{ err := ((registry.notice host (given.resolve host) symbol).page host).state },
        .ok .invalid⟩ := by
  have surfaced := Fault.surface_of_shell
    (shell_notice.symm ▸ shell) gentle_notice stream_notice printed
  rw [unnoted_dispatch_of_lookup_eq_none absent, surfaced, Report.unnoted_write]
  simp [Report.write, Report.andThen, Report.done]

/-- Outside shell mode a warning is issued and the command line is invalid, or an error is
raised. -/
theorem unnoted_dispatch_of_not_shell
    (absent : registry.lookup symbol = none)
    (quiet : given.shell.truthy = false) :
    (registry.dispatch host given (.list (.str symbol :: tokens))).unnoted =
      if (registry.notice host (given.resolve host) symbol).kind.isWarning then
        ⟨{ warnings := [registry.notice host (given.resolve host) symbol] }, .ok .invalid⟩
      else ⟨{}, .error (.fault (registry.notice host (given.resolve host) symbol))⟩ := by
  rw [unnoted_dispatch_of_lookup_eq_none absent,
    Fault.surface_of_not_shell (shell_notice.symm ▸ quiet)]
  split
  · rw [Report.unnoted_warn]
    simp [Report.warn, Report.andThen, Report.done]
  · rfl

/-! ## All command lines -/

/-- A command line takes one route. A registered symbol leads to its command: one without a body
refuses the line; any other writes its help page, or refuses for the reason for which it has none,
when a help switch stands behind the symbol, and else runs once, with the tokens as they are. A
former symbol is answered with a warning that names a registered one, and any other symbol with an
error. In shell mode these two notices go to the error channel and the line is invalid; outside it
nothing is written, the warning is issued and the error is raised. -/
theorem dispatch_takes_one_route
    (registry : Registry)
    (host : Host)
    (given : Settings)
    (symbol : Text)
    (tokens : List Value)
    (printed : given.shell.truthy = true → registry.lookup symbol = none →
      ((registry.notice host (given.resolve host) symbol).page host).failure = none) :
    let report := (registry.dispatch host given (.list (.str symbol :: tokens))).unnoted
    let call : Call := ⟨host, symbol, tokens, given.resolve host⟩
    let notice := registry.notice host (given.resolve host) symbol
    let page := (notice.page host).state
    match registry.lookup symbol with
    | some command =>
        (command.body = .missing → report = Report.refuse (.bodyMissing command.label)) ∧
          (IsConcrete command → AsksForHelp tokens →
            report = Report.ofPage (command.page call)) ∧
          (IsConcrete command → ¬ AsksForHelp tokens →
            report = (registry.invoke ⟨command, call⟩).unnoted)
    | none =>
        match registry.formerly (.str symbol) with
        | some current =>
            registry.contains current = true ∧
              notice.kind = .deprecatedCommand ∧
              notice.message = some
                ("The '" ++ symbol ++ "' command has been replaced by '" ++ current ++ "'.") ∧
              report =
                if given.shell.truthy then ⟨{ err := page }, .ok .invalid⟩
                else ⟨{ warnings := [notice] }, .ok .invalid⟩
        | none =>
            notice.kind = .unknownCommand ∧
              notice.options.shell = given.shell ∧
              notice.options.deferred = .bool true ∧
              report =
                if given.shell.truthy then ⟨{ err := page }, .ok .invalid⟩
                else ⟨{}, .error (.fault notice)⟩ := by
  intro report call notice page
  cases found : registry.lookup symbol with
  | some command =>
      refine ⟨?_, ?_, ?_⟩
      · intro missing
        exact congrArg Report.unnoted (dispatch_of_missing found missing)
      · intro concrete asked
        rw [← Command.helpPage_of_concrete concrete]
        exact unnoted_dispatch_of_asksForHelp found asked
      · intro concrete notAsked
        exact unnoted_dispatch_of_not_asksForHelp found concrete notAsked
  | none =>
      -- Whether the symbol was renamed or is unknown matters for the kind of the notice only.
      have answered : report =
          if given.shell.truthy then ⟨{ err := page }, .ok .invalid⟩
          else if notice.kind.isWarning then ⟨{ warnings := [notice] }, .ok .invalid⟩
          else ⟨{}, .error (.fault notice)⟩ := by
        cases shell : given.shell.truthy with
        | true => exact unnoted_dispatch_of_shell found shell (printed shell found)
        | false => exact unnoted_dispatch_of_not_shell found shell
      rw [answered]
      cases renamed : registry.formerly (.str symbol) with
      | some current =>
          have isRenamed : notice = renamedNotice host (given.resolve host) symbol current := by
            simp only [notice, Registry.notice, renamed]
          rw [isRenamed]
          exact ⟨contains_of_formerly renamed, rfl, rfl, rfl⟩
      | none =>
          have isUnknown : notice = registry.unknownNotice host (given.resolve host) symbol := by
            simp only [notice, Registry.notice, renamed]
          rw [isUnknown]
          exact ⟨rfl, rfl, rfl, rfl⟩

/-- A misspelled symbol in shell mode, with a help switch behind it. -/
theorem dispatch_takes_one_route_of_misspelled_symbol :
    let notice := withHelp.notice {} (Settings.resolve {} {}) "hepl"
    ((Settings.shell {}).truthy = true → withHelp.lookup "hepl" = none →
        (notice.page {}).failure = none) ∧
      (withHelp.dispatch {} {} (.list [.str "hepl", .str "--help"])).unnoted =
        ⟨{ err :=
            "[ synopsis — 11101 | Unknown Command ]\n" ++
              ("'hepl' is not a synopsis command. " ++
                "Enter 'synopsis help' for a list of commands.\n" ++
                " → did you mean 'help'?\n") },
          .ok .invalid⟩ := by
  intro notice
  -- The header is measured character by character, so it is laid out once for both facts.
  have laidOut : (notice.page {}).failure = none ∧
      (notice.page {}).state =
        "[ synopsis — 11101 | Unknown Command ]\n" ++
          ("'hepl' is not a synopsis command. " ++
            "Enter 'synopsis help' for a list of commands.\n" ++
            " → did you mean 'help'?\n") := by decide +kernel
  obtain ⟨printed, page⟩ := laidOut
  obtain ⟨_, _, _, answered⟩ :=
    dispatch_takes_one_route withHelp {} {} "hepl" [.str "--help"] fun _ _ => printed
  refine ⟨fun _ _ => printed, ?_⟩
  rw [← page]
  exact answered

/-- A command without a body is registered, and neither runs nor shows its help; a command that
declares the help toggle once more shows none. -/
theorem refused_dispatch_of_registered_symbol :
    let seed : Command :=
      { label := "Seed"
        symbol := .str "seed"
        body := .missing }
    let sprout : Command :=
      { label := "Sprout"
        symbol := .str "sprout"
        options := fun _ => [.declared { names := .str "help" }]
        body := .action fun _ => Report.done .okay }
    ∃ registry, registerAll {} [seed, sprout] = .ok registry ∧
      registry.dispatch {} {} (.list [.str "seed"]) = Report.refuse (.bodyMissing "Seed") ∧
      registry.dispatch {} {} (.list [.str "seed", .str "--help"]) =
        Report.refuse (.bodyMissing "Seed") ∧
      (registry.dispatch {} {} (.list [.str "sprout", .str "--help"])).unnoted =
        Report.refuse (.longNameInUse (.str "help")) := by
  intro seed sprout
  refine ⟨⟨[("seed", seed), ("sprout", sprout)]⟩, by rfl, rfl, rfl, ?_⟩
  have asked : AsksForHelp [.str "--help"] := .inl List.mem_cons_self
  have found : Registry.lookup ⟨[("seed", seed), ("sprout", sprout)]⟩ "sprout" = some sprout := rfl
  have pageless : sprout.helpPage ⟨{}, "sprout", [.str "--help"], Settings.resolve {} {}⟩ =
      .error (.longNameInUse (.str "help")) := by cbv
  rw [unnoted_dispatch_of_asksForHelp found asked, pageless]
  rfl

end Registry
end Handbook
