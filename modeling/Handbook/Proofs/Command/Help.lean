import Handbook.Command.Dispatch
import Handbook.Proofs.Command.Instances
import Handbook.Proofs.Command.Names

/-!
# Help for one command

A command has one help page for a call. It is asked for with a switch behind the
symbol or by way of the help command, and both ways write the same page, or
refuse the request for the same reason. They differ only in the tokens of the
call, which a command may read when it makes its declarations.
-/

namespace Handbook

variable {command : Command} {call : Call} {symbol : Text} {tokens : List Value}

namespace Command

/-- The help page of a command for a call, its sheet laid out. -/
def page (command : Command) (call : Call) : Except Error Text := do
  let plain ← command.plainSheet call
  match plain.initialized.failure with
  | some error => .error error
  | none => plain.initialized.state.page

/-- The help page of a command that can have instances. -/
def helpPage (command : Command) (call : Call) : Except Error Text :=
  match command.body with
  | .missing => .error (.bodyMissing command.label)
  | _ => command.page call

theorem helpPage_of_missing (missing : command.body = .missing) :
    command.helpPage call = .error (.bodyMissing command.label) := by
  rw [helpPage, missing]

theorem helpPage_of_concrete (concrete : Registry.IsConcrete command) :
    command.helpPage call = command.page call := by
  unfold helpPage
  split
  · next missing => exact absurd missing concrete
  · rfl

/-- Writing the help of a command writes its page, all of it or nothing. -/
@[simp] theorem unnoted_writeHelp (command : Command) (call : Call) :
    (command.writeHelp call).unnoted =
      (Report.ofExcept (command.page call)).andThen (Report.write .output) := by
  unfold writeHelp sheet page
  dsimp only [Report.bind_eq]
  cases declared : command.plainSheet call with
  | error error => rfl
  | ok plain =>
      simp only [Report.ofExcept_ok, Report.done_andThen, bind, Except.bind]
      cases plain.initialized.failure with
      | some error => rfl
      | none => simp

/-- A command whose declarations do not depend on the tokens of the call. -/
def IgnoresTokens (command : Command) : Prop :=
  ∀ (call : Call) (tokens : List Value),
    command.slots { call with tokens } = command.slots call ∧
      command.options { call with tokens } = command.options call

/-- Declarations that ignore the tokens give the same page for all of them. -/
theorem IgnoresTokens.helpPage_eq
    (ignores : IgnoresTokens command)
    (call : Call)
    (tokens : List Value) :
    command.helpPage { call with tokens } = command.helpPage call := by
  obtain ⟨slots, options⟩ := ignores call tokens
  have sheet : command.plainSheet { call with tokens } = command.plainSheet call := by
    unfold plainSheet slotTable optionTable
    rw [slots, options]
  unfold helpPage page
  rw [sheet]

end Command

/-! ## Asking for help -/

/-- Tokens among which there is a help switch. -/
def AsksForHelp (tokens : List Value) : Prop :=
  .str "--help" ∈ tokens ∨ .str "-h" ∈ tokens

theorem any_isHelpSwitch_iff : tokens.any isHelpSwitch = true ↔ AsksForHelp tokens := by
  simp only [List.any_eq_true, isHelpSwitch, Bool.or_eq_true, Value.equals_str_iff, AsksForHelp]
  constructor
  · rintro ⟨token, member, rfl | rfl⟩
    · exact .inl member
    · exact .inr member
  · rintro (member | member)
    · exact ⟨_, member, .inl rfl⟩
    · exact ⟨_, member, .inr rfl⟩

namespace Registry

variable {registry : Registry} {host : Host} {given : Settings}

theorem dispatch_list (registry : Registry) (host : Host) (given : Settings) (tokens : List Value) :
    registry.dispatch host given (.list tokens) =
      registry.route host (given.resolve host) tokens := by
  simp [dispatch]

/-- A command without a body answers no command line. -/
theorem dispatch_of_missing
    (found : registry.lookup symbol = some command)
    (missing : command.body = .missing) :
    registry.dispatch host given (.list (.str symbol :: tokens)) =
      Report.refuse (.bodyMissing command.label) := by
  rw [dispatch_list, route, find_of_missing found missing]
  rfl

/-- A registered symbol with a help switch behind it is answered with the page of its command,
which does not run. -/
theorem unnoted_dispatch_of_asksForHelp
    (found : registry.lookup symbol = some command)
    (asked : AsksForHelp tokens) :
    (registry.dispatch host given (.list (.str symbol :: tokens))).unnoted =
      Report.ofPage (command.helpPage ⟨host, symbol, tokens, given.resolve host⟩) := by
  by_cases concrete : IsConcrete command
  · rw [dispatch_list, route, find_of_concrete found concrete, Settings.resolve_resolve,
      Command.helpPage_of_concrete concrete, Report.ofPage_eq]
    simp [any_isHelpSwitch_iff.mpr asked]
  · have missing : command.body = .missing := not_not.mp concrete
    rw [dispatch_of_missing found missing, Command.helpPage_of_missing missing]
    rfl

/-- A registered symbol with no help switch behind it runs its command, once, with the tokens as
they are. -/
theorem unnoted_dispatch_of_not_asksForHelp
    (found : registry.lookup symbol = some command)
    (concrete : IsConcrete command)
    (notAsked : ¬ AsksForHelp tokens) :
    (registry.dispatch host given (.list (.str symbol :: tokens))).unnoted =
      (registry.invoke ⟨command, ⟨host, symbol, tokens, given.resolve host⟩⟩).unnoted := by
  rw [dispatch_list, route, find_of_concrete found concrete, Settings.resolve_resolve]
  simp [Bool.eq_false_iff.mpr (any_isHelpSwitch_iff.not.mpr notAsked)]

/-- The help command answers a registered symbol with the page of its command. -/
theorem unnoted_runHelp_of_symbol
    (found : registry.lookup symbol = some command)
    (settings : Settings) :
    (registry.runHelp ⟨host, "help", [.str symbol], settings⟩).unnoted =
      Report.ofPage (command.helpPage ⟨host, symbol, [], settings.resolve host⟩) := by
  rw [runHelp]
  dsimp only
  by_cases concrete : IsConcrete command
  · rw [find_of_concrete found concrete, Command.helpPage_of_concrete concrete, Report.ofPage_eq]
    simp
  · have missing : command.body = .missing := not_not.mp concrete
    rw [find_of_missing found missing, Command.helpPage_of_missing missing]
    rfl

/-- A registered symbol that is no help switch is answered in the same way when it stands behind
the help command. -/
theorem unnoted_dispatch_help
    (helpRegistered : registry.lookup "help" = some helpCommand)
    (found : registry.lookup symbol = some command)
    (notAsked : ¬ AsksForHelp [.str symbol]) :
    (registry.dispatch host given (.list [.str "help", .str symbol])).unnoted =
      Report.ofPage (command.helpPage ⟨host, symbol, [], given.resolve host⟩) := by
  have concrete : IsConcrete helpCommand := by
    intro missing
    cases missing
  have ran : registry.invoke ⟨helpCommand, ⟨host, "help", [.str symbol], given.resolve host⟩⟩ =
      registry.runHelp ⟨host, "help", [.str symbol], given.resolve host⟩ := rfl
  rw [unnoted_dispatch_of_not_asksForHelp helpRegistered concrete notAsked, ran,
    unnoted_runHelp_of_symbol found, Settings.resolve_resolve]

/-- Where the help command is registered as such, a help switch behind a registered symbol and the
help command before it have the same effect: the page of the symbol's command on the output and
nothing else, or the error for which there is no page and nothing at all. -/
theorem help_switch_eq_help_command
    (helpRegistered : registry.lookup "help" = some helpCommand)
    (found : registry.lookup symbol = some command)
    (notSwitch : symbol ≠ "--help".toList ∧ symbol ≠ "-h".toList)
    (asked : AsksForHelp tokens)
    (ignores : command.IgnoresTokens)
    (host : Host)
    (given : Settings) :
    let bySwitch := registry.dispatch host given (.list (.str symbol :: tokens))
    let byCommand := registry.dispatch host given (.list [.str "help", .str symbol])
    bySwitch.unnoted = byCommand.unnoted ∧
      match command.helpPage ⟨host, symbol, [], given.resolve host⟩ with
      | .ok page => byCommand.unnoted = ⟨{ out := page }, .ok .okay⟩
      | .error error => byCommand.unnoted = ⟨{}, .error (.error error)⟩ := by
  have notAsked : ¬ AsksForHelp [.str symbol] := by
    simpa [AsksForHelp, eq_comm] using notSwitch
  dsimp only
  rw [unnoted_dispatch_of_asksForHelp found asked,
    unnoted_dispatch_help helpRegistered found notAsked]
  constructor
  · exact congrArg Report.ofPage (ignores.helpPage_eq ⟨host, symbol, [], given.resolve host⟩ tokens)
  · cases command.helpPage ⟨host, symbol, [], given.resolve host⟩ <;> rfl

/-- A command whose description of an option names the application, asked for help in both ways. -/
theorem help_switch_eq_help_command_of_seed :
    let seed : Command :=
      { label := "Seed"
        symbol := .str "seed"
        options := fun call =>
          [.declared
            { names := .str "row,r"
              description := .str ("A row of " ++ call.settings.application.displayed) }]
        body := .action fun _ => Report.done .failure }
    let registry : Registry := ⟨[("help", helpCommand), ("seed", seed)]⟩
    let given : Settings := { application := .str "garden", shell := .bool false }
    let tokens : List Value := [.str "row", .str "-h"]
    registry.lookup "help" = some helpCommand ∧ registry.lookup "seed" = some seed ∧
      ("seed".toList ≠ "--help".toList ∧ "seed".toList ≠ "-h".toList) ∧
      AsksForHelp tokens ∧ seed.IgnoresTokens ∧
      (registry.dispatch {} given (.list (.str "seed" :: tokens))).unnoted =
        (registry.dispatch {} given (.list [.str "help", .str "seed"])).unnoted ∧
      (registry.dispatch {} given (.list [.str "help", .str "seed"])).result.toOption =
        some .okay := by
  intro seed registry given tokens
  have helpRegistered : registry.lookup "help" = some helpCommand := rfl
  have found : registry.lookup "seed" = some seed := rfl
  have notSwitch : "seed".toList ≠ "--help".toList ∧ "seed".toList ≠ "-h".toList := by decide
  have asked : AsksForHelp tokens := .inr (by simp [tokens])
  have ignores : seed.IgnoresTokens := fun _ _ => ⟨rfl, rfl⟩
  exact ⟨helpRegistered, found, notSwitch, asked, ignores,
    (help_switch_eq_help_command helpRegistered found notSwitch asked ignores {} given).1,
    by decide +kernel⟩

end Registry
end Handbook
