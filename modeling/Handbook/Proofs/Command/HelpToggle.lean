import Handbook.Proofs.Command.Help
import Handbook.Proofs.Sheet.Positions
import Handbook.Proofs.Sheet.Toggles

/-!
# The help toggle

Every command declares the help toggle before its own options, none of which can
take a name of the toggle. A slot can: the toggle is then an argument of the
command, and the page does not show it as a toggle. The other options may be
declared, or filled in past all checks.
-/

namespace Handbook

namespace OptionTable

variable {table after : OptionTable}

theorem prefix_of_add_eq_ok
    {entry : OptionEntry}
    (accepted : table.add entry = .ok after) :
    table.items <+: after.items := by
  obtain ⟨offered, _, appended⟩ := exists_of_bind_eq_ok accepted
  cases offered with
  | foreign => cases appended
  | item descriptor =>
      rw [items_of_insert_eq_ok appended]
      exact List.prefix_append table.items [descriptor]

/-- What is in a table stays there, whatever is added. -/
theorem prefix_of_addAll_eq_ok
    {entries : List OptionEntry}
    (accepted : table.addAll entries = .ok after) :
    table.items <+: after.items := by
  induction entries generalizing table with
  | nil =>
      cases accepted
      exact List.prefix_rfl
  | cons entry rest hypothesis =>
      obtain ⟨next, added, following⟩ := exists_of_bind_eq_ok accepted
      exact (prefix_of_add_eq_ok added).trans (hypothesis following)

end OptionTable

/-- The descriptor of the help toggle. -/
def helpDescriptor : Descriptor where
  longName := .str "help"
  shortName := .str "h"
  description := .str "Get a description and instructions for this command."
  cardinality := .toggle
  default := .unset
  required := .bool false

/-- The parameter of the help toggle where it is a named one. -/
def helpParameter : Parameter where
  shortName := .str "h"
  longName := .str "help"
  description := .str "Get a description and instructions for this command."

/-- The row of the help toggle in the table of named parameters. -/
def helpRow : Text :=
  Sheet.rowLine ("-h [--help]", "Get a description and instructions for this command.")

theorem check_helpToggle : helpToggle.check = .ok helpDescriptor := by cbv

theorem checked_helpDescriptor : helpDescriptor.Checked :=
  Declaration.checked_of_check check_helpToggle

theorem parameterIn_helpDescriptor
    {runs : List Run}
    (unplaced : Run.position "help" runs = Parameter.noPosition) :
    helpDescriptor.parameterIn runs = helpParameter := by
  have position : Run.position helpDescriptor.longText runs = Parameter.noPosition := unplaced
  have mark : helpDescriptor.shortMark = "h" := by cbv
  rw [Descriptor.parameterIn, Descriptor.limitIn, position, mark]
  rfl

/-- The help toggle has one row, in which both of its columns are kept. -/
theorem parameterRows_helpParameter :
    Sheet.parameterRows helpParameter = .ok (Sheet.paragraphOf [helpRow]) := by
  have textual : helpParameter.Textual := ⟨rfl, rfl, rfl⟩
  have name : helpParameter.rowText = "-h [--help]" := by cbv
  have oneLine : Text.columnize helpParameter.description.displayed Sheet.descriptionWidth =
      [helpParameter.description.displayed] := by cbv
  rw [Sheet.parameterRows_eq textual, Parameter.rows, oneLine, name, Sheet.rowsOf_padRight]
  rfl

/-! ## Sheets -/

/-- A sheet that shows the help toggle: as a named parameter that takes no value, in the group that
opens the usage line, and with its row in the table of named parameters. -/
structure ShowsHelpToggle (sheet : Sheet) : Prop where
  listed : ∃ parameter ∈ sheet.parameters,
    parameter.longName = .str "help" ∧ parameter.shortName = .str "h" ∧
      parameter.isPositional = false ∧ parameter.limit = .int 0
  usage : ∃ names rest,
    sheet.usageParameters = .ok ("[-" ++ names ++ ']' :: rest) ∧
      Value.joined [] ((Sheet.usageMembers .shortToggle sheet.parameters).map
        Parameter.shortName) = .ok names ∧
      'h' ∈ names
  row : ∃ table, sheet.table (.bool false) = .ok table ∧ helpRow ∈ Text.pieces '\n' table

/-- Whether a slot takes the long name of the help toggle: a position is bound to it that is not
left behind a run too long to be counted. -/
def SlotTable.TakesHelp (slots : SlotTable) : Prop :=
  ∃ position, slots.boundName position = some "help".toList ∧ Reached slots.boundName position

theorem SlotTable.takesHelp_iff (slots : SlotTable) :
    slots.TakesHelp ↔ (Run.first? "help" slots.mergedRuns).isSome = true :=
  (isSome_first?_mergedRuns_iff slots "help").symm

namespace Sheet

variable {sheet : Sheet} {page : Text}

/-- A sheet with a page that has the help toggle among its named parameters shows it. -/
theorem showsHelpToggle_of_mem
    (listed : helpParameter ∈ sheet.parameters)
    (rendered : sheet.page = .ok page) :
    ShowsHelpToggle sheet := by
  obtain ⟨table, named, afterNamed⟩ := exists_of_bind_eq_ok rendered
  obtain ⟨_, _, afterPositional⟩ := exists_of_bind_eq_ok afterNamed
  obtain ⟨_, shown, _⟩ := exists_of_bind_eq_ok afterPositional
  obtain ⟨usage, parameters, _⟩ := exists_of_map_eq_ok shown
  have toggle : usageGroup helpParameter = .shortToggle := by cbv
  have unplaced : helpParameter.isPositional = false := by cbv
  obtain ⟨names, rest, rfl, joined, letter⟩ :=
    exists_usage_of_shortToggle parameters listed toggle rfl
  exact
    { listed := ⟨helpParameter, listed, rfl, rfl, unplaced, rfl⟩
      usage := ⟨names, rest, parameters, joined, letter (by decide)⟩
      row := ⟨table, named,
        mem_pieces_table named listed unplaced parameterRows_helpParameter (by decide +kernel)⟩ }

/-- A sheet with the help toggle among its options shows it, unless a slot takes its name: then
every parameter of this long name is an argument. -/
theorem showsHelpToggle_iff
    (standard : sheet.classifier = {})
    (declared : helpDescriptor ∈ sheet.options.items)
    (succeeded : sheet.initialized.failure = none)
    (rendered : sheet.initialized.state.page = .ok page) :
    ShowsHelpToggle sheet.initialized.state ↔ ¬ sheet.slots.TakesHelp := by
  have classified := mem_parameters_initialized_iff succeeded
  rw [standard] at classified
  rw [SlotTable.takesHelp_iff, ← SlotTable.isPosition_position]
  constructor
  · -- Any parameter of this long name has the position of the toggle, whatever else it holds.
    intro shows placed
    obtain ⟨parameter, member, longName, _, named, _⟩ := shows.listed
    obtain ⟨descriptor, _, outcome⟩ := (classified parameter).mp member
    rw [Parameter.isPositional, Descriptor.position_of_classifyDescriptor outcome longName,
      placed] at named
    cases named
  · intro unplaced
    have position : Run.position "help" sheet.slots.mergedRuns = Parameter.noPosition := by
      simpa using unplaced
    refine showsHelpToggle_of_mem ((classified helpParameter).mpr ⟨_, declared, ?_⟩) rendered
    rw [checked_helpDescriptor.classifyDescriptor, parameterIn_helpDescriptor position]

end Sheet

/-! ## Commands -/

namespace Command

variable {command : Command} {call : Call} {plain : Sheet} {page : Text}

/-- The sheet of a command has the slots of the command, the help toggle among its options, and no
rule pinned. -/
theorem helpDescriptor_mem_plainSheet (declared : command.plainSheet call = .ok plain) :
    command.slotTable call = .ok plain.slots ∧ helpDescriptor ∈ plain.options.items ∧
      plain.classifier = {} := by
  obtain ⟨slots, slotted, afterSlots⟩ := exists_of_bind_eq_ok declared
  obtain ⟨options, listed, created⟩ := exists_of_bind_eq_ok afterSlots
  obtain ⟨toggled, added, following⟩ := exists_of_bind_eq_ok listed
  have first : OptionTable.add {} (.declared helpToggle) = .ok ⟨[helpDescriptor]⟩ := by cbv
  rw [first] at added
  cases added
  obtain ⟨_, _, afterApplication⟩ := exists_of_bind_eq_ok created
  obtain ⟨_, _, afterCategory⟩ := exists_of_bind_eq_ok afterApplication
  obtain ⟨_, _, afterCommand⟩ := exists_of_bind_eq_ok afterCategory
  obtain ⟨_, _, whole⟩ := exists_of_bind_eq_ok afterCommand
  cases whole
  exact ⟨slotted, (OptionTable.prefix_of_addAll_eq_ok following).subset List.mem_cons_self, rfl⟩

/-- The page of a command is that of its sheet, if this can be initialized. -/
theorem page_eq_of_initialized
    (declared : command.plainSheet call = .ok plain)
    (succeeded : plain.initialized.failure = none) :
    command.page call = plain.initialized.state.page := by
  unfold page
  rw [declared]
  dsimp only [bind, Except.bind]
  rw [succeeded]

/-- The help page of a command, if there is one, is that of an initialized sheet. It shows the help
toggle, whatever options the command has, unless one of its slots takes the name of the toggle. -/
theorem page_shows_help_toggle
    (shown : command.page call = .ok page) :
    ∃ plain, command.plainSheet call = .ok plain ∧ plain.initialized.failure = none ∧
      plain.initialized.state.page = .ok page ∧
      ∃ slots, command.slotTable call = .ok slots ∧
        (ShowsHelpToggle plain.initialized.state ↔ ¬ slots.TakesHelp) := by
  obtain ⟨plain, declared, rendered⟩ := exists_of_bind_eq_ok shown
  obtain ⟨slotted, toggle, standard⟩ := helpDescriptor_mem_plainSheet declared
  split at rendered
  · cases rendered
  · next succeeded =>
      exact ⟨plain, declared, succeeded, rendered, plain.slots, slotted,
        Sheet.showsHelpToggle_iff standard toggle succeeded rendered⟩

/-- The command that explains the others shows the toggle, since its slot has another name. -/
theorem page_shows_help_toggle_of_help_command :
    let call : Call := ⟨{}, "help", [], { application := .str "bx" }⟩
    ∃ page plain, helpCommand.page call = .ok page ∧ helpCommand.plainSheet call = .ok plain ∧
      plain.initialized.state.page = .ok page ∧ ShowsHelpToggle plain.initialized.state := by
  intro call
  let description : Text :=
    "Get a description and instructions for a command, or the list of commands."
  let argument : Descriptor :=
    ⟨.str "COMMAND", .str [], .str "The command for which help is requested.", .single, .unset,
      .bool false⟩
  let plain : Sheet :=
    { application := "bx", category := "MISC", command := "help", description
      slots := ⟨[⟨"COMMAND", .exactly 1⟩]⟩, options := ⟨[helpDescriptor, argument]⟩ }
  have slotsAdded : SlotTable.addAll {} [(.str "COMMAND", .int 1)] = .ok plain.slots := rfl
  have optionsAdded : OptionTable.addAll {}
      ([helpToggle,
        { names := .str "COMMAND"
          description := .str "The command for which help is requested."
          cardinality := .known .single }].map .declared) = .ok plain.options := by cbv
  have slotted : helpCommand.slotTable call = .ok plain.slots := slotsAdded
  have listed : helpCommand.optionTable call = .ok plain.options := optionsAdded
  have declared : helpCommand.plainSheet call = .ok plain := by
    rw [plainSheet, slotted, listed]
    rfl
  have built : plain.Built := ⟨.addAll .empty slotsAdded, .addAll .empty optionsAdded, rfl⟩
  have accepted : plain.slots.collapse.refused = false := by cbv
  have shown : helpCommand.page call = .ok _ :=
    (page_eq_of_initialized declared (built.failure_initialized_iff.mpr accepted)).trans
      (built.page_initialized accepted)
  obtain ⟨sheet, sheetDeclared, _, rendered, slots, sheetSlotted, shows⟩ :=
    page_shows_help_toggle shown
  have free : ¬ slots.TakesHelp := by
    cases slotted.symm.trans sheetSlotted
    rw [SlotTable.takesHelp_iff, Bool.not_eq_true]
    cbv
  exact ⟨_, sheet, shown, sheetDeclared, rendered, shows.mpr free⟩

/-- A command with a slot of the name that the toggle has: its page has no toggle. -/
theorem help_toggle_missing_of_slot :
    let seed : Command :=
      { label := "Seed"
        symbol := .str "seed"
        slots := fun _ => [(.str "help", .int 1)]
        body := .action fun _ => Report.done .okay }
    let call : Call := ⟨{}, "seed", [], { application := .str "bx" }⟩
    ∃ page plain, seed.page call = .ok page ∧ seed.plainSheet call = .ok plain ∧
      plain.initialized.state.page = .ok page ∧
      ¬ ShowsHelpToggle plain.initialized.state := by
  intro seed call
  let plain : Sheet :=
    { application := "bx", category := [], command := "seed", description := []
      slots := ⟨[⟨"help", .exactly 1⟩]⟩, options := ⟨[helpDescriptor]⟩ }
  have declared : seed.plainSheet call = .ok plain := rfl
  have slotsAdded : SlotTable.addAll {} [(.str "help", .int 1)] = .ok plain.slots := rfl
  have optionsAdded : OptionTable.addAll {} ([helpToggle].map .declared) = .ok plain.options := by
    cbv
  have built : plain.Built := ⟨.addAll .empty slotsAdded, .addAll .empty optionsAdded, rfl⟩
  have accepted : plain.slots.collapse.refused = false := by cbv
  have succeeded : plain.initialized.failure = none := built.failure_initialized_iff.mpr accepted
  have rendered := built.page_initialized accepted
  have takes : plain.slots.TakesHelp := by
    rw [SlotTable.takesHelp_iff]
    cbv
  have hidden : ¬ ShowsHelpToggle plain.initialized.state := fun shows =>
    (Sheet.showsHelpToggle_iff rfl List.mem_cons_self succeeded rendered).mp shows takes
  exact ⟨_, plain, (page_eq_of_initialized declared succeeded).trans rendered, declared, rendered,
    hidden⟩

end Command
end Handbook
