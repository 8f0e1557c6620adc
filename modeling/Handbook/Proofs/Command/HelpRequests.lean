import Handbook.Proofs.Command.Help
import Handbook.Proofs.Command.HelpToggle
import Handbook.Proofs.Sheet.FailedRenewal

/-!
# Requests for help

The help of a command is asked for in several ways: an instance writes it, a help
switch stands behind the symbol, or the help command is given the symbol. Whatever
keeps a command from having a page is met before anything of the page is written, so
each request writes a whole page, or nothing.
-/

namespace Handbook

variable {command : Command}

namespace Command

variable {call : Call} {page : Text} {error : Error}

/-! ## Pages and what stands in their way -/

/-- The help page of a command: that of a sheet which holds all its declarations and could be
initialized. -/
def HasPage (command : Command) (call : Call) (page : Text) : Prop :=
  ∃ plain, command.plainSheet call = .ok plain ∧ plain.initialized.failure = none ∧
    plain.initialized.state.page = .ok page

/-- The values that a help sheet shows as texts, and what they are called. -/
def sheetTexts (command : Command) (call : Call) : List (Text × Value) :=
  [("application", call.settings.application), ("category", command.category),
    ("command", command.symbol), ("description", command.description)]

/-- What keeps a command from having a page: the first slot or, behind the help toggle, the first
option that is refused, the first value that should be a text, an obstacle to the sheet of all
declarations, or a parameter that cannot be laid out. -/
inductive PageObstacle (command : Command) (call : Call) : Error → Prop
  | slot
      {front rest : List (Value × Value)}
      {slot : Value × Value}
      {before : SlotTable}
      {error : Error}
      (declared : command.slots call = front ++ slot :: rest)
      (accepted : SlotTable.addAll {} front = .ok before)
      (refused : before.add slot.1 slot.2 = .error error) : PageObstacle command call error
  | option
      {slots : SlotTable}
      {front rest : List OptionEntry}
      {entry : OptionEntry}
      {before : OptionTable}
      {error : Error}
      (slotted : command.slotTable call = .ok slots)
      (declared : command.options call = front ++ entry :: rest)
      (accepted : OptionTable.addAll {} (.declared helpToggle :: front) = .ok before)
      (refused : before.add entry = .error error) : PageObstacle command call error
  | text
      {slots : SlotTable}
      {options : OptionTable}
      {front rest : List (Text × Value)}
      {label : Text}
      {value : Value}
      (slotted : command.slotTable call = .ok slots)
      (optioned : command.optionTable call = .ok options)
      (listed : command.sheetTexts call = front ++ (label, value) :: rest)
      (texts : ∀ shown ∈ front, shown.2.text?.isSome)
      (other : value.text? = none) : PageObstacle command call (.sheetTextExpected label)
  | sheet
      {plain : Sheet}
      {error : Error}
      (declared : command.plainSheet call = .ok plain)
      (obstacle : plain.Obstacle error) : PageObstacle command call error
  | layout
      {plain : Sheet}
      {error : Error}
      (declared : command.plainSheet call = .ok plain)
      (initialized : plain.initialized.failure = none)
      (refused : plain.initialized.state.page = .error error) : PageObstacle command call error

/-- A value is refused as a text when it is none. -/
theorem checkText_eq_error_iff {label : Text} {value : Value} :
    Sheet.checkText label value = .error error ↔
      value.text? = none ∧ error = .sheetTextExpected label := by
  cases value <;> simp [Sheet.checkText, Value.text?, eq_comm]

/-- Values that are all texts pass as texts. -/
theorem mapM_checkText_eq_ok_iff {shown : List (Text × Value)} :
    (∃ texts, shown.mapM (fun entry => Sheet.checkText entry.1 entry.2) = .ok texts) ↔
      ∀ entry ∈ shown, entry.2.text?.isSome := by
  constructor
  · rintro ⟨texts, checked⟩ entry member
    have among := List.mem_map_of_mem (f := fun entry => Sheet.checkText entry.1 entry.2) member
    rw [map_eq_of_mapM_eq_ok checked] at among
    obtain ⟨text, _, passed⟩ := List.mem_map.mp among
    by_contra other
    rw [Option.not_isSome_iff_eq_none] at other
    rw [checkText_eq_error_iff.mpr ⟨other, rfl⟩] at passed
    cases passed
  · intro texts
    refine ⟨shown.map fun entry => entry.2.text?.getD [], mapM_eq_ok_map fun entry member => ?_⟩
    obtain ⟨text, named⟩ := Option.isSome_iff_exists.mp (texts entry member)
    rw [Value.text?_eq_some_iff.mp named]
    rfl

/-- A sheet is refused for the texts it shows, when its tables are there. -/
theorem create_eq_error_iff {slots : SlotTable} {options : OptionTable} :
    Sheet.create call.settings.application command.category command.symbol command.description
        (.table slots) (.table options) {} = .error error ↔
      (command.sheetTexts call).mapM (fun shown => Sheet.checkText shown.1 shown.2) =
        .error error := by
  unfold Sheet.create sheetTexts
  simp only [List.mapM_cons, List.mapM_nil, bind_eq_error_iff, Sheet.checkTable, pure, Except.pure]
  simp

theorem slotTable_eq_error_iff :
    command.slotTable call = .error error ↔
      ∃ front slot rest before, command.slots call = front ++ slot :: rest ∧
        SlotTable.addAll {} front = .ok before ∧ before.add slot.1 slot.2 = .error error :=
  foldlM_eq_error_iff

/-- The help toggle is always accepted, so that a refused option is one of the command's own. -/
theorem optionTable_eq_error_iff :
    command.optionTable call = .error error ↔
      ∃ front entry rest before, command.options call = front ++ entry :: rest ∧
        OptionTable.addAll {} (.declared helpToggle :: front) = .ok before ∧
        before.add entry = .error error := by
  have toggled : OptionTable.add {} (.declared helpToggle) = .ok ⟨[helpDescriptor]⟩ := by cbv
  have behind : ∀ entries, OptionTable.addAll {} (.declared helpToggle :: entries) =
      entries.foldlM OptionTable.add ⟨[helpDescriptor]⟩ := by
    intro entries
    rw [OptionTable.addAll, List.foldlM_cons, toggled]
    rfl
  rw [optionTable, behind, foldlM_eq_error_iff]
  simp only [behind]

theorem plainSheet_eq_error_iff :
    command.plainSheet call = .error error ↔
      command.slotTable call = .error error ∨
        ∃ slots, command.slotTable call = .ok slots ∧
          (command.optionTable call = .error error ∨
            ∃ options, command.optionTable call = .ok options ∧
              (command.sheetTexts call).mapM (fun shown => Sheet.checkText shown.1 shown.2) =
                .error error) := by
  simp only [plainSheet, bind_eq_error_iff, create_eq_error_iff]

theorem page_eq_ok_iff : command.page call = .ok page ↔ command.HasPage call page := by
  constructor
  · intro made
    obtain ⟨plain, declared, laidOut⟩ := exists_of_bind_eq_ok made
    cases failed : plain.initialized.failure with
    | some error => simp [failed] at laidOut
    | none =>
        rw [failed] at laidOut
        exact ⟨plain, declared, failed, laidOut⟩
  · rintro ⟨plain, declared, initialized, laidOut⟩
    rw [page_eq_of_initialized declared initialized, laidOut]

/-- A command has no page exactly when there is an obstacle. -/
theorem page_eq_error_iff : command.page call = .error error ↔ command.PageObstacle call error := by
  constructor
  · intro refused
    rcases bind_eq_error_iff.mp refused with undeclared | ⟨plain, declared, stopped⟩
    · rcases plainSheet_eq_error_iff.mp undeclared with
        unslotted | ⟨slots, slotted, unoptioned | ⟨options, optioned, untexted⟩⟩
      · obtain ⟨front, slot, rest, before, whole, accepted, refused⟩ :=
          slotTable_eq_error_iff.mp unslotted
        exact .slot whole accepted refused
      · obtain ⟨front, entry, rest, before, whole, accepted, refused⟩ :=
          optionTable_eq_error_iff.mp unoptioned
        exact .option slotted whole accepted refused
      · obtain ⟨front, ⟨label, value⟩, rest, listed, checked, refused⟩ :=
          mapM_eq_error_iff.mp untexted
        obtain ⟨other, rfl⟩ := checkText_eq_error_iff.mp refused
        exact .text slotted optioned listed (mapM_checkText_eq_ok_iff.mp checked) other
    · cases failed : plain.initialized.failure with
      | some refusal =>
          rw [failed] at stopped
          cases stopped
          exact .sheet declared (Sheet.failure_initialized_eq_some_iff.mp failed)
      | none =>
          rw [failed] at stopped
          exact .layout declared failed stopped
  · intro obstacle
    cases obstacle with
    | slot declared accepted refused =>
        have unslotted := slotTable_eq_error_iff.mpr ⟨_, _, _, _, declared, accepted, refused⟩
        exact bind_eq_error_iff.mpr (.inl (plainSheet_eq_error_iff.mpr (.inl unslotted)))
    | option slotted declared accepted refused =>
        have unoptioned := optionTable_eq_error_iff.mpr ⟨_, _, _, _, declared, accepted, refused⟩
        exact bind_eq_error_iff.mpr
          (.inl (plainSheet_eq_error_iff.mpr (.inr ⟨_, slotted, .inl unoptioned⟩)))
    | text slotted optioned listed texts other =>
        have untexted := mapM_eq_error_iff.mpr ⟨_, _, _, listed,
          mapM_checkText_eq_ok_iff.mpr texts, checkText_eq_error_iff.mpr ⟨other, rfl⟩⟩
        exact bind_eq_error_iff.mpr
          (.inl (plainSheet_eq_error_iff.mpr (.inr ⟨_, slotted, .inr ⟨_, optioned, untexted⟩⟩)))
    | sheet declared obstacle =>
        have failed := Sheet.failure_initialized_eq_some_iff.mpr obstacle
        exact bind_eq_error_iff.mpr (.inr ⟨_, declared, by rw [failed]⟩)
    | layout declared initialized refused =>
        rw [page_eq_of_initialized declared initialized, refused]

/-- What keeps a command from answering a request for its help: it has no body, and then no
instances, or there is an obstacle to its page. -/
inductive HelpObstacle (command : Command) (call : Call) : Error → Prop
  | body
      (missing : command.body = .missing) : HelpObstacle command call (.bodyMissing command.label)
  | page
      {error : Error}
      (concrete : Registry.IsConcrete command)
      (obstacle : command.PageObstacle call error) : HelpObstacle command call error

/-- A command with a body has a help page, or there is an obstacle. -/
theorem helpPage_cases (command : Command) (call : Call) :
    (∃ page, command.helpPage call = .ok page ∧ command.HasPage call page) ∨
      ∃ error, command.helpPage call = .error error ∧ command.HelpObstacle call error := by
  by_cases concrete : Registry.IsConcrete command
  · rw [helpPage_of_concrete concrete]
    cases outcome : command.page call with
    | ok page => exact .inl ⟨page, rfl, page_eq_ok_iff.mp outcome⟩
    | error error => exact .inr ⟨error, rfl, .page concrete (page_eq_error_iff.mp outcome)⟩
  · have missing : command.body = .missing := not_not.mp concrete
    exact .inr ⟨_, helpPage_of_missing missing, .body missing⟩

end Command

/-! ## Requests -/

/-- A request for the help of a command: an instance of it writes its help; a help switch stands
behind its symbol on a command line; a command line begins with a command whose body is that of the
help command, and goes on with its symbol; or the help command is called with its symbol alone. -/
inductive HelpRequest (command : Command)
  | direct
      (call : Call)
      (concrete : Registry.IsConcrete command)
  | switch
      (registry : Registry)
      (host : Host)
      (given : Settings)
      (arguments : Value)
      (symbol : Text)
      (tokens : List Value)
      (split : Registry.tokensOf arguments = .ok (.str symbol :: tokens))
      (found : registry.lookup symbol = some command)
      (asked : AsksForHelp tokens)
  | helpLine
      (registry : Registry)
      (host : Host)
      (given : Settings)
      (arguments : Value)
      (helper : Command)
      (helperSymbol symbol : Text)
      (split : Registry.tokensOf arguments = .ok [.str helperSymbol, .str symbol])
      (helperFound : registry.lookup helperSymbol = some helper)
      (helping : helper.body = .help)
      (notAsked : ¬ AsksForHelp [.str symbol])
      (found : registry.lookup symbol = some command)
  | helpCall
      (registry : Registry)
      (own : Call)
      (symbol : Text)
      (named : own.tokens = [.str symbol])
      (found : registry.lookup symbol = some command)

namespace HelpRequest

/-- The call for which a request asks for help. -/
def call : HelpRequest command → Call
  | direct call _ => call
  | switch _ host given _ symbol tokens _ _ _ => ⟨host, symbol, tokens, given.resolve host⟩
  | helpLine _ host given _ _ _ symbol _ _ _ _ _ => ⟨host, symbol, [], given.resolve host⟩
  | helpCall _ own symbol _ _ => ⟨own.host, symbol, [], own.settings.resolve own.host⟩

/-- What a request shows and how it ends. -/
def report : HelpRequest command → Report Verdict
  | direct call _ => (command.writeHelp call).andThen fun _ => Report.done .okay
  | switch registry host given arguments _ _ _ _ _ => registry.dispatch host given arguments
  | helpLine registry host given arguments _ _ _ _ _ _ _ _ =>
      registry.dispatch host given arguments
  | helpCall registry own _ _ _ => registry.runHelp own

/-- The help command answers for a symbol whatever its own symbol is. -/
theorem unnoted_runHelp_of_tokens
    {registry : Registry}
    {own : Call}
    {symbol : Text}
    (named : own.tokens = [.str symbol])
    (found : registry.lookup symbol = some command) :
    (registry.runHelp own).unnoted =
      Report.ofPage
        (command.helpPage ⟨own.host, symbol, [], own.settings.resolve own.host⟩) := by
  rw [← Registry.unnoted_runHelp_of_symbol found own.settings, Registry.runHelp, Registry.runHelp,
    named]

theorem dispatch_eq_of_tokensOf
    {registry : Registry}
    {host : Host}
    {given : Settings}
    {arguments : Value}
    {tokens : List Value}
    (split : Registry.tokensOf arguments = .ok tokens) :
    registry.dispatch host given arguments = registry.dispatch host given (.list tokens) := by
  rw [Registry.dispatch_list, Registry.dispatch, split]
  simp

/-- A request is answered with the help page of the command, or refused for the reason for which it
has none. -/
theorem unnoted_report (request : HelpRequest command) :
    request.report.unnoted = Report.ofPage (command.helpPage request.call) := by
  cases request with
  | direct call concrete =>
      rw [report, HelpRequest.call, Command.helpPage_of_concrete concrete, Report.ofPage_eq]
      simp
  | switch registry host given arguments symbol tokens split found asked =>
      rw [report, dispatch_eq_of_tokensOf split]
      exact Registry.unnoted_dispatch_of_asksForHelp found asked
  | helpLine registry host given arguments helper helperSymbol symbol split helperFound helping
      notAsked found =>
      have concrete : Registry.IsConcrete helper := by
        rw [Registry.IsConcrete, helping]
        simp
      let own : Call := ⟨host, helperSymbol, [.str symbol], given.resolve host⟩
      have ran : registry.invoke ⟨helper, own⟩ = registry.runHelp own := by
        simp only [Registry.invoke, helping]
      have answered : (registry.runHelp own).unnoted = _ :=
        unnoted_runHelp_of_tokens rfl found
      rw [Settings.resolve_resolve] at answered
      rw [report, dispatch_eq_of_tokensOf split,
        Registry.unnoted_dispatch_of_not_asksForHelp helperFound concrete notAsked, ran, answered]
      rfl
  | helpCall registry own symbol named found =>
      exact unnoted_runHelp_of_tokens named found

/-- Whatever a command declares, a request for its help writes the whole page of all declarations
and succeeds, or it meets an obstacle and is refused for it, with nothing written. -/
theorem writes_whole_page_or_nothing (request : HelpRequest command) :
    (∃ page, command.HasPage request.call page ∧
      request.report.unnoted = ⟨{ out := page }, .ok .okay⟩) ∨
    ∃ error, command.HelpObstacle request.call error ∧
      request.report.unnoted = ⟨{}, .error (.error error)⟩ := by
  rw [unnoted_report]
  rcases command.helpPage_cases request.call with ⟨page, made, hasPage⟩ | ⟨error, refused, obstacle⟩
  · rw [made]
    exact .inl ⟨page, hasPage, rfl⟩
  · rw [refused]
    exact .inr ⟨error, obstacle, rfl⟩

/-- A command that declares the help toggle once more, asked for help by a switch, and the help
command, asked for its own help. -/
theorem writes_whole_page_or_nothing_of_clashing_option :
    let seed : Command :=
      { label := "Seed"
        symbol := .str "seed"
        options := fun _ =>
          [.declared { names := .str "bit_length,b" }, .declared { names := .str "help" }]
        body := .action fun _ => Report.done .okay }
    let registry : Registry := ⟨[("help", helpCommand), ("seed", seed)]⟩
    let seedCall : Call := ⟨{}, "seed", [.str "--help"], Settings.resolve {} {}⟩
    let helpCall : Call := ⟨{}, "help", [], Settings.resolve {} {}⟩
    (seed.HelpObstacle seedCall (.longNameInUse (.str "help")) ∧
      (registry.dispatch {} {} (.list [.str "seed", .str "--help"])).unnoted =
        ⟨{}, .error (.error (.longNameInUse (.str "help")))⟩) ∧
      ∃ page, helpCommand.HasPage helpCall page ∧
        (registry.dispatch {} {} (.list [.str "help", .str "help"])).unnoted =
          ⟨{ out := page }, .ok .okay⟩ := by
  intro seed registry seedCall helpCall
  have seedFound : registry.lookup "seed" = some seed := rfl
  have helpFound : registry.lookup "help" = some helpCommand := rfl
  constructor
  · have pageless : seed.helpPage seedCall = .error (.longNameInUse (.str "help")) := by cbv
    let request : HelpRequest seed :=
      .switch registry {} {} (.list [.str "seed", .str "--help"]) "seed" [.str "--help"] rfl
        seedFound (.inl List.mem_cons_self)
    have answered : request.report.unnoted =
        Report.ofPage (.error (.longNameInUse (.str "help"))) :=
      pageless ▸ unnoted_report request
    rcases writes_whole_page_or_nothing request with ⟨page, _, written⟩ | ⟨error, obstacle, refused⟩
    · cases answered.symm.trans written
    · cases answered.symm.trans refused
      exact ⟨obstacle, refused⟩
  · have succeeded :
        (registry.dispatch {} {} (.list [.str "help", .str "help"])).result.toOption =
          some .okay := by decide +kernel
    let request : HelpRequest helpCommand :=
      .helpLine registry {} {} (.list [.str "help", .str "help"]) helpCommand "help" "help" rfl
        helpFound rfl (by simp [AsksForHelp]) helpFound
    rcases writes_whole_page_or_nothing request with written | ⟨error, _, refused⟩
    · exact written
    · have stopped : (registry.dispatch {} {} (.list [.str "help", .str "help"])).result =
          .error (.error error) :=
        congrArg Report.result refused
      rw [stopped] at succeeded
      cases succeeded

end HelpRequest
end Handbook
