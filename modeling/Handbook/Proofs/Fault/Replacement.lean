import Handbook.Proofs.Fault.Options
import Handbook.Proofs.Fault.Surfacing

/-!
# Replacing faults

A fault is replaced by one of its class and its message with settings applied, and
that one by another, any number of times. Each fault on the way has the options of
its class and its host under the settings that came before it, the last one of a
name winning, and is what its constructor makes of the options that the fault
before it carries. To surface a replaced fault with more settings is to surface the
fault itself with the merged ones.
-/

namespace Handbook

/-- Settings none of which has the name that a fault keeps for itself. -/
def Overrides.Unreserved (overrides : Overrides) : Prop :=
  ∀ entry ∈ overrides.extra, entry.1 ≠ Fault.reservedName

theorem Overrides.Unreserved.merge
    {first second : Overrides}
    (firstUnreserved : first.Unreserved)
    (secondUnreserved : second.Unreserved) :
    (first.merge second).Unreserved := by
  intro entry member
  rcases mem_of_mem_foldl_setEntry member with there | set
  · exact firstUnreserved entry there
  · exact secondUnreserved entry set

namespace Fault

variable {fault : Fault} {host : Host} {kind : FaultClass} {message : Value}
variable {overrides given : Overrides} {changes : List Overrides}

/-! ## One replacement -/

/-- Without the reserved name among the settings, a fault is replaced by itself with the settings
applied. -/
theorem replace_of_unreserved (unreserved : overrides.Unreserved) :
    fault.replace [] overrides = .ok (fault.override overrides) := by
  have none : (overrides.extra.any fun entry => entry.1 == reservedName) = false := by
    rw [List.any_eq_false]
    intro entry member same
    exact unreserved entry member (beq_iff_eq.mp same)
  simp [replace, none]

theorem override_merge (fault : Fault) (first second : Overrides) :
    fault.override (first.merge second) = (fault.override first).override second := by
  simp [override, FaultOptions.override_merge]

/-- The message of a fault is one that a fault can have. -/
theorem checkMessage_messageValue (fault : Fault) :
    checkMessage fault.messageValue = .ok fault.message := by
  unfold messageValue
  cases fault.message <;> rfl

/-- A replaced fault is the new fault that the settings make of the options it carries over,
whatever the host gives by then. -/
theorem create_carried
    (distinct : fault.options.Distinct)
    (host : Host)
    (overrides : Overrides) :
    create host fault.kind fault.messageValue (fault.options.carried.merge overrides) =
      .ok (fault.override overrides) := by
  rw [create, checkMessage_messageValue, FaultOptions.override_merge,
    FaultOptions.override_carried distinct]
  rfl

/-- A replaced fault surfaces with more settings as the fault itself does with the merged ones. -/
theorem trigger_override
    {first second : Overrides}
    (firstUnreserved : first.Unreserved)
    (secondUnreserved : second.Unreserved)
    (host : Host) :
    trigger host (.item (fault.override first)) second =
      trigger host (.item fault) (first.merge second) := by
  rw [trigger, trigger, replace_of_unreserved secondUnreserved,
    replace_of_unreserved (firstUnreserved.merge secondUnreserved), override_merge]

/-- A fault surfaces under settings as it does with the settings applied. -/
theorem trigger_of_unreserved (unreserved : overrides.Unreserved) (host : Host) :
    trigger host (.item fault) overrides = (fault.override overrides).surface host := by
  rw [trigger, replace_of_unreserved unreserved]
  simp

/-! ## A chain of replacements -/

/-- A fault and those that replace it, one after another, each with settings of its own. -/
def chain (fault : Fault) : List Overrides → Except Error (List Fault)
  | [] => .ok [fault]
  | change :: rest => do
      let replaced ← fault.replace [] change
      return fault :: (← replaced.chain rest)

/-- A fault of a class, with a message and with the options of the class and a host under
settings that were applied one after another. -/
structure MadeOf
    (fault : Fault)
    (host : Host)
    (kind : FaultClass)
    (message : Value)
    (settings : List Overrides) : Prop where
  kind_eq : fault.kind = kind
  message_eq : fault.messageValue = message
  options_eq : fault.options = settings.foldl FaultOptions.override (.ofClass kind host)

/-- A new fault is made of the settings that it is given. -/
theorem exists_create
    (textual : message = .unset ∨ ∃ text, message = .str text)
    (host : Host)
    (kind : FaultClass)
    (given : Overrides) :
    ∃ fault, create host kind message given = .ok fault ∧
      fault.MadeOf host kind message [given] := by
  rcases textual with rfl | ⟨text, rfl⟩
  · exact ⟨⟨kind, none, _⟩, rfl, rfl, rfl, rfl⟩
  · exact ⟨⟨kind, some text, _⟩, rfl, rfl, rfl, rfl⟩

namespace MadeOf

variable {settings : List Overrides}

/-- Settings that are applied to a fault are those it is made of last. -/
theorem override
    (made : fault.MadeOf host kind message settings)
    (change : Overrides) :
    (fault.override change).MadeOf host kind message (settings ++ [change]) := by
  refine ⟨made.kind_eq, made.message_eq, ?_⟩
  rw [List.foldl_append, ← made.options_eq]
  rfl

theorem foldl_override
    (made : fault.MadeOf host kind message settings)
    (changes : List Overrides) :
    (changes.foldl Fault.override fault).MadeOf host kind message (settings ++ changes) := by
  induction changes generalizing fault settings with
  | nil => simpa using made
  | cons change rest hypothesis => simpa using hypothesis (made.override change)

/-- An option of a fault is the last one of its name that the fault is made of, or that of the
class and the host. -/
theorem get?_eq (made : fault.MadeOf host kind message settings) (name : OptionName) :
    fault.options.get? name =
      (settings.reverse.findSome? fun overrides => overrides.get? name).or
        ((FaultOptions.ofClass kind host).get? name) := by
  rw [made.options_eq, FaultOptions.get?_foldl_override]

theorem distinct (made : fault.MadeOf host kind message settings) : fault.options.Distinct := by
  rw [made.options_eq]
  exact FaultOptions.distinct_foldl_override (FaultOptions.distinct_ofClass kind host) settings

end MadeOf

/-- Each fault of a chain is the first one with the settings applied that stand before it. -/
theorem chain_of_unreserved (unreserved : ∀ change ∈ changes, change.Unreserved) :
    fault.chain changes = .ok (changes.scanl Fault.override fault) := by
  induction changes generalizing fault with
  | nil => rfl
  | cons change rest hypothesis =>
      obtain ⟨first, behind⟩ := List.forall_mem_cons.mp unreserved
      have followed : (fault.override change).chain rest =
          .ok (rest.scanl Fault.override (fault.override change)) := hypothesis behind
      rw [chain, replace_of_unreserved first, List.scanl_cons]
      dsimp only [bind, Except.bind]
      rw [followed]
      rfl

/-- A replaced fault keeps the class and the message, and it has the options of the class and the
host under all settings so far, the last one of a name winning and the extra ones kept; those
that it replaces stay as they were. Each one on the way is what its constructor makes of the
options that the one before it carries, and surfaces with more settings as the one before it does
with the merged ones: it is raised or issued, or printed, and then only an error ends the program,
in shell mode, unless it is deferred or could not be printed. -/
theorem replaced_faults_surface_alike
    (textual : message = .unset ∨ ∃ text, message = .str text)
    (unreserved : ∀ change ∈ changes, change.Unreserved)
    (host present : Host)
    (kind : FaultClass)
    (given : Overrides) :
    ∃ (created : Fault) (chain : List Fault), create host kind message given = .ok created ∧
      created.chain changes = .ok chain ∧
      chain.length = changes.length + 1 ∧
      ∀ place fault, chain[place]? = some fault →
        fault.MadeOf host kind message (given :: changes.take place) ∧
        (∀ name, fault.options.get? name =
          ((given :: changes.take place).reverse.findSome? fun overrides =>
            overrides.get? name).or ((FaultOptions.ofClass kind host).get? name)) ∧
        ∀ first second : Overrides, first.Unreserved → second.Unreserved →
          ∃ replaced surfaced : Fault,
            fault.replace [] first = .ok replaced ∧
            create present kind message (fault.options.carried.merge first) = .ok replaced ∧
            trigger present (.item replaced) second =
              trigger present (.item fault) (first.merge second) ∧
            surfaced.MadeOf host kind message (given :: changes.take place ++ [first, second]) ∧
            surfaced.SurfacesAs present (trigger present (.item fault) (first.merge second)) := by
  obtain ⟨created, isCreated, made⟩ := exists_create textual host kind given
  refine ⟨created, changes.scanl Fault.override created, isCreated,
    chain_of_unreserved unreserved, List.length_scanl, ?_⟩
  intro place fault stands
  have reached : fault = (changes.take place).foldl Fault.override created := by
    rw [List.getElem?_scanl] at stands
    split at stands
    · exact (Option.some.inj stands).symm
    · cases stands
  have madeHere : fault.MadeOf host kind message (given :: changes.take place) :=
    reached ▸ made.foldl_override (changes.take place)
  refine ⟨madeHere, madeHere.get?_eq, ?_⟩
  intro first second firstUnreserved secondUnreserved
  have remade : create present kind message (fault.options.carried.merge first) =
      .ok (fault.override first) := by
    rw [← madeHere.kind_eq, ← madeHere.message_eq]
    exact create_carried madeHere.distinct present first
  have surfaces : trigger present (.item fault) (first.merge second) =
      (fault.override (first.merge second)).surface present :=
    trigger_of_unreserved (firstUnreserved.merge secondUnreserved) present
  refine ⟨fault.override first, fault.override (first.merge second),
    replace_of_unreserved firstUnreserved, remade,
    trigger_override firstUnreserved secondUnreserved present, ?_, ?_⟩
  · rw [override_merge]
    exact madeHere.foldl_override [first, second]
  · rw [surfaces]
    exact surfacesAs_surface _ present

/-- An error with an extra option that is replaced twice, the second time with another value of
that option, and then once more before it surfaces: it is printed and ends the program, since it
is deferred by the settings before the last ones only. -/
theorem replaced_faults_surface_alike_of_deferred_error :
    let given : Overrides := { hint := some (.str "try"), extra := [("mood", .int 1)] }
    let changes : List Overrides :=
      [{ shell := some (.bool true) }, { hint := some (.str "again"), extra := [("mood", .int 2)] }]
    let first : Overrides := { deferred := some (.bool true) }
    let second : Overrides :=
      { deferred := some (.bool false), stream := some (.channel .output) }
    (∀ change ∈ changes, change.Unreserved) ∧ first.Unreserved ∧ second.Unreserved ∧
      ∃ fault replaced : Fault,
        fault.MadeOf {} .invalidParameter (.str "bad") (given :: changes) ∧
        latest? fault.options.extra "mood" = some (.int 2) ∧
        fault.replace [] first = .ok replaced ∧
        trigger {} (.item replaced) second =
          ⟨{ out := "[ synopsis — 11111 | Invalid Parameter ]\nbad\n → again\n" },
            .error (.exit 1)⟩ := by
  intro given changes first second
  have unreserved : ∀ change ∈ changes, change.Unreserved := by
    unfold Overrides.Unreserved
    decide
  have firstUnreserved : first.Unreserved := nofun
  have secondUnreserved : second.Unreserved := nofun
  obtain ⟨_, _, isCreated, isChain, _, each⟩ :=
    replaced_faults_surface_alike (.inr ⟨"bad", rfl⟩) unreserved {} {} .invalidParameter given
  cases isCreated
  cases isChain
  obtain ⟨made, _, alike⟩ := each 2 _ rfl
  obtain ⟨replaced, _, isReplaced, _, same, _, _⟩ :=
    alike first second firstUnreserved secondUnreserved
  refine ⟨unreserved, firstUnreserved, secondUnreserved, _, replaced, made, rfl, isReplaced, ?_⟩
  rw [same, trigger_of_unreserved (firstUnreserved.merge secondUnreserved)]
  generalize ended : Fault.override _ (first.merge second) = last
  have laidOut : (last.page {}).failure = none ∧
      (last.page {}).state = "[ synopsis — 11111 | Invalid Parameter ]\nbad\n → again\n" := by
    rw [← ended]
    decide +kernel
  obtain ⟨printed, page⟩ := laidOut
  have loud : last.options.shell.truthy = true := by rw [← ended]; rfl
  have outlet : last.options.stream = .channel .output := by rw [← ended]; rfl
  have strict : (last.kind.isWarning || last.options.deferred.truthy) = false := by
    rw [← ended]; rfl
  have shown : last.printing {} = Report.write .output (last.page {}).state := by
    rw [printing, outlet]
    exact Report.printTo_of_none printed
  rw [surface_of_loud loud, shown, page, strict]
  rfl

/-- In shell mode an error that is not deferred does not end the program where its title is no
text: its printing is refused before that. -/
theorem trigger_of_untitled_error :
    let settings : Overrides :=
      { shell := some (.bool true), stream := some (.channel .output) }
    ∃ fault, create {} .unknownCommand (.str "boom") { title := some (.int 5) } = .ok fault ∧
      settings.Unreserved ∧
      (fault.override settings).options.shell.truthy = true ∧
      (fault.override settings).options.deferred.truthy = false ∧
      (trigger {} (.item fault) settings).result ≠ .error (.exit 1) ∧
      trigger {} (.item fault) settings = Report.refuse (.noAttribute "int" "title") := by
  intro settings
  exact ⟨_, rfl, nofun, rfl, rfl, nofun, rfl⟩

end Fault
end Handbook
