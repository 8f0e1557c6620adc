import Handbook.Proofs.Fault.Entries

/-!
# The options of a fault

Options are set by name, and a later setting wins over an earlier one, whether the
name is one that every fault has or an extra one. Settings that are applied one
after another are the same as their merge applied at once; and a fault that is made
anew with the options it carries has these options, whatever its class and its host
would give it.
-/

namespace Handbook

/-- The name of an option: one that every fault has, or an extra one. -/
inductive OptionName
  | prog
  | code
  | title
  | hint
  | shell
  | fancy
  | colorful
  | deferred
  | stream
  | extra (name : Text)

/-- What an option is set to. -/
inductive Setting
  | value (value : Value)
  | code (code : FaultCode)
  | channel (channel : Channel)

/-- What stands where a code is due, as a setting. -/
def CodeMark.setting : CodeMark → Setting
  | .code named => .code named
  | .value other => .value other

/-- Where a fault is printed, as a setting. -/
def Outlet.setting : Outlet → Setting
  | .channel written => .channel written
  | .value other => .value other

/-- The setting of a name among options, if the name has one. -/
def FaultOptions.get? (options : FaultOptions) : OptionName → Option Setting
  | .prog => some (.value options.prog)
  | .code => some options.code.setting
  | .title => some (.value options.title)
  | .hint => some (.value options.hint)
  | .shell => some (.value options.shell)
  | .fancy => some (.value options.fancy)
  | .colorful => some (.value options.colorful)
  | .deferred => some (.value options.deferred)
  | .stream => some options.stream.setting
  | .extra name => (latest? options.extra name).map .value

/-- The setting of a name among settings, if the name has one. -/
def Overrides.get? (overrides : Overrides) : OptionName → Option Setting
  | .prog => overrides.prog.map .value
  | .code => overrides.code.map CodeMark.setting
  | .title => overrides.title.map .value
  | .hint => overrides.hint.map .value
  | .shell => overrides.shell.map .value
  | .fancy => overrides.fancy.map .value
  | .colorful => overrides.colorful.map .value
  | .deferred => overrides.deferred.map .value
  | .stream => overrides.stream.map Outlet.setting
  | .extra name => (latest? overrides.extra name).map .value

/-! ## Later settings win -/

/-- An option has the setting that is applied to it, or else the one it had. -/
theorem FaultOptions.get?_override
    (options : FaultOptions)
    (overrides : Overrides)
    (name : OptionName) :
    (options.override overrides).get? name = (overrides.get? name).or (options.get? name) := by
  have chosen : ∀ {Held : Type} (shown : Held → Setting) (set : Option Held) (held : Held),
      some (shown (set.getD held)) = (set.map shown).or (some (shown held)) := by
    intro Held shown set held
    cases set <;> rfl
  cases name with
  | extra name =>
      simp only [get?, Overrides.get?, override, latest?_foldl_setEntry, Option.map_or]
  | _ => exact chosen _ _ _

/-- Settings that are applied one after another are their merge applied at once. -/
theorem FaultOptions.override_merge (options : FaultOptions) (first second : Overrides) :
    options.override (first.merge second) = (options.override first).override second := by
  have chosen : ∀ {Held : Type} (held : Held) (earlier later : Option Held),
      (later <|> earlier).getD held = later.getD (earlier.getD held) := by
    intro Held held earlier later
    cases later <;> rfl
  simp only [override, Overrides.merge, chosen, foldl_foldl_setEntry]

/-- Of settings that are applied one after another, an option has the last one of its name. -/
theorem FaultOptions.get?_foldl_override
    (options : FaultOptions)
    (settings : List Overrides)
    (name : OptionName) :
    (settings.foldl override options).get? name =
      (settings.reverse.findSome? fun overrides => overrides.get? name).or
        (options.get? name) := by
  induction settings using List.reverseRecOn with
  | nil => rfl
  | append_singleton settings overrides hypothesis =>
      rw [List.foldl_append, List.foldl_cons, List.foldl_nil, get?_override, hypothesis,
        List.reverse_append, List.reverse_singleton, List.singleton_append, List.findSome?_cons]
      cases overrides.get? name <;> rfl

/-! ## Options that are carried over -/

namespace FaultOptions

/-- The settings that give a fault all the options of another. -/
def carried (options : FaultOptions) : Overrides :=
  { prog := some options.prog
    code := some options.code
    title := some options.title
    hint := some options.hint
    shell := some options.shell
    fancy := some options.fancy
    colorful := some options.colorful
    deferred := some options.deferred
    stream := some options.stream
    extra := options.extra }

/-- Options whose extra names are different ones. -/
def Distinct (options : FaultOptions) : Prop :=
  (entryNames options.extra).Nodup

theorem distinct_ofClass (kind : FaultClass) (host : Host) : (ofClass kind host).Distinct :=
  List.nodup_nil

theorem Distinct.override
    {options : FaultOptions}
    (distinct : options.Distinct)
    (overrides : Overrides) :
    (options.override overrides).Distinct :=
  nodup_foldl_setEntry distinct overrides.extra

theorem distinct_foldl_override
    {options : FaultOptions}
    (distinct : options.Distinct)
    (settings : List Overrides) :
    (settings.foldl FaultOptions.override options).Distinct := by
  induction settings generalizing options with
  | nil => exact distinct
  | cons overrides rest hypothesis => exact hypothesis (distinct.override overrides)

/-- Carried over, options leave nothing of those that a class and a host would give. -/
theorem override_carried
    {options : FaultOptions}
    (distinct : options.Distinct)
    (kind : FaultClass)
    (host : Host) :
    (ofClass kind host).override options.carried = options := by
  have extra : options.extra.foldl setEntry [] = options.extra := foldl_setEntry_nil distinct
  cases options
  simpa [carried, FaultOptions.override, ofClass] using extra

end FaultOptions
end Handbook
