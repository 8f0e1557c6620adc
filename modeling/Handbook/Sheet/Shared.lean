import Handbook.Sheet.Layout
import Handbook.Sheet.Outline

/-!
# Sheets in use

A sheet hands out its parameters themselves, and only the lists that hold them
are copies: whoever has asked for a parameter can change it later, and the sheet
shows the change as long as it lists that parameter. Once the parameters are made
anew the sheet lists other ones, and the former ones stay with their readers.
-/

namespace Handbook

/-- A sheet, and the parameters that it has listed before, in the order in which they were made. A
reader knows a parameter by its place among all of them, the former ones coming first. -/
structure SharedSheet where
  sheet : Sheet
  former : List Parameter := []

/-- A text that is asked of a sheet. -/
inductive Rendering
  | table (positional : Value)
  | paragraph (text : Value)
  | usage
  | usageParameters
  | information
  | page
  | outline

/-- The text that is asked for. -/
def Rendering.text (rendering : Rendering) (sheet : Sheet) : Except Error Text :=
  match rendering with
  | table positional => sheet.table positional
  | paragraph text => Sheet.paragraph text
  | usage => sheet.usage
  | usageParameters => sheet.usageParameters
  | information => .ok sheet.information
  | page => sheet.page
  | outline => .ok sheet.outline.text

/-- What is done to a sheet in use. -/
inductive Operation
  | addOption (entry : OptionEntry)
  | addSlot (name count : Value)
  | renewRuns
  | renewParameters
  | renew
  | assign (place : Nat) (field value : Value)
  | clearCopies
  | render (rendering : Rendering)

namespace SharedSheet

/-- The sheet after a step that is taken or refused as a whole. -/
def attempt (shared : SharedSheet) (step : Except Error SharedSheet) : Aftermath SharedSheet :=
  match step with
  | .ok after => ⟨after, none⟩
  | .error error => ⟨shared, some error⟩

/-- The sheet after its parameters were to be made anew: if they were, the ones that it listed are
former ones from now on. -/
def relist (shared : SharedSheet) (made : Aftermath Sheet) : Aftermath SharedSheet :=
  match made.failure with
  | none => ⟨{ sheet := made.state, former := shared.former ++ shared.sheet.parameters }, none⟩
  | some error => ⟨{ shared with sheet := made.state }, some error⟩

/-- A field of a parameter changed, be it a former one or one that the sheet lists. -/
def assign (shared : SharedSheet) (place : Nat) (field value : Value) :
    Except Error SharedSheet :=
  match shared.former[place]? with
  | some parameter =>
      (parameter.assign field value).map fun changed =>
        { shared with former := shared.former.set place changed }
  | none =>
      let index := Value.int (place - shared.former.length : Nat)
      (shared.sheet.changeParameter index field value).map fun changed =>
        { shared with sheet := changed.1 }

/-- The sheet after an operation. -/
def perform (shared : SharedSheet) : Operation → Aftermath SharedSheet
  | .addOption entry =>
      shared.attempt ((shared.sheet.addOption entry).map fun sheet => { shared with sheet })
  | .addSlot name count =>
      shared.attempt ((shared.sheet.addSlot name count).map fun sheet => { shared with sheet })
  | .renewRuns =>
      let walked := shared.sheet.generateRuns
      ⟨{ shared with sheet := walked.state }, walked.failure⟩
  | .renewParameters => shared.relist shared.sheet.generateParameters
  | .renew => shared.relist shared.sheet.initialized
  | .assign place field value => shared.attempt (shared.assign place field value)
  | .clearCopies => ⟨shared, none⟩
  | .render rendering => shared.attempt ((rendering.text shared.sheet).map fun _ => shared)

/-- The sheet after several operations, the refused ones among them. -/
def run (shared : SharedSheet) (operations : List Operation) : SharedSheet :=
  operations.foldl (fun current operation => (current.perform operation).state) shared

@[simp] theorem run_cons
    (shared : SharedSheet)
    (operation : Operation)
    (operations : List Operation) :
    shared.run (operation :: operations) =
      (shared.perform operation).state.run operations := rfl

end SharedSheet
end Handbook
