import Handbook.Layout.Outline
import Handbook.Sheet.Basic

/-!
# The outline of a help sheet

A help sheet shown as a nested record: the names of its command, its runs and
its parameters with all their fields.
-/

namespace Handbook

open Layout

/-- A field of a record: its name and the written form of its value. -/
def outlineField (name : Text) (value : Value) : Outline :=
  .leaf (name ++ '=' :: value.written)

namespace Run

/-- The outline of a run. -/
def outline (run : Run) : Outline :=
  .branch "ArgumentNameCount("
    [outlineField "name" (.str run.name), outlineField "count" (.int run.count)] ")"

end Run

namespace Parameter

/-- The outline of a parameter. -/
def outline (parameter : Parameter) : Outline :=
  .branch "Parameter("
    (parameter.fields.map (fun field => outlineField field.1 field.2) ++
      [outlineField "format_name" (.str parameter.formatName)]) ")"

end Parameter

namespace Sheet

/-- The outline of a help sheet. -/
def outline (sheet : Sheet) : Outline :=
  .branch "Printer("
    [outlineField "application" (.str sheet.application),
      outlineField "category" (.str sheet.category),
      outlineField "command" (.str sheet.command),
      .branch "argument_names=[" (sheet.runs.map Run.outline) "]",
      .branch "parameters=[" (sheet.parameters.map Parameter.outline) "]"] ")"

end Sheet
end Handbook
