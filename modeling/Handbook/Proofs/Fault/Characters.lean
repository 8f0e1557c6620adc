import Handbook.Proofs.Layout.Unstyled
import Handbook.Report

/-!
# The characters of a drawing

A colorful fault is drawn with styles and any other one without. The characters are the
same in both drawings, and so is what keeps a fault from being drawn. Wherever drawings
are laid out by their characters, a fault looks the same with and without its styles.
-/

namespace Handbook

/-! ## Leaving the styles out -/

/-- A drawing without its styles. -/
def Drawing.unstyled (drawing : Drawing) : Drawing :=
  { drawing with
    header := drawing.header.unstyled
    body := drawing.body.map StyledText.unstyled }

@[simp] theorem Drawing.unstyled_unstyled (drawing : Drawing) :
    drawing.unstyled.unstyled = drawing.unstyled := by
  simp [unstyled, StyledText.unstyled, Function.comp_def]

namespace Fault

variable {fault : Fault} {host : Host}

/-- A fault that is colorful if a value says so. -/
def colored (fault : Fault) (colorful : Value) : Fault :=
  { fault with options := { fault.options with colorful } }

/-! ## The characters of a fault -/

/-- The characters that are shown for a value: none if it does not count. -/
def shownCharacters (value : Value) : Text :=
  if value.truthy then StyledText.strip value.displayed else []

/-- A part of a drawing has the characters of its value, colorful or not. -/
@[simp] theorem plain_part (fault : Fault) (value style : Value) :
    (fault.part value style).plain = shownCharacters value := by
  unfold part shownCharacters
  cases value.truthy with
  | false => rfl
  | true =>
      cases fault.isColorful with
      | false => rfl
      | true => cases value <;> rfl

/-- The drawing of a fault with its characters only. -/
def plainDrawing (fault : Fault) (host : Host) : Except Error Drawing := do
  let _ ← styleTable host fault.kind
  let code ← fault.codeValue host
  let title ← fault.titleValue
  let header := "[ " ++ shownCharacters fault.options.prog ++ " — " ++ shownCharacters code ++
    " | " ++ shownCharacters title ++ " ]"
  let hint :=
    if fault.options.hint.truthy then [" → " ++ shownCharacters fault.options.hint] else []
  return {
    framed := fault.options.fancy.truthy
    header := { plain := header }
    body := (shownCharacters fault.messageValue :: hint).map fun plain => { plain } }

/-- Without its styles, the drawing of a fault is the one with its characters only. -/
theorem map_unstyled_drawing (fault : Fault) (host : Host) :
    (fault.drawing host).map Drawing.unstyled = fault.plainDrawing host := by
  unfold drawing plainDrawing
  cases styleTable host fault.kind with
  | error error => rfl
  | ok table =>
      cases fault.codeValue host with
      | error error => rfl
      | ok code =>
          cases fault.titleValue with
          | error error => rfl
          | ok title =>
              have arrow : shownCharacters (.str [' ', '→', ' ']) = [' ', '→', ' '] := by
                decide +kernel
              dsimp only [bind, Except.bind, pure, Except.pure, Except.map]
              simp only [Drawing.unstyled, StyledText.unstyled, StyledText.plain_assemble,
                List.map_cons, List.map_nil, plain_part, List.flatten_cons, List.flatten_nil]
              split <;> simp [StyledText.plain_assemble, StyledText.unstyled, arrow]

@[simp] theorem plainDrawing_colored (colorful : Value) :
    (fault.colored colorful).plainDrawing host = fault.plainDrawing host := rfl

/-! ## Printing by characters -/

/-- The page of a fault, its drawing laid out in a given way. -/
def pageBy (layOut : Drawing → Aftermath Text) (fault : Fault) (host : Host) : Aftermath Text :=
  match fault.drawing host with
  | .ok drawing => layOut drawing
  | .error error => ⟨[], some error⟩

/-- Surface a fault, its drawing laid out in a given way. -/
def surfaceBy (layOut : Drawing → Aftermath Text) (fault : Fault) (host : Host) : Report Unit :=
  if !fault.options.shell.truthy then
    if fault.kind.isWarning then Report.warn fault else Report.stop (.fault fault)
  else do
    Report.print fault.options.stream (fault.pageBy layOut host)
    if fault.kind.isWarning || fault.options.deferred.truthy then
      Report.done ()
    else
      Report.stop (.exit 1)

/-- A fault is surfaced with its drawing laid out on the page. -/
theorem surface_eq_surfaceBy (fault : Fault) (host : Host) :
    fault.surface host = fault.surfaceBy (fun drawing => Layout.printed drawing.lines) host := by
  have page : Layout.printed ((fault.drawing host).bind Drawing.lines) =
      fault.pageBy (fun drawing => Layout.printed drawing.lines) host := by
    unfold pageBy
    cases fault.drawing host <;> rfl
  simp only [surface, surfaceBy, page]

/-- Drawings are laid out by their characters when their styles do not matter. -/
def ByCharacters (layOut : Drawing → Aftermath Text) : Prop :=
  ∀ drawing : Drawing, layOut drawing = layOut drawing.unstyled

/-- A way of laying out drawings by which those of a fault, colorful or not, look as they do without
their styles. -/
def LaidOutByCharacters
    (layOut : Drawing → Aftermath Text)
    (fault : Fault)
    (host : Host) : Prop :=
  ∀ colorful drawing, (fault.colored colorful).drawing host = .ok drawing →
    layOut drawing = layOut drawing.unstyled

theorem pageBy_colored
    {layOut : Drawing → Aftermath Text}
    (laidOut : fault.LaidOutByCharacters layOut host)
    (colorful : Value) :
    (fault.colored colorful).pageBy layOut host =
      match fault.plainDrawing host with
      | .ok drawing => layOut drawing
      | .error error => ⟨[], some error⟩ := by
  rw [← plainDrawing_colored colorful, ← map_unstyled_drawing, pageBy]
  cases drawn : (fault.colored colorful).drawing host with
  | ok drawing => exact laidOut colorful drawing drawn
  | error error => rfl

/-- A fault that is printed looks the same in all colors. -/
theorem surfaceBy_colored
    {layOut : Drawing → Aftermath Text}
    (laidOut : fault.LaidOutByCharacters layOut host)
    (shell : fault.options.shell.truthy = true)
    (first second : Value) :
    (fault.colored first).surfaceBy layOut host = (fault.colored second).surfaceBy layOut host := by
  have loud : ∀ colorful, (fault.colored colorful).options.shell.truthy = true := fun _ => shell
  rw [surfaceBy, surfaceBy, pageBy_colored laidOut, pageBy_colored laidOut, loud, loud]
  rfl

end Fault
end Handbook
