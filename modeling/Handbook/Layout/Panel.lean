import Handbook.Layout.LineBreak

/-!
# Panels

Output goes to a page of fixed width. Lines are written bare or inside a panel,
a frame with a title set into its upper edge on the left. Inside the frame every
line is padded, so that the right edge is straight.
-/

namespace Handbook.Layout

/-- The number of cells of a line of the page. -/
def pageWidth : Nat := 80

/-- The number of cells inside a panel: two for either edge and its blank. -/
def panelWidth : Nat := pageWidth - 4

/-- Parts as a line of the page. -/
def pageLine (parts : List Text) : Except Error Text :=
  (limitParts pageWidth parts).map fun limited => limited.flatten ++ ['\n']

/-- Lines on the page, one below the other. What stands above a line that does not fit is
written all the same. -/
def page : List (List Text) → Aftermath Text
  | [] => ⟨[], none⟩
  | parts :: rest =>
      match pageLine parts with
      | .ok line =>
          let following := page rest
          ⟨line ++ following.state, following.failure⟩
      | .error error => ⟨[], some error⟩

/-- The page of lines that may not be laid out at all. -/
def printed : Except Error (List (List Text)) → Aftermath Text
  | .ok lines => page lines
  | .error error => ⟨[], some error⟩

/-- Texts on the bare page, one below the other. -/
def bare (texts : List StyledText) : Except Error (List (List Text)) := do
  let lines ← texts.mapM (writtenLines pageWidth)
  return lines.flatten.map Line.parts

/-- A title as it is set into the edge: on one line, a blank on either side, cut off or filled
up with the edge. It is never broken, so its blanks all stay. -/
def edgeTitle (title : StyledText) : Except Error Line :=
  let oneLine := (Line.ofStyled title).map fun glyph =>
    if glyph.character = '\n' then { glyph with character := ' ' } else glyph
  let spaced := Glyph.blank :: Line.expandTabs oneLine ++ [Glyph.blank]
  if panelWidth < Line.cells spaced then cropLine panelWidth spaced
  else .ok (spaced ++ List.replicate (panelWidth - Line.cells spaced) ⟨'─', false, []⟩)

/-- The lines of a text inside a panel, filled up to its width. -/
def panelLines (text : StyledText) : Except Error (List (List Text)) := do
  let lines ← writtenLines panelWidth text
  lines.mapM fun line => fitParts panelWidth (Line.parts line)

/-- A line with a blank on either side. -/
def spacedLine (inner : List Text) : Except Error (List Text) :=
  fitParts (panelWidth + 2) ([[' ']] ++ inner ++ [[' ']])

/-- A panel around texts, one below the other. The texts are laid out before the title. -/
def panel (title : StyledText) (texts : List StyledText) : Except Error (List (List Text)) := do
  let inner ← texts.mapM panelLines
  let lines ← inner.flatten.mapM spacedLine
  let edge ← edgeTitle title
  edge.lookUp
  let top := ["╭─".toList] ++ Line.parts edge ++ ["─╮".toList]
  let body := lines.map fun line => [['│']] ++ line ++ [['│']]
  return top :: body ++ [['╰' :: List.replicate (pageWidth - 2) '─' ++ ['╯']]]

end Handbook.Layout
