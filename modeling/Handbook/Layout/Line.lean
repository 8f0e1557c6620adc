import Handbook.Error
import Handbook.Layout.Style
import Handbook.Layout.StyledText
import Handbook.Text.Blank
import Handbook.Text.Cluster

/-!
# Lines

A line on its way to the page. It falls into parts, each of one look; a part is
measured and cut by itself, so clusters never reach from one part into the next.
A line that is longer or shorter than the page allows is cut off or filled up.
-/

namespace Handbook.Layout

/-- A character of a line: whether a part of the line starts with it, and what came of looking up
each style that covers it. -/
structure Glyph where
  character : Char
  opens : Bool := false
  styles : List (Except Error Unit) := []

namespace Glyph

/-- A blank that opens no part. -/
def blank : Glyph := ⟨' ', false, []⟩

/-- Whether a style covers a glyph. -/
def isStyled (glyph : Glyph) : Bool :=
  !glyph.styles.isEmpty

/-- Whether the character of a glyph is blank. -/
def isBlank (glyph : Glyph) : Bool :=
  Text.isBlank glyph.character

end Glyph

/-- The characters of a line, with its parts. -/
abbrev Line := List Glyph

namespace Line

/-- The characters of a line. -/
def text (line : Line) : Text :=
  line.map Glyph.character

@[simp] theorem text_nil : text [] = [] := rfl

@[simp] theorem text_cons (glyph : Glyph) (rest : Line) :
    text (glyph :: rest) = glyph.character :: text rest := rfl

@[simp] theorem text_append (left right : Line) : text (left ++ right) = text left ++ text right :=
  List.map_append

/-- The number of cells of a line, measured as a whole. -/
def cells (line : Line) : Nat :=
  Text.cells line.text

/-- The line of a styled text: a part opens wherever one of its spans starts or stops. -/
def ofStyled (styled : StyledText) : Line :=
  let whole := if styled.style.truthy then [Style.lookUp styled.style] else []
  let spans := styled.spans.map fun span => (span, Style.lookUp span.style)
  styled.plain.zipIdx.map fun (character, place) =>
    { character
      opens := styled.spans.any fun span => span.start == place || span.stop == place
      styles :=
        whole ++ spans.filterMap fun (span, found) =>
          if span.start ≤ place && place < span.stop then some found else none }

/-- The parts of a line. -/
def parts : Line → List Text
  | [] => []
  | glyph :: rest =>
      match parts rest with
      | [] => [[glyph.character]]
      | part :: others =>
          if rest.head?.any Glyph.opens then [glyph.character] :: part :: others
          else (glyph.character :: part) :: others

@[simp] theorem parts_nil : parts [] = [] := rfl

/-- No character is lost: the parts joined are the characters of the line. -/
theorem flatten_parts (line : Line) : (parts line).flatten = text line := by
  induction line with
  | nil => rfl
  | cons glyph rest hypothesis =>
      rw [parts, text_cons, ← hypothesis]
      cases parts rest with
      | nil => simp
      | cons part others =>
          cases rest.head?.any Glyph.opens <;> simp

/-- The pieces of a line after each occurrence of a separator, which stays at their ends. -/
def piecesAfter (separator : Char) : Line → List Line
  | [] => []
  | glyph :: rest =>
      if glyph.character = separator then [glyph] :: piecesAfter separator rest
      else
        match piecesAfter separator rest with
        | [] => [[glyph]]
        | piece :: others => (glyph :: piece) :: others

/-- The pieces of a line between the occurrences of a separator, empty ones included. -/
def pieces (separator : Char) : Line → List Line
  | [] => [[]]
  | glyph :: rest =>
      if glyph.character = separator then [] :: pieces separator rest
      else
        match pieces separator rest with
        | [] => [[glyph]]
        | piece :: others => (glyph :: piece) :: others

/-- A line with a tab at its end filled up to the next multiple of eight cells. The tab itself
becomes a blank before the rest is measured. -/
def fillTab (line : Line) : Line :=
  match line.getLast? with
  | some last =>
      if last.character = '\t' then
        let spaced := line.dropLast ++ [{ last with character := ' ' }]
        let excess := cells spaced % 8
        spaced ++ List.replicate (if excess = 0 then 0 else 8 - excess) ⟨' ', false, last.styles⟩
      else line
  | none => line

/-- What follows a tab opens a part if a style covers it. -/
def reopen : Line → Line
  | [] => []
  | glyph :: rest => { glyph with opens := glyph.opens || glyph.isStyled } :: rest

/-- A line with each tab filled up to the next multiple of eight cells. -/
def expandTabs (line : Line) : Line :=
  match piecesAfter '\t' line with
  | [] => []
  | first :: others => fillTab first ++ others.flatMap fun piece => fillTab (reopen piece)

@[simp] theorem expandTabs_nil : expandTabs [] = [] := rfl

/-- A line filled up with blanks to a number of cells. The blanks belong to its last part,
unless a style ends there. -/
def fillUp (width : Nat) (line : Line) : Line :=
  match List.replicate (width - cells line) Glyph.blank with
  | [] => line
  | first :: others => line ++ { first with opens := line.getLast?.any Glyph.isStyled } :: others

/-- The look-up of the styles of a line, in order. -/
def lookUp (line : Line) : Except Error Unit :=
  (line.flatMap Glyph.styles).forM id

end Line

/-- Where a text is cut off: how many of its characters stay, and whether a blank takes the
place of half a wide cluster. -/
structure Cut where
  kept : Nat
  halved : Bool
  deriving DecidableEq, Repr

namespace Cut

/-- The cut after a number of cells of a list of clusters, `kept` characters being before
them. -/
def ofClusters (width kept : Nat) : List Text.Cluster → Except Error Cut
  | [] => if width = 0 then .ok ⟨kept, false⟩ else .error (.indexOutOfRange "list")
  | cluster :: rest =>
      if width = 0 then .ok ⟨kept, false⟩
      else if cluster.width ≤ width then
        ofClusters (width - cluster.width) (kept + cluster.text.length) rest
      else .ok ⟨kept, true⟩

/-- The cut of a text after a number of cells. A text whose clusters take no cell or too few
cannot be cut. -/
def ofText (width : Nat) (text : Text) : Except Error Cut :=
  let clusters := Text.clusters text
  if width = 0 then .ok ⟨0, false⟩
  else if clusters.all fun cluster => cluster.width = 0 then .error .nothingToDivide
  else ofClusters width 0 clusters

end Cut

/-- A text cut off after a number of cells. -/
def crop (width : Nat) (text : Text) : Except Error Text :=
  (Cut.ofText width text).map fun cut =>
    text.take cut.kept ++ (if cut.halved then [' '] else [])

/-- A line cut off after a number of cells, as a whole. -/
def cropLine (width : Nat) (line : Line) : Except Error Line :=
  (Cut.ofText width line.text).map fun cut =>
    line.take cut.kept ++
      (if cut.halved then
        (line.drop cut.kept).take 1 |>.map fun glyph => { glyph with character := ' ' }
      else [])

/-- The number of cells of parts, each measured by itself. -/
def partsCells : List Text → Nat
  | [] => 0
  | part :: rest => Text.cells part + partsCells rest

@[simp] theorem partsCells_nil : partsCells [] = 0 := rfl

@[simp] theorem partsCells_append (left right : List Text) :
    partsCells (left ++ right) = partsCells left + partsCells right := by
  induction left with
  | nil => simp
  | cons part rest hypothesis => simp [partsCells, hypothesis, Nat.add_assoc]

/-- Parts cut off after a number of cells. -/
def cropParts (width : Nat) : List Text → Except Error (List Text)
  | [] => .ok []
  | part :: rest =>
      let used := Text.cells part
      if used < width then (cropParts (width - used) rest).map (part :: ·)
      else if used = width then .ok [part]
      else (crop width part).map ([·])

/-- Parts that take no more than a number of cells. -/
def limitParts (width : Nat) (parts : List Text) : Except Error (List Text) :=
  if width < partsCells parts then cropParts width parts else .ok parts

/-- Parts filled up with blanks to a number of cells, or cut off there. -/
def fitParts (width : Nat) (parts : List Text) : Except Error (List Text) :=
  if partsCells parts < width then
    .ok (parts ++ [List.replicate (width - partsCells parts) ' '])
  else limitParts width parts

/-- Parts that fill the width already are left as they are. -/
theorem fitParts_of_eq
    {width : Nat}
    {parts : List Text}
    (full : partsCells parts = width) :
    fitParts width parts = .ok parts := by
  simp [fitParts, limitParts, full]

end Handbook.Layout
