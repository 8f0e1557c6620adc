import Handbook.Layout.Panel
import Handbook.Proofs.Checks
import Mathlib.Data.List.Basic

/-!
# Lines without styles

Where a text is broken, and where a line is cut off or filled up, depends on its
characters. Leaving out the styles before a text is broken into lines gives the same
lines as leaving them out afterwards.
-/

namespace Handbook

/-- A styled text without its styles. -/
def StyledText.unstyled (text : StyledText) : StyledText :=
  { plain := text.plain }

namespace Layout

/-- A glyph with its character only. -/
def Glyph.unstyled (glyph : Glyph) : Glyph :=
  ⟨glyph.character, false, []⟩

@[simp] theorem Glyph.character_unstyled (glyph : Glyph) :
    glyph.unstyled.character = glyph.character := rfl

@[simp] theorem Glyph.isBlank_unstyled (glyph : Glyph) : glyph.unstyled.isBlank = glyph.isBlank :=
  rfl

namespace Line

/-- A line with its characters only. -/
def unstyled (line : Line) : Line :=
  line.map Glyph.unstyled

variable {line : Line}

@[simp] theorem unstyled_nil : unstyled [] = [] := rfl

@[simp] theorem unstyled_cons (glyph : Glyph) (rest : Line) :
    unstyled (glyph :: rest) = glyph.unstyled :: unstyled rest := rfl

@[simp] theorem unstyled_append (left right : Line) :
    unstyled (left ++ right) = unstyled left ++ unstyled right :=
  List.map_append

@[simp] theorem text_unstyled (line : Line) : text (unstyled line) = text line := by
  simp [text, unstyled, Function.comp_def]

@[simp] theorem cells_unstyled (line : Line) : cells (unstyled line) = cells line := by
  rw [cells, cells, text_unstyled]

@[simp] theorem length_unstyled (line : Line) : (unstyled line).length = line.length :=
  List.length_map _

@[simp] theorem isEmpty_unstyled (line : Line) : (unstyled line).isEmpty = line.isEmpty := by
  cases line <;> rfl

theorem take_unstyled (count : Nat) (line : Line) :
    (unstyled line).take count = unstyled (line.take count) :=
  List.map_take.symm

theorem drop_unstyled (count : Nat) (line : Line) :
    (unstyled line).drop count = unstyled (line.drop count) :=
  List.map_drop.symm

/-- The line of a text without styles has the characters of its line. -/
theorem ofStyled_unstyled (text : StyledText) :
    ofStyled text.unstyled = unstyled (ofStyled text) := by
  simp [ofStyled, StyledText.unstyled, unstyled, Glyph.unstyled, Function.comp_def]

theorem pieces_unstyled (separator : Char) (line : Line) :
    pieces separator (unstyled line) = (pieces separator line).map unstyled := by
  induction line with
  | nil => rfl
  | cons glyph rest hypothesis =>
      rw [unstyled_cons, pieces, pieces, hypothesis, Glyph.character_unstyled]
      split
      · rfl
      · cases pieces separator rest <;> rfl

theorem piecesAfter_unstyled (separator : Char) (line : Line) :
    piecesAfter separator (unstyled line) = (piecesAfter separator line).map unstyled := by
  induction line with
  | nil => rfl
  | cons glyph rest hypothesis =>
      rw [unstyled_cons, piecesAfter, piecesAfter, hypothesis, Glyph.character_unstyled]
      split
      · rfl
      · cases piecesAfter separator rest <;> rfl

theorem reopen_unstyled (line : Line) : reopen (unstyled line) = unstyled (reopen line) := by
  cases line <;> rfl

theorem fillTab_unstyled (line : Line) : fillTab (unstyled line) = unstyled (fillTab line) := by
  have last : (unstyled line).getLast? = line.getLast?.map Glyph.unstyled := List.getLast?_map
  have front : (unstyled line).dropLast = unstyled line.dropLast := List.map_dropLast.symm
  unfold fillTab
  rw [last, front]
  cases line.getLast? with
  | none => rfl
  | some last =>
      have spaced : unstyled line.dropLast ++ [{ last.unstyled with character := ' ' }] =
          unstyled (line.dropLast ++ [{ last with character := ' ' }]) := by simp [Glyph.unstyled]
      dsimp only [Option.map_some]
      rw [spaced, cells_unstyled, Glyph.character_unstyled]
      split
      · simp [unstyled, Glyph.unstyled]
      · rfl

theorem expandTabs_unstyled (line : Line) :
    expandTabs (unstyled line) = unstyled (expandTabs line) := by
  unfold expandTabs
  rw [piecesAfter_unstyled]
  cases piecesAfter '\t' line with
  | nil => rfl
  | cons first others =>
      rw [List.map_cons]
      dsimp only
      rw [fillTab_unstyled, unstyled_append, List.flatMap_map]
      congr 1
      rw [unstyled, List.map_flatMap]
      exact List.flatMap_congr fun piece _ => by rw [reopen_unstyled, fillTab_unstyled, unstyled]

end Line

theorem chunks_unstyled (line : Line) :
    chunks (Line.unstyled line) = (chunks line).map Line.unstyled := by
  induction line with
  | nil => rfl
  | cons first rest hypothesis =>
      rw [Line.unstyled_cons, chunks, chunks, hypothesis]
      cases chunks rest with
      | nil => rfl
      | cons chunk others =>
          cases chunk with
          | nil => rfl
          | cons next word =>
              rw [List.map_cons, Line.unstyled_cons]
              dsimp only
              rw [Glyph.isBlank_unstyled, Glyph.isBlank_unstyled]
              split <;> rfl

theorem lineWords_unstyled (line : Line) :
    lineWords (Line.unstyled line) = (lineWords line).map Line.unstyled := by
  have blanks : ∀ line : Line, (Line.unstyled line).all Glyph.isBlank = line.all Glyph.isBlank := by
    intro line
    rw [Line.unstyled, List.all_map]
    rfl
  unfold lineWords
  rw [blanks, chunks_unstyled]
  split
  · rfl
  · match chunks line with
    | [] => rfl
    | [first] => rfl
    | first :: second :: others =>
        rw [List.map_cons, List.map_cons]
        dsimp only
        rw [blanks]
        split
        · rw [List.map_cons, Line.unstyled_append]
        · rfl

theorem takeLengths_unstyled (lengths : List Nat) (line : Line) :
    takeLengths lengths (Line.unstyled line) = (takeLengths lengths line).map Line.unstyled := by
  induction lengths generalizing line with
  | nil => rfl
  | cons length rest hypothesis =>
      cases rest with
      | nil => rfl
      | cons next others =>
          rw [takeLengths, takeLengths, Line.drop_unstyled, Line.take_unstyled, hypothesis]
          rfl

theorem foldWord_unstyled (width : Nat) (word : Line) :
    foldWord width (Line.unstyled word) = (foldWord width word).map Line.unstyled := by
  rw [foldWord, foldWord, Line.text_unstyled, takeLengths_unstyled]

/-- The pieces that a word which is too wide for a whole line comes to, behind an open line. -/
def overflowing (overflow : Overflow) (width : Nat) (line word : Line) : List Line :=
  match overflow with
  | .cutOff => [word]
  | .fold =>
      if line.isEmpty then (foldWord width word).dropWhile List.isEmpty
      else foldWord width word

theorem overflowing_unstyled (overflow : Overflow) (width : Nat) (line word : Line) :
    overflowing overflow width (Line.unstyled line) (Line.unstyled word) =
      (overflowing overflow width line word).map Line.unstyled := by
  cases overflow with
  | cutOff => rfl
  | fold =>
      have empty : List.isEmpty ∘ Line.unstyled = List.isEmpty :=
        funext Line.isEmpty_unstyled
      rw [overflowing, overflowing, Line.isEmpty_unstyled, foldWord_unstyled, List.dropWhile_map,
        empty]
      split <;> rfl

/-- A word joins the open line, opens a line of its own, or falls into pieces of which the last one
stays open. -/
theorem flow_cons
    (overflow : Overflow)
    (width : Nat)
    (line : Line)
    (used : Nat)
    (word : Line)
    (rest : List Line) :
    flow overflow width line used (word :: rest) =
      if used + Text.cells (Text.trimRight (Line.text word)) ≤ width then
        flow overflow width (line ++ word) (used + Line.cells word) rest
      else if Text.cells (Text.trimRight (Line.text word)) ≤ width then
        line :: flow overflow width word (Line.cells word) rest
      else
        match (overflowing overflow width line word).getLast? with
        | none => flow overflow width (line ++ word) used rest
        | some last =>
            (if line.isEmpty then [] else [line]) ++
              (overflowing overflow width line word).dropLast ++
              flow overflow width last (Line.cells last) rest := rfl

theorem flow_unstyled
    (overflow : Overflow)
    (width : Nat)
    (line : Line)
    (used : Nat)
    (words : List Line) :
    flow overflow width (Line.unstyled line) used (words.map Line.unstyled) =
      (flow overflow width line used words).map Line.unstyled := by
  -- What becomes of a word depends on widths, so both flows take the same branch at each word.
  induction words generalizing line used with
  | nil => rfl
  | cons word rest hypothesis =>
      rw [List.map_cons, flow_cons, flow_cons, Line.text_unstyled, Line.cells_unstyled,
        overflowing_unstyled, ← Line.unstyled_append, hypothesis, hypothesis, hypothesis,
        List.getLast?_map, Line.isEmpty_unstyled, ← List.map_dropLast]
      split
      · rfl
      · split
        · rfl
        · cases (overflowing overflow width line word).getLast? with
          | none => rfl
          | some last =>
              dsimp only [Option.map_some]
              rw [hypothesis, Line.cells_unstyled]
              cases line.isEmpty <;> simp

theorem cropLine_unstyled (width : Nat) (line : Line) :
    cropLine width (Line.unstyled line) = (cropLine width line).map Line.unstyled := by
  unfold cropLine
  rw [Line.text_unstyled]
  cases Cut.ofText width (Line.text line) with
  | error error => rfl
  | ok cut =>
      simp only [Except.map]
      rw [Line.take_unstyled, Line.drop_unstyled, Line.unstyled_append]
      cases cut.halved with
      | false => rfl
      | true =>
          cases line.drop cut.kept <;> rfl

theorem fit_unstyled (overflow : Overflow) (width : Nat) (line : Line) :
    fit overflow width (Line.unstyled line) = (fit overflow width line).map Line.unstyled := by
  unfold fit
  dsimp only
  rw [Line.text_unstyled, Line.length_unstyled, Line.take_unstyled, Line.cells_unstyled]
  split
  · rfl
  · cases overflow with
    | fold => exact cropLine_unstyled _ _
    | cutOff =>
        dsimp only
        rw [cropLine_unstyled]
        cases cropLine (width - 1) _ with
        | error error => rfl
        | ok cropped => simp [Except.map, ellipsis, Glyph.unstyled]

/-- The lines of a paragraph before they are fitted. -/
def brokenLine (overflow : Overflow) (width : Nat) (line : Line) : List Line :=
  match lineWords (Line.expandTabs line) with
  | [] => [Line.expandTabs line]
  | words => flow overflow width [] 0 words

theorem breakLine_eq (overflow : Overflow) (width : Nat) (line : Line) :
    breakLine overflow width line = (brokenLine overflow width line).mapM (fit overflow width) :=
  rfl

theorem brokenLine_unstyled (overflow : Overflow) (width : Nat) (line : Line) :
    brokenLine overflow width (Line.unstyled line) =
      (brokenLine overflow width line).map Line.unstyled := by
  unfold brokenLine
  rw [Line.expandTabs_unstyled, lineWords_unstyled]
  cases lineWords (Line.expandTabs line) with
  | nil => rfl
  | cons word rest => exact flow_unstyled overflow width [] 0 (word :: rest)

theorem breakLine_unstyled (overflow : Overflow) (width : Nat) (line : Line) :
    breakLine overflow width (Line.unstyled line) =
      (breakLine overflow width line).map (List.map Line.unstyled) := by
  rw [breakLine_eq, breakLine_eq, brokenLine_unstyled, List.mapM_map]
  exact mapM_eq_map_mapM fun line _ => fit_unstyled overflow width line

/-- The lines of a text without styles are those of the text, without their styles. -/
theorem breakLines_unstyled (overflow : Overflow) (width : Nat) (text : StyledText) :
    breakLines overflow width text.unstyled =
      (breakLines overflow width text).map (List.map Line.unstyled) := by
  have commutes : ((Line.pieces '\n' (Line.ofStyled text)).map Line.unstyled).mapM
        (breakLine overflow width) =
      ((Line.pieces '\n' (Line.ofStyled text)).mapM (breakLine overflow width)).map
        (List.map (List.map Line.unstyled)) := by
    rw [List.mapM_map]
    exact mapM_eq_map_mapM fun line _ => breakLine_unstyled overflow width line
  rw [breakLines, breakLines, Line.ofStyled_unstyled, Line.pieces_unstyled, commutes]
  cases (Line.pieces '\n' (Line.ofStyled text)).mapM (breakLine overflow width) with
  | error error => rfl
  | ok lines => simp [Except.map, List.map_flatten]

/-- A title on one line, with a blank on either side. -/
def titleLine (line : Line) : Line :=
  let oneLine := line.map fun glyph =>
    if glyph.character = '\n' then { glyph with character := ' ' } else glyph
  Glyph.blank :: Line.expandTabs oneLine ++ [Glyph.blank]

/-- A line cut off or filled up with the edge of a panel. -/
def edged (line : Line) : Except Error Line :=
  if panelWidth < Line.cells line then cropLine panelWidth line
  else .ok (line ++ List.replicate (panelWidth - Line.cells line) ⟨'─', false, []⟩)

theorem edgeTitle_eq (title : StyledText) :
    edgeTitle title = edged (titleLine (Line.ofStyled title)) := rfl

theorem titleLine_unstyled (line : Line) :
    titleLine (Line.unstyled line) = Line.unstyled (titleLine line) := by
  have oneLine : ((Line.unstyled line).map fun glyph =>
      if glyph.character = '\n' then { glyph with character := ' ' } else glyph) =
      Line.unstyled (line.map fun glyph =>
        if glyph.character = '\n' then { glyph with character := ' ' } else glyph) := by
    rw [Line.unstyled, Line.unstyled, List.map_map, List.map_map]
    congr 1
    funext glyph
    by_cases feed : glyph.character = '\n' <;> simp [feed, Glyph.unstyled]
  unfold titleLine
  dsimp only
  rw [oneLine, Line.expandTabs_unstyled]
  simp [Glyph.blank, Glyph.unstyled]

/-- The edge around a title without styles is the edge around the title, without its styles. -/
theorem edgeTitle_unstyled (title : StyledText) :
    edgeTitle title.unstyled = (edgeTitle title).map Line.unstyled := by
  rw [edgeTitle_eq, edgeTitle_eq, Line.ofStyled_unstyled, titleLine_unstyled]
  unfold edged
  rw [Line.cells_unstyled]
  split
  · exact cropLine_unstyled _ _
  · simp [Except.map, Line.unstyled, Glyph.unstyled]

end Layout
end Handbook
