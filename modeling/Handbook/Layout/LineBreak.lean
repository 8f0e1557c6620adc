import Handbook.Layout.Line

/-!
# Breaking lines

A text is written in lines of a limited number of terminal cells. It is broken
at line feeds first; tabs are filled up with blanks; then words, each with the
blanks to its right, are set while they fit. A word too wide for a whole line is
cut into pieces of the full width, or stands on a line of its own to be cut off.
A line that is too long for its trailing blanks loses as many of them, and what
is still too wide is cut off.
-/

namespace Handbook.Layout

/-- The words of a line; each carries the blanks to its right, the first one also those to its
left. -/
def chunks : Line → List Line
  | [] => []
  | first :: rest =>
      match chunks rest with
      | [] => [[first]]
      | chunk :: others =>
          match chunk with
          | [] => [first] :: others
          | next :: _ =>
              if first.isBlank && !next.isBlank then
                [first] :: chunk :: others
              else
                (first :: chunk) :: others

/-- No character is lost when a line is cut into words. -/
theorem flatten_chunks (line : Line) : (chunks line).flatten = line := by
  induction line with
  | nil => rfl
  | cons first rest hypothesis =>
      unfold chunks
      split
      · simp_all
      · split
        · simp_all
        · split <;> simp_all

/-- The chunks with blanks at the start of the line joined to the first word; none if the line
has no word. -/
def lineWords (line : Line) : List Line :=
  if line.all Glyph.isBlank then []
  else
    match chunks line with
    | first :: second :: others =>
        if first.all Glyph.isBlank then (first ++ second) :: others
        else first :: second :: others
    | short => short

/-- The lengths of the pieces of at most the given number of cells that a word is cut into;
`length` and `used` are those of the piece at hand. A last piece without cells is none. -/
def pieceLengths (width length used : Nat) : List Text.Cluster → List Nat
  | [] => if used = 0 then [] else [length]
  | cluster :: rest =>
      if width < used + cluster.width then
        length :: pieceLengths width cluster.text.length cluster.width rest
      else pieceLengths width (length + cluster.text.length) (used + cluster.width) rest

/-- A line cut into pieces of the given lengths, the last one taking what is left. -/
def takeLengths : List Nat → Line → List Line
  | [], _ => []
  | [_], line => [line]
  | length :: next :: lengths, line =>
      line.take length :: takeLengths (next :: lengths) (line.drop length)

/-- No character is lost when a line is cut into pieces. -/
theorem flatten_takeLengths
    {lengths : List Nat}
    (some : lengths ≠ [])
    (line : Line) :
    (takeLengths lengths line).flatten = line := by
  induction lengths generalizing line with
  | nil => exact absurd rfl some
  | cons length rest hypothesis =>
      cases rest with
      | nil => simp [takeLengths]
      | cons next others => simp [takeLengths, hypothesis]

/-- The pieces of a word that is too wide for a whole line. -/
def foldWord (width : Nat) (word : Line) : List Line :=
  takeLengths (pieceLengths width 0 0 (Text.clusters (Line.text word))) word

/-- What becomes of a word that is too wide for a whole line: it is cut into pieces, or it
stands alone to be cut off. -/
inductive Overflow
  | fold
  | cutOff
  deriving DecidableEq, Repr

/-- The lines still to come while a line with `used` cells is open. -/
def flow (overflow : Overflow) (width : Nat) (line : Line) (used : Nat) : List Line → List Line
  | [] => [line]
  | word :: rest =>
      let needed := Text.cells (Text.trimRight (Line.text word))
      if used + needed ≤ width then
        flow overflow width (line ++ word) (used + Line.cells word) rest
      else if needed ≤ width then
        line :: flow overflow width word (Line.cells word) rest
      else
        let pieces :=
          match overflow with
          | .cutOff => [word]
          | .fold =>
              if line.isEmpty then (foldWord width word).dropWhile List.isEmpty
              else foldWord width word
        match pieces.getLast? with
        | none => flow overflow width (line ++ word) used rest
        | some last =>
            (if line.isEmpty then [] else [line]) ++ pieces.dropLast ++
              flow overflow width last (Line.cells last) rest

@[simp] theorem flow_nil (overflow : Overflow) (width : Nat) (line : Line) (used : Nat) :
    flow overflow width line used [] = [line] := rfl

/-- The mark in the place of what was cut off. -/
def ellipsis : Glyph := ⟨'…', false, []⟩

/-- A broken line fitted to the width: the trailing blanks that are too many are dropped, and
what is too wide is cut off. -/
def fit (overflow : Overflow) (width : Nat) (line : Line) : Except Error Line :=
  let dropped := min (Text.trailingBlanks (Line.text line)) (line.length - width)
  let shorter := line.take (line.length - dropped)
  if Line.cells shorter ≤ width then .ok shorter
  else
    match overflow with
    | .fold => cropLine width shorter
    | .cutOff => (cropLine (width - 1) shorter).map fun cropped => cropped ++ [ellipsis]

/-- The lines of one paragraph. -/
def breakLine (overflow : Overflow) (width : Nat) (line : Line) : Except Error (List Line) :=
  let expanded := Line.expandTabs line
  let broken :=
    match lineWords expanded with
    | [] => [expanded]
    | words => flow overflow width [] 0 words
  broken.mapM (fit overflow width)

/-- The lines of a text. -/
def breakLines (overflow : Overflow) (width : Nat) (text : StyledText) :
    Except Error (List Line) :=
  ((Line.pieces '\n' (Line.ofStyled text)).mapM (breakLine overflow width)).map List.flatten

/-- The lines of a text to be written. All its styles are looked up, that of the text itself even
if it covers nothing. -/
def writtenLines (width : Nat) (text : StyledText) : Except Error (List Line) := do
  let lines ← breakLines .fold width text
  if text.style.truthy then Style.lookUp text.style
  lines.forM Line.lookUp
  return lines

end Handbook.Layout
