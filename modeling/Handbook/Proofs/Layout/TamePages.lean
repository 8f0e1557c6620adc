import Handbook.Proofs.Layout.Tame

/-!
# Pages of tame texts

A tame text is written on the page, bare or inside a panel, in lines that are no wider
than the page and are made of its characters alone. So its page does not change when its
styles are left out.
-/

namespace Handbook

namespace Text

/-! ## Narrow characters -/

/-- A character that stands for itself in one cell. -/
structure IsNarrow (character : Char) : Prop where
  untied : character ≠ joiner ∧ character ≠ wideSelector
  single : cellWidth character = 1

theorem isNarrow_blank : IsNarrow ' ' :=
  ⟨blank_untied, rfl⟩

/-- The characters of the edges of a panel. -/
def edgeCharacters : List Char :=
  ['│', '╭', '─', '╮', '╰', '╯']

theorem isNarrow_edge : ∀ character ∈ edgeCharacters, IsNarrow character := by
  -- Looking a code point up in an array is slow to evaluate; in a list it is not.
  have inRanges_eq : ∀ ranges code, inRanges ranges code =
      ranges.toList.any fun range => range.1 ≤ code && code ≤ range.2 :=
    fun _ _ => Array.any_toList.symm
  have single : edgeCharacters.all fun character => cellWidth character == 1 := by
    simp only [cellWidth, inRanges_eq]
    decide +kernel
  have untied : Text.Untied edgeCharacters := by decide
  intro character member
  exact ⟨untied character member, eq_of_beq (List.all_eq_true.mp single character member)⟩

/-- A text of narrow characters has one cell for each. -/
theorem cells_eq_length {text : Text} (narrow : ∀ character ∈ text, IsNarrow character) :
    cells text = text.length := by
  have untied : text.Untied := fun character member => (narrow character member).untied
  have single : text.map cellWidth = text.map fun _ => 1 :=
    List.map_congr_left fun character member => (narrow character member).single
  rw [untied.cells_eq, single, List.map_const', List.sum_replicate_nat, Nat.mul_one]

theorem cells_replicate {character : Char} (narrow : IsNarrow character) (count : Nat) :
    cells (List.replicate count character) = count := by
  rw [cells_eq_length, List.length_replicate]
  intro other member
  rw [List.eq_of_mem_replicate member]
  exact narrow

end Text

namespace Layout

variable {text title : StyledText} {texts : List StyledText} {parts : List Text}

/-! ## Lines of the page -/

/-- Parts that hold an untied text take as many cells as this text. -/
theorem partsCells_eq (untied : Text.Untied parts.flatten) :
    partsCells parts = Text.cells parts.flatten := by
  induction parts with
  | nil => rfl
  | cons part rest hypothesis =>
      rw [List.flatten_cons] at untied ⊢
      rw [partsCells, hypothesis (untied.of_subset (List.subset_append_right _ _)),
        untied.cells_append]

/-- The parts of a tame line take as many cells as the line. -/
theorem partsCells_parts {line : Line} (tame : line.IsTame) :
    partsCells (Line.parts line) = Line.cells line := by
  have whole := Line.flatten_parts line
  rw [partsCells_eq (whole ▸ tame.untied), whole]
  rfl

/-- The page of lines that are known, or the error that kept them from being laid out. -/
def printedTexts : Except Error (List Text) → Aftermath Text
  | .ok lines => ⟨lines.flatMap fun line => line ++ ['\n'], none⟩
  | .error error => ⟨[], some error⟩

/-- Lines that are no wider than the page are printed with all their characters. -/
theorem printed_eq_printedTexts
    {lines : Except Error (List (List Text))}
    (narrow : ∀ rows, lines = .ok rows → ∀ parts ∈ rows, partsCells parts ≤ pageWidth) :
    printed lines = printedTexts (lines.map (List.map List.flatten)) := by
  cases lines with
  | error error => rfl
  | ok rows =>
      have narrowRows := narrow rows rfl
      change page rows = ⟨(rows.map List.flatten).flatMap fun line => line ++ ['\n'], none⟩
      induction rows with
      | nil => rfl
      | cons parts rest hypothesis =>
          obtain ⟨here, others⟩ := List.forall_mem_cons.mp narrowRows
          have line : pageLine parts = .ok (parts.flatten ++ ['\n']) := by
            rw [pageLine, limitParts, if_neg (Nat.not_lt.mpr here)]
            rfl
          rw [page, line]
          dsimp only
          rw [hypothesis (fun _ same => Except.ok.inj same ▸ others) others]
          rfl

/-! ## Bare texts -/

/-- The lines of several texts, as they are broken. -/
def brokenTexts (width : Nat) (texts : List StyledText) : Except Error (List Line) :=
  (texts.mapM (breakLines .fold width)).map List.flatten

/-- The lines of tame texts are tame, and no wider than they may be. -/
theorem isTame_brokenTexts
    {width : Nat}
    {lines : List Line}
    (tame : ∀ text ∈ texts, text.IsTame)
    (broken : brokenTexts width texts = .ok lines) :
    ∀ line ∈ lines, line.IsTame ∧ Line.cells line ≤ width := by
  obtain ⟨each, checked, rfl⟩ := exists_of_map_eq_ok broken
  intro line member
  obtain ⟨own, isOwn, inOwn⟩ := List.mem_flatten.mp member
  obtain ⟨text, inTexts, brokenText⟩ := (mem_iff_of_mapM_eq_ok checked own).mp isOwn
  exact isTame_breakLines (tame text inTexts) brokenText line inOwn

theorem bare_eq (tame : ∀ text ∈ texts, text.IsTame) :
    bare texts = (brokenTexts pageWidth texts).map (List.map Line.parts) := by
  have written : texts.mapM (writtenLines pageWidth) =
      texts.mapM (breakLines .fold pageWidth) :=
    mapM_congr fun text member => writtenLines_eq_breakLines (tame text member)
  rw [bare, written, brokenTexts]
  cases texts.mapM (breakLines .fold pageWidth) <;> rfl

/-- The lines of tame texts on the bare page are those of their characters. -/
theorem printed_bare (tame : ∀ text ∈ texts, text.IsTame) :
    printed (bare texts) =
      printedTexts ((brokenTexts pageWidth texts).map (List.map Line.text)) := by
  rw [bare_eq tame, printed_eq_printedTexts]
  · cases brokenTexts pageWidth texts with
    | error error => rfl
    | ok lines => simp [Except.map, Function.comp_def, Line.flatten_parts]
  · intro rows laidOut parts member
    obtain ⟨lines, broken, rfl⟩ := exists_of_map_eq_ok laidOut
    obtain ⟨line, inLines, rfl⟩ := List.mem_map.mp member
    obtain ⟨tameLine, narrow⟩ := isTame_brokenTexts tame broken line inLines
    rw [partsCells_parts tameLine]
    exact narrow

/-! ## Panels -/

/-- The parts of a line inside a panel, filled up to the right edge. -/
def filledParts (line : Line) : List Text :=
  if Line.cells line < panelWidth then
    Line.parts line ++ [List.replicate (panelWidth - Line.cells line) ' ']
  else Line.parts line

theorem fitParts_parts
    {line : Line}
    (tame : line.IsTame)
    (narrow : Line.cells line ≤ panelWidth) :
    fitParts panelWidth (Line.parts line) = .ok (filledParts line) := by
  rw [fitParts, limitParts, filledParts, partsCells_parts tame, if_neg (Nat.not_lt.mpr narrow)]
  split <;> rfl

theorem partsCells_filledParts
    {line : Line}
    (tame : line.IsTame)
    (narrow : Line.cells line ≤ panelWidth) :
    partsCells (filledParts line) = panelWidth := by
  unfold filledParts
  split
  · next short =>
      rw [partsCells_append, partsCells_parts tame, partsCells,
        Text.cells_replicate Text.isNarrow_blank, partsCells_nil]
      omega
  · next full =>
      rw [partsCells_parts tame]
      exact Nat.le_antisymm narrow (Nat.not_lt.mp full)

theorem flatten_filledParts (line : Line) :
    (filledParts line).flatten =
      Line.text line ++ List.replicate (panelWidth - Line.cells line) ' ' := by
  unfold filledParts
  split
  · rw [List.flatten_append, Line.flatten_parts, List.flatten_singleton]
  · next full =>
      rw [Line.flatten_parts, Nat.sub_eq_zero_of_le (Nat.not_lt.mp full), List.replicate_zero,
        List.append_nil]

/-- The parts of tame texts inside a panel, from edge to edge. -/
theorem panelLines_eq
    (tame : text.IsTame) :
    panelLines text = (breakLines .fold panelWidth text).map (List.map filledParts) := by
  rw [panelLines, writtenLines_eq_breakLines tame]
  cases broken : breakLines .fold panelWidth text with
  | error error => rfl
  | ok lines =>
      refine mapM_eq_ok_map fun line member => ?_
      obtain ⟨tameLine, narrow⟩ := isTame_breakLines tame broken line member
      exact fitParts_parts tameLine narrow

theorem mapM_panelLines_eq (tame : ∀ text ∈ texts, text.IsTame) :
    (texts.mapM panelLines).map List.flatten =
      (brokenTexts panelWidth texts).map (List.map filledParts) := by
  rw [mapM_eq_map_mapM fun text member => panelLines_eq (tame text member), brokenTexts]
  cases texts.mapM (breakLines .fold panelWidth) with
  | error error => rfl
  | ok lines => simp [Except.map, List.map_flatten]

/-- The characters of a line inside a panel, with the edges. -/
def framedText (line : Line) : Text :=
  "│ " ++ Line.text line ++ List.replicate (panelWidth - Line.cells line) ' ' ++ " │"

/-- The lines of a panel, from the edge with the title down to the lower one. -/
def panelTexts (edge : Line) (lines : List Line) : List Text :=
  ("╭─" ++ Line.text edge ++ "─╮") :: lines.map framedText ++
    ['╰' :: List.replicate (pageWidth - 2) '─' ++ ['╯']]

theorem spacedLine_filledParts
    {line : Line}
    (tame : line.IsTame)
    (narrow : Line.cells line ≤ panelWidth) :
    spacedLine (filledParts line) = .ok ([[' ']] ++ filledParts line ++ [[' ']]) := by
  have blank : partsCells [[' ']] = 1 := rfl
  apply fitParts_of_eq
  rw [partsCells_append, partsCells_append, partsCells_filledParts tame narrow, blank]
  omega

/-- The edge around a tame title is tame, and no wider than the panel. -/
theorem isTame_edgeTitle
    {edge : Line}
    (tame : title.IsTame)
    (laid : edgeTitle title = .ok edge) :
    edge.IsTame ∧ Line.cells edge ≤ panelWidth := by
  have blank : Line.IsTame [Glyph.blank] :=
    List.forall_mem_singleton.mpr (Glyph.isTame_plain false Text.blank_untied)
  have oneLine : Line.IsTame ((Line.ofStyled title).map fun glyph =>
      if glyph.character = '\n' then { glyph with character := ' ' } else glyph) := by
    intro glyph member
    obtain ⟨other, inTitle, rfl⟩ := List.mem_map.mp member
    have tameOther := isTame_ofStyled tame other inTitle
    split
    · exact tameOther.blanked _
    · exact tameOther
  have tameLine : Line.IsTame (titleLine (Line.ofStyled title)) :=
    (blank.append oneLine.expandTabs).append blank
  rw [edgeTitle_eq, edged] at laid
  split at laid
  · exact tameLine.cropLine laid
  · next narrow =>
      cases laid
      have dash : Text.IsNarrow '─' := Text.isNarrow_edge '─' (by decide)
      have dashes : Line.IsTame (List.replicate
          (panelWidth - Line.cells (titleLine (Line.ofStyled title))) ⟨'─', false, []⟩) :=
        Line.IsTame.replicate (Glyph.isTame_plain false dash.untied) _
      refine ⟨tameLine.append dashes, ?_⟩
      have text : ∀ count, Line.text (List.replicate count ⟨'─', false, []⟩) =
          List.replicate count '─' := fun count => List.map_replicate
      rw [Line.cells, Line.text_append, Text.Untied.cells_append, text,
        Text.cells_replicate dash, ← Line.cells]
      · omega
      · exact Line.text_append _ _ ▸ (tameLine.append dashes).untied

/-- The lines of a panel in parts, the edge of each being a part of its own. -/
def panelRows (edge : Line) (lines : List Line) : List (List Text) :=
  (["╭─".toList] ++ Line.parts edge ++ ["─╮".toList]) ::
      lines.map (fun line => [['│']] ++ ([[' ']] ++ filledParts line ++ [[' ']]) ++ [['│']]) ++
    [['╰' :: List.replicate (pageWidth - 2) '─' ++ ['╯']]]

theorem panel_eq (tameTitle : title.IsTame) (tame : ∀ text ∈ texts, text.IsTame) :
    panel title texts = do
      let lines ← brokenTexts panelWidth texts
      let edge ← edgeTitle title
      return panelRows edge lines := by
  have laid := mapM_panelLines_eq tame
  unfold panel
  cases inner : texts.mapM panelLines with
  | error error =>
      rw [inner] at laid
      cases broken : brokenTexts panelWidth texts with
      | error _ =>
          rw [broken] at laid
          cases laid
          rfl
      | ok lines =>
          rw [broken] at laid
          cases laid
  | ok rows =>
      rw [inner] at laid
      cases broken : brokenTexts panelWidth texts with
      | error _ =>
          rw [broken] at laid
          cases laid
      | ok lines =>
          rw [broken] at laid
          have flat : rows.flatten = lines.map filledParts := Except.ok.inj laid
          have spaced : rows.flatten.mapM spacedLine =
              .ok (lines.map fun line => [[' ']] ++ filledParts line ++ [[' ']]) := by
            rw [flat, List.mapM_map]
            refine mapM_eq_ok_map fun line member => ?_
            obtain ⟨tameLine, narrow⟩ := isTame_brokenTexts tame broken line member
            exact spacedLine_filledParts tameLine narrow
          dsimp only [bind, Except.bind]
          rw [spaced]
          dsimp only
          cases edgeLaid : edgeTitle title with
          | error error => rfl
          | ok edge =>
              dsimp only
              rw [(isTame_edgeTitle tameTitle edgeLaid).1.lookUp_eq]
              simp [panelRows, pure, Except.pure, Function.comp_def]

theorem flatten_panelRows (edge : Line) (lines : List Line) :
    (panelRows edge lines).map List.flatten = panelTexts edge lines := by
  have top : (["╭─".toList] ++ Line.parts edge ++ ["─╮".toList]).flatten =
      "╭─" ++ Line.text edge ++ "─╮" := by
    simp [Line.flatten_parts]
  have body : List.flatten ∘
      (fun line => [['│']] ++ ([[' ']] ++ filledParts line ++ [[' ']]) ++ [['│']]) =
      framedText := by
    funext line
    simp [framedText, flatten_filledParts]
  rw [panelRows, panelTexts, List.map_append, List.map_cons, List.map_map, top, body]
  rfl

/-- No line of a panel is wider than the page. -/
theorem partsCells_le_of_mem_panelRows
    {edge : Line}
    {lines : List Line}
    (edgeNarrow : edge.IsTame ∧ Line.cells edge ≤ panelWidth)
    (narrow : ∀ line ∈ lines, line.IsTame ∧ Line.cells line ≤ panelWidth)
    (member : parts ∈ panelRows edge lines) :
    partsCells parts ≤ pageWidth := by
  have ofEdge : ∀ part : Text, part ⊆ Text.edgeCharacters → partsCells [part] = part.length :=
    fun part inEdge => Text.cells_eq_length fun character member =>
      Text.isNarrow_edge character (inEdge member)
  have left : partsCells ["╭─".toList] = 2 := ofEdge _ (by decide)
  have right : partsCells ["─╮".toList] = 2 := ofEdge _ (by decide)
  have sides : partsCells [['│']] = 1 := ofEdge _ (by decide)
  have blank : partsCells [[' ']] = 1 := rfl
  have bottom : partsCells ['╰' :: List.replicate (pageWidth - 2) '─' ++ ['╯']] = pageWidth :=
    ofEdge _ (by decide)
  have width : pageWidth = panelWidth + 4 := rfl
  rcases List.mem_append.mp member with above | lowest
  · rcases List.mem_cons.mp above with rfl | inside
    · rw [partsCells_append, partsCells_append, partsCells_parts edgeNarrow.1, left, right]
      have room := edgeNarrow.2
      omega
    · obtain ⟨line, inLines, rfl⟩ := List.mem_map.mp inside
      obtain ⟨tameLine, narrowLine⟩ := narrow line inLines
      rw [partsCells_append, partsCells_append, partsCells_append, partsCells_append, sides, blank,
        partsCells_filledParts tameLine narrowLine]
      omega
  · rw [List.mem_singleton.mp lowest]
    exact Nat.le_of_eq bottom

/-- The lines of a panel around tame texts are those of their characters. -/
theorem printed_panel (tameTitle : title.IsTame) (tame : ∀ text ∈ texts, text.IsTame) :
    printed (panel title texts) =
      printedTexts (do
        let lines ← brokenTexts panelWidth texts
        let edge ← edgeTitle title
        return panelTexts edge lines) := by
  rw [panel_eq tameTitle tame, printed_eq_printedTexts]
  · cases brokenTexts panelWidth texts with
    | error error => rfl
    | ok lines =>
        cases edgeTitle title with
        | error error => rfl
        | ok edge =>
            exact congrArg (fun texts => printedTexts (.ok texts)) (flatten_panelRows edge lines)
  · intro rows laidOut parts member
    obtain ⟨lines, broken, afterLines⟩ := exists_of_bind_eq_ok laidOut
    obtain ⟨edge, edgeLaid, isRows⟩ := exists_of_bind_eq_ok afterLines
    cases isRows
    exact partsCells_le_of_mem_panelRows (isTame_edgeTitle tameTitle edgeLaid)
      (isTame_brokenTexts tame broken) member

/-! ## Pages without styles -/

theorem brokenTexts_unstyled (width : Nat) (texts : List StyledText) :
    brokenTexts width (texts.map StyledText.unstyled) =
      (brokenTexts width texts).map (List.map Line.unstyled) := by
  have each : (texts.map StyledText.unstyled).mapM (breakLines .fold width) =
      (texts.mapM (breakLines .fold width)).map (List.map (List.map Line.unstyled)) := by
    rw [List.mapM_map]
    exact mapM_eq_map_mapM fun text _ => breakLines_unstyled .fold width text
  rw [brokenTexts, brokenTexts, each]
  cases texts.mapM (breakLines .fold width) with
  | error error => rfl
  | ok lines => simp [Except.map, List.map_flatten]

theorem isTame_unstyled (tame : ∀ text ∈ texts, text.IsTame) :
    ∀ text ∈ texts.map StyledText.unstyled, text.IsTame := by
  intro text member
  obtain ⟨other, inTexts, rfl⟩ := List.mem_map.mp member
  exact (tame other inTexts).unstyled

/-- Tame texts look the same on the bare page without their styles. -/
theorem printed_bare_unstyled (tame : ∀ text ∈ texts, text.IsTame) :
    printed (bare (texts.map StyledText.unstyled)) = printed (bare texts) := by
  rw [printed_bare tame, printed_bare (isTame_unstyled tame), brokenTexts_unstyled]
  cases brokenTexts pageWidth texts with
  | error error => rfl
  | ok lines => simp [Except.map, Function.comp_def]

theorem panelTexts_unstyled (edge : Line) (lines : List Line) :
    panelTexts (Line.unstyled edge) (lines.map Line.unstyled) = panelTexts edge lines := by
  have framed : framedText ∘ Line.unstyled = framedText := by
    funext line
    simp [framedText]
  rw [panelTexts, panelTexts, Line.text_unstyled, List.map_map, framed]

/-- Tame texts look the same inside a panel without their styles. -/
theorem printed_panel_unstyled
    (tameTitle : title.IsTame)
    (tame : ∀ text ∈ texts, text.IsTame) :
    printed (panel title.unstyled (texts.map StyledText.unstyled)) =
      printed (panel title texts) := by
  rw [printed_panel tameTitle tame, printed_panel tameTitle.unstyled (isTame_unstyled tame),
    brokenTexts_unstyled, edgeTitle_unstyled]
  cases brokenTexts panelWidth texts with
  | error error => rfl
  | ok lines =>
      cases edgeTitle title with
      | error error => rfl
      | ok edge =>
          simp [bind, Except.bind, Except.map, panelTexts_unstyled]

end Layout
end Handbook
