import Handbook.Proofs.Layout.Unstyled
import Mathlib.Algebra.Ring.Nat

/-!
# Tame lines

A character may tie the next one to itself, or widen the one before it. A line without
such characters is as wide as its parts are, however it is divided, and its styles do not
show where they begin and end. Such a line stays tame while it is broken and cut off, and
what is written of it is no wider than the page.
-/

namespace Handbook

namespace Text

/-- A text in which no character is tied to the next one or widened by it. -/
def Untied (text : Text) : Prop :=
  ∀ character ∈ text, character ≠ joiner ∧ character ≠ wideSelector

instance (text : Text) : Decidable text.Untied :=
  List.decidableBAll _ text

variable {text left right : Text}

theorem blank_untied : ' ' ≠ joiner ∧ ' ' ≠ wideSelector := by decide

theorem Untied.of_subset (untied : right.Untied) (subset : left ⊆ right) : left.Untied :=
  fun character member => untied character (subset member)

/-- An untied text is as wide as its characters are. -/
theorem Untied.cells_eq (untied : text.Untied) : cells text = (text.map cellWidth).sum := by
  rw [cells, cellsFrom_eq_foldr untied, List.sum, List.foldr_map]

theorem Untied.cells_append (untied : (left ++ right).Untied) :
    cells (left ++ right) = cells left + cells right := by
  rw [untied.cells_eq, (untied.of_subset (List.subset_append_left left right)).cells_eq,
    (untied.of_subset (List.subset_append_right left right)).cells_eq, List.map_append,
    List.sum_append]

/-- The clusters of an untied text are as wide as their characters are. -/
theorem Untied.width_of_mem_clustersFrom
    {current cluster : Cluster}
    {last : Option Char}
    (untied : text.Untied)
    (measured : current.width = (current.text.map cellWidth).sum)
    (member : cluster ∈ clustersFrom current false last text) :
    cluster.width = (cluster.text.map cellWidth).sum := by
  induction text generalizing current last with
  | nil =>
      rw [clustersFrom, List.mem_singleton] at member
      rw [member, measured]
  | cons character rest hypothesis =>
      obtain ⟨⟨notJoiner, notSelector⟩, others⟩ := List.forall_mem_cons.mp untied
      simp only [clustersFrom, Bool.false_eq_true, if_false, notJoiner, notSelector] at member
      split at member
      · next narrow =>
          refine hypothesis others ?_ member
          simp [Cluster.extend, measured, narrow]
      · rcases List.mem_cons.mp member with rfl | later
        · exact measured
        · exact hypothesis others (by simp) later

theorem Untied.width_of_mem_clusters
    {cluster : Cluster}
    (untied : text.Untied)
    (member : cluster ∈ clusters text) :
    cluster.width = (cluster.text.map cellWidth).sum := by
  cases text with
  | nil => cases member
  | cons character rest =>
      obtain ⟨⟨notJoiner, notSelector⟩, others⟩ := List.forall_mem_cons.mp untied
      refine Untied.width_of_mem_clustersFrom others ?_ member
      simp [notJoiner, notSelector]

end Text

namespace Layout

variable {width : Nat} {line : Line}

/-! ## Cutting off -/

/-- A cut keeps some clusters from the front, which leave room for half a wide one if its place is
filled with a blank. -/
theorem Cut.exists_of_ofClusters
    {kept : Nat}
    {clusters : List Text.Cluster}
    {cut : Cut}
    (found : Cut.ofClusters width kept clusters = .ok cut) :
    ∃ front rest, clusters = front ++ rest ∧
      cut.kept = kept + (front.map fun cluster => cluster.text.length).sum ∧
      (front.map Text.Cluster.width).sum + (if cut.halved then 1 else 0) ≤ width := by
  induction clusters generalizing width kept with
  | nil =>
      rw [Cut.ofClusters] at found
      split at found <;> cases found
      exact ⟨[], [], rfl, rfl, Nat.zero_le _⟩
  | cons cluster others hypothesis =>
      rw [Cut.ofClusters] at found
      split at found
      · cases found
        exact ⟨[], cluster :: others, rfl, rfl, Nat.zero_le _⟩
      · split at found
        · obtain ⟨front, rest, rfl, keptHere, room⟩ := hypothesis found
          refine ⟨cluster :: front, rest, rfl, ?_, ?_⟩
          · rw [keptHere, List.map_cons, List.sum_cons, Nat.add_assoc]
          · rw [List.map_cons, List.sum_cons]
            omega
        · cases found
          refine ⟨[], cluster :: others, rfl, rfl, ?_⟩
          simp only [List.map_nil, List.sum_nil, if_true]
          omega

/-- What is kept of an untied text is no wider than the cut allows. -/
theorem Cut.cells_take_le
    {text : Text}
    {cut : Cut}
    (untied : text.Untied)
    (found : Cut.ofText width text = .ok cut) :
    Text.cells (text.take cut.kept) + (if cut.halved then 1 else 0) ≤ width := by
  unfold Cut.ofText at found
  dsimp only at found
  split at found
  · cases found
    simp
  · split at found
    · cases found
    · obtain ⟨front, rest, whole, kept, room⟩ := Cut.exists_of_ofClusters found
      have divided : (front.map Text.Cluster.text).flatten ++
          (rest.map Text.Cluster.text).flatten = text := by
        rw [← List.flatten_append, ← List.map_append, ← whole, Text.flatten_clusters]
      have taken : text.take cut.kept = (front.map Text.Cluster.text).flatten := by
        rw [kept, ← divided]
        apply List.take_left'
        simp [List.length_flatten, Function.comp_def]
      have measured : Text.cells (text.take cut.kept) =
          (front.map Text.Cluster.width).sum := by
        rw [(untied.of_subset (List.take_subset _ _)).cells_eq, taken, List.map_flatten,
          List.sum_flatten, List.map_map, List.map_map]
        congr 1
        refine List.map_congr_left fun cluster member => ?_
        have inText : cluster ∈ Text.clusters text := whole ▸ List.mem_append_left rest member
        exact (untied.width_of_mem_clusters inText).symm
      rw [measured]
      exact room

/-! ## Tame lines stay tame -/

/-- A glyph whose character stands for itself, and whose styles can all be read. -/
def Glyph.IsTame (glyph : Glyph) : Prop :=
  (glyph.character ≠ Text.joiner ∧ glyph.character ≠ Text.wideSelector) ∧
    ∀ found ∈ glyph.styles, found = .ok ()

/-- A line of tame glyphs. -/
def Line.IsTame (line : Line) : Prop :=
  ∀ glyph ∈ line, glyph.IsTame

/-- A glyph that has lost its character to a blank. -/
theorem Glyph.IsTame.blanked {glyph : Glyph} (tame : glyph.IsTame) (opens : Bool) :
    Glyph.IsTame ⟨' ', opens, glyph.styles⟩ :=
  ⟨Text.blank_untied, tame.2⟩

theorem Glyph.isTame_plain {character : Char} (opens : Bool)
    (untied : character ≠ Text.joiner ∧ character ≠ Text.wideSelector) :
    Glyph.IsTame ⟨character, opens, []⟩ :=
  ⟨untied, nofun⟩

namespace Line

variable {left right : Line}

theorem IsTame.of_subset (tame : right.IsTame) (subset : left ⊆ right) : left.IsTame :=
  fun glyph member => tame glyph (subset member)

theorem IsTame.append (front : IsTame left) (back : IsTame right) : IsTame (left ++ right) := by
  intro glyph member
  rcases List.mem_append.mp member with before | behind
  · exact front glyph before
  · exact back glyph behind

theorem IsTame.replicate {glyph : Glyph} (tame : glyph.IsTame) (count : Nat) :
    IsTame (List.replicate count glyph) := by
  intro other member
  rw [List.eq_of_mem_replicate member]
  exact tame

/-- A tame line has an untied text. -/
theorem IsTame.untied (tame : IsTame line) : (text line).Untied := by
  intro character member
  obtain ⟨glyph, inLine, rfl⟩ := List.mem_map.mp member
  exact (tame glyph inLine).1

/-- The styles of a tame line can be read. -/
theorem IsTame.lookUp_eq (tame : IsTame line) : lookUp line = .ok () := by
  have readable : ∀ found ∈ line.flatMap Glyph.styles, found = .ok () := by
    intro found member
    obtain ⟨glyph, inLine, styled⟩ := List.mem_flatMap.mp member
    exact (tame glyph inLine).2 found styled
  exact forM_eq_ok readable

/-- A glyph put in front of the first of several pieces of a line. -/
theorem subset_of_mem_prepended
    {glyph : Glyph}
    {rest piece : Line}
    {divided : List Line}
    (inRest : ∀ other ∈ divided, other ⊆ rest)
    (member : piece ∈ match divided with
      | [] => [[glyph]]
      | first :: others => (glyph :: first) :: others) :
    piece ⊆ glyph :: rest := by
  cases divided with
  | nil =>
      rw [List.mem_singleton.mp member]
      exact List.cons_subset_cons glyph (List.nil_subset rest)
  | cons first others =>
      rcases List.mem_cons.mp member with rfl | later
      · exact List.cons_subset_cons glyph (inRest first List.mem_cons_self)
      · exact List.subset_cons_of_subset glyph (inRest piece (List.mem_cons_of_mem _ later))

/-- The pieces of a line hold nothing that is not in the line. -/
theorem subset_of_mem_pieces {separator : Char} {piece : Line}
    (member : piece ∈ pieces separator line) :
    piece ⊆ line := by
  induction line generalizing piece with
  | nil =>
      rw [pieces, List.mem_singleton] at member
      rw [member]
      exact List.nil_subset _
  | cons glyph rest hypothesis =>
      rw [pieces] at member
      split at member
      · rcases List.mem_cons.mp member with rfl | later
        · exact List.nil_subset _
        · exact List.subset_cons_of_subset glyph (hypothesis later)
      · exact subset_of_mem_prepended (fun _ => hypothesis) member

theorem subset_of_mem_piecesAfter {separator : Char} {piece : Line}
    (member : piece ∈ piecesAfter separator line) :
    piece ⊆ line := by
  induction line generalizing piece with
  | nil => cases member
  | cons glyph rest hypothesis =>
      rw [piecesAfter] at member
      split at member
      · rcases List.mem_cons.mp member with rfl | later
        · exact List.cons_subset_cons glyph (List.nil_subset rest)
        · exact List.subset_cons_of_subset glyph (hypothesis later)
      · exact subset_of_mem_prepended (fun _ => hypothesis) member

theorem IsTame.reopen (tame : IsTame line) : IsTame (reopen line) := by
  cases line with
  | nil => exact tame
  | cons glyph rest =>
      obtain ⟨here, others⟩ := List.forall_mem_cons.mp tame
      exact List.forall_mem_cons.mpr ⟨here, others⟩

theorem IsTame.fillTab (tame : IsTame line) : IsTame (fillTab line) := by
  unfold Line.fillTab
  split
  · next last isLast =>
      have tameLast := tame last (List.mem_of_getLast? isLast)
      split
      · refine IsTame.append (IsTame.append (tame.of_subset (List.dropLast_subset line)) ?_)
          (IsTame.replicate (tameLast.blanked false) _)
        exact List.forall_mem_singleton.mpr (tameLast.blanked last.opens)
      · exact tame
  · exact tame

theorem IsTame.expandTabs (tame : IsTame line) : IsTame (expandTabs line) := by
  have tamePieces : ∀ piece ∈ piecesAfter '\t' line, IsTame piece :=
    fun piece member => tame.of_subset (subset_of_mem_piecesAfter member)
  unfold Line.expandTabs
  split
  · exact nofun
  · next first others divided =>
      rw [divided] at tamePieces
      obtain ⟨tameFirst, tameOthers⟩ := List.forall_mem_cons.mp tamePieces
      refine IsTame.append tameFirst.fillTab fun glyph member => ?_
      obtain ⟨piece, isPiece, inPiece⟩ := List.mem_flatMap.mp member
      exact (tameOthers piece isPiece).reopen.fillTab glyph inPiece

end Line

/-- The words of a line hold nothing that is not in the line. -/
theorem flatten_lineWords_subset (line : Line) : (lineWords line).flatten ⊆ line := by
  have whole := flatten_chunks line
  unfold lineWords
  split
  · exact List.nil_subset _
  · split
    · next first second others divided =>
        rw [divided] at whole
        split
        · rw [List.flatten_cons, List.append_assoc, ← List.flatten_cons, ← List.flatten_cons, whole]
          exact List.Subset.refl _
        · rw [whole]
          exact List.Subset.refl _
    · rw [whole]
      exact List.Subset.refl _

theorem flatten_foldWord_subset (width : Nat) (word : Line) :
    (foldWord width word).flatten ⊆ word := by
  unfold foldWord
  generalize pieceLengths width 0 0 (Text.clusters (Line.text word)) = lengths
  cases lengths with
  | nil => exact List.nil_subset _
  | cons length rest =>
      rw [flatten_takeLengths (List.cons_ne_nil length rest)]
      exact List.Subset.refl _

theorem flatten_overflowing_subset (overflow : Overflow) (width : Nat) (line word : Line) :
    (overflowing overflow width line word).flatten ⊆ word := by
  cases overflow with
  | cutOff => simp [overflowing]
  | fold =>
      rw [overflowing]
      split
      · intro glyph member
        obtain ⟨piece, inPieces, inPiece⟩ := List.mem_flatten.mp member
        exact flatten_foldWord_subset width word
          (List.mem_flatten.mpr ⟨piece, (List.dropWhile_sublist _).subset inPieces, inPiece⟩)
      · exact flatten_foldWord_subset width word

/-- The lines that words come to hold nothing that is not in the words or in the line that is
open. -/
theorem flatten_flow_subset
    (overflow : Overflow)
    (width : Nat)
    (line : Line)
    (used : Nat)
    (words : List Line) :
    (flow overflow width line used words).flatten ⊆ line ++ words.flatten := by
  -- Whatever becomes of a word, the line that is open for the rest is made of the word's glyphs
  -- and those of the line before.
  induction words generalizing line used with
  | nil => simp
  | cons word rest hypothesis =>
      rw [flow_cons, List.flatten_cons]
      split
      · rw [← List.append_assoc]
        exact hypothesis (line ++ word) _
      · split
        · rw [List.flatten_cons]
          exact List.append_subset.mpr ⟨List.subset_append_left _ _,
            List.Subset.trans (hypothesis word _) (List.subset_append_right _ _)⟩
        · have pieces := flatten_overflowing_subset overflow width line word
          split
          · rw [← List.append_assoc]
            exact hypothesis (line ++ word) _
          · next last isLast =>
              have opened : (if line.isEmpty then [] else [line]).flatten ⊆ line := by
                split <;> simp
              have front : (overflowing overflow width line word).dropLast.flatten ⊆ word := by
                intro glyph member
                obtain ⟨piece, inFront, inPiece⟩ := List.mem_flatten.mp member
                exact pieces
                  (List.mem_flatten.mpr ⟨piece, List.dropLast_subset _ inFront, inPiece⟩)
              have back : last ⊆ word := fun glyph member =>
                pieces (List.mem_flatten.mpr ⟨last, List.mem_of_getLast? isLast, member⟩)
              rw [List.flatten_append, List.flatten_append]
              intro glyph member
              simp only [List.mem_append] at member ⊢
              rcases member with (inLine | inFront) | inRest
              · exact .inl (opened inLine)
              · exact .inr (.inl (front inFront))
              · rcases List.mem_append.mp (hypothesis last _ inRest) with inLast | inOthers
                · exact .inr (.inl (back inLast))
                · exact .inr (.inr inOthers)

theorem isTame_brokenLine
    (overflow : Overflow)
    (width : Nat)
    (tame : line.IsTame) :
    ∀ broken ∈ brokenLine overflow width line, broken.IsTame := by
  have expanded := Line.IsTame.expandTabs tame
  unfold brokenLine
  split
  · exact List.forall_mem_singleton.mpr expanded
  · intro broken member
    have inWords := flatten_flow_subset overflow width [] 0 (lineWords (Line.expandTabs line))
    refine expanded.of_subset fun glyph inBroken => ?_
    exact flatten_lineWords_subset _ (inWords (List.mem_flatten.mpr ⟨broken, member, inBroken⟩))

/-- A tame line that is cut off is tame, and no wider than it may be. -/
theorem Line.IsTame.cropLine
    {cropped : Line}
    (tame : line.IsTame)
    (isCropped : cropLine width line = .ok cropped) :
    cropped.IsTame ∧ Line.cells cropped ≤ width := by
  obtain ⟨cut, found, rfl⟩ := exists_of_map_eq_ok isCropped
  have room := Cut.cells_take_le tame.untied found
  have front : Line.IsTame (line.take cut.kept) := tame.of_subset (List.take_subset _ _)
  have text : Line.text (line.take cut.kept) = (Line.text line).take cut.kept := List.map_take
  cases halved : cut.halved with
  | false =>
      rw [halved] at room
      simp only [Bool.false_eq_true, if_false, List.append_nil]
      refine ⟨front, ?_⟩
      rw [Line.cells, text]
      exact room
  | true =>
      rw [halved] at room
      simp only [if_true]
      have back : Line.IsTame (((line.drop cut.kept).take 1).map fun glyph =>
          { glyph with character := ' ' }) := by
        intro glyph member
        obtain ⟨other, inRest, rfl⟩ := List.mem_map.mp member
        exact (tame other ((List.drop_subset _ _) ((List.take_subset _ _) inRest))).blanked _
      have oneCell : Line.cells (((line.drop cut.kept).take 1).map fun glyph =>
          { glyph with character := ' ' }) ≤ 1 := by
        cases line.drop cut.kept with
        | nil => exact Nat.zero_le 1
        | cons glyph rest => exact Nat.le_refl 1
      refine ⟨front.append back, ?_⟩
      rw [Line.cells, Line.text_append, Text.Untied.cells_append, text]
      · exact Nat.le_trans (Nat.add_le_add_left oneCell _) room
      · exact Line.text_append _ _ ▸ (front.append back).untied

/-- A tame line that is fitted to a width is tame, and no wider. -/
theorem Line.IsTame.fit
    {fitted : Line}
    (tame : line.IsTame)
    (isFitted : fit .fold width line = .ok fitted) :
    fitted.IsTame ∧ Line.cells fitted ≤ width := by
  unfold Layout.fit at isFitted
  dsimp only at isFitted
  have shorter : ∀ count, Line.IsTame (line.take count) :=
    fun count => tame.of_subset (List.take_subset count line)
  split at isFitted
  · next narrow =>
      cases isFitted
      exact ⟨shorter _, narrow⟩
  · exact (shorter _).cropLine isFitted

end Layout

namespace StyledText

/-- A text whose styles can all be read. -/
structure IsReadable (text : StyledText) : Prop where
  style_read : text.style.truthy = true → Style.lookUp text.style = .ok ()
  spans_read : ∀ span ∈ text.spans, Style.lookUp span.style = .ok ()

/-- A text in which no character is tied to another one or widened by it, and whose styles can all
be read. -/
structure IsTame (text : StyledText) : Prop extends IsReadable text where
  untied : text.plain.Untied

variable {text left right : StyledText}

theorem isReadable_unstyled (text : StyledText) : text.unstyled.IsReadable :=
  ⟨nofun, nofun⟩

theorem IsTame.unstyled (tame : text.IsTame) : text.unstyled.IsTame :=
  ⟨isReadable_unstyled text, tame.untied⟩

theorem IsReadable.append (front : left.IsReadable) (back : right.IsReadable) :
    (left.append right).IsReadable := by
  unfold StyledText.append
  split
  · exact front
  · refine ⟨front.style_read, fun span member => ?_⟩
    rcases List.mem_append.mp member with inFront | moved
    · rcases List.mem_append.mp inFront with before | isWhole
      · exact front.spans_read span before
      · split at isWhole
        · next counts =>
            rw [List.mem_singleton.mp isWhole]
            exact back.style_read counts
        · cases isWhole
    · obtain ⟨other, inBack, rfl⟩ := List.mem_map.mp moved
      exact back.spans_read other inBack

/-- A text that is put together from readable parts is readable. -/
theorem isReadable_assemble {parts : List StyledText} (readable : ∀ part ∈ parts, part.IsReadable) :
    (assemble parts).IsReadable := by
  have general : ∀ first : StyledText, first.IsReadable →
      (parts.foldl StyledText.append first).IsReadable := by
    induction parts with
    | nil => exact fun first readableFirst => readableFirst
    | cons part rest hypothesis =>
        obtain ⟨here, others⟩ := List.forall_mem_cons.mp readable
        exact fun first readableFirst => hypothesis others _ (readableFirst.append here)
  exact general { plain := [] } ⟨nofun, nofun⟩

end StyledText

namespace Layout

variable {width : Nat} {text : StyledText} {lines : List Line}

/-- The line of a tame text is tame. -/
theorem isTame_ofStyled (tame : text.IsTame) : Line.IsTame (Line.ofStyled text) := by
  intro glyph member
  obtain ⟨⟨character, place⟩, inText, rfl⟩ := List.mem_map.mp member
  refine ⟨tame.untied character (List.fst_mem_of_mem_zipIdx inText), ?_⟩
  intro found styled
  rcases List.mem_append.mp styled with ofWhole | ofSpan
  · split at ofWhole
    · next counts =>
        rw [List.mem_singleton.mp ofWhole]
        exact tame.style_read counts
    · cases ofWhole
  · obtain ⟨⟨span, spanFound⟩, inSpans, covers⟩ := List.mem_filterMap.mp ofSpan
    obtain ⟨_, inText, isSpan⟩ := List.mem_map.mp inSpans
    cases isSpan
    dsimp only at covers
    split at covers
    · cases covers
      exact tame.spans_read span inText
    · cases covers

/-- The lines of a tame text are tame, and no wider than they may be. -/
theorem isTame_breakLines
    (tame : text.IsTame)
    (broken : breakLines .fold width text = .ok lines) :
    ∀ line ∈ lines, line.IsTame ∧ Line.cells line ≤ width := by
  obtain ⟨paragraphs, checked, rfl⟩ := exists_of_map_eq_ok broken
  intro line member
  obtain ⟨paragraph, isParagraph, inParagraph⟩ := List.mem_flatten.mp member
  obtain ⟨piece, isPiece, brokenPiece⟩ :=
    (mem_iff_of_mapM_eq_ok checked paragraph).mp isParagraph
  obtain ⟨unfitted, isBroken, fitted⟩ :=
    (mem_iff_of_mapM_eq_ok brokenPiece line).mp inParagraph
  have tamePiece := (isTame_ofStyled tame).of_subset (Line.subset_of_mem_pieces isPiece)
  exact (isTame_brokenLine .fold width tamePiece unfitted isBroken).fit fitted

/-- All styles of a tame text are read when it is written. -/
theorem writtenLines_eq_breakLines (tame : text.IsTame) :
    writtenLines width text = breakLines .fold width text := by
  unfold writtenLines
  cases broken : breakLines .fold width text with
  | error error => rfl
  | ok lines =>
      have looked : lines.forM Line.lookUp = .ok () :=
        forM_eq_ok fun line member => (isTame_breakLines tame broken line member).1.lookUp_eq
      dsimp only [bind, Except.bind]
      split
      · next counts =>
          rw [tame.style_read counts]
          dsimp only
          rw [looked]
          rfl
      · dsimp only [pure, Except.pure]
        rw [looked]

end Layout
end Handbook
