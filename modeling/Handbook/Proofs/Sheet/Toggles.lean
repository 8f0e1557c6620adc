import Handbook.Proofs.Sheet.Sections

/-!
# Toggles on a page

What a sheet shows of one parameter, whatever the others are: the letter of a
short toggle stands in the group that opens the usage line, and the rows of a
parameter are lines of its table. The other parameters may hold any values that
can be shown at all.
-/

namespace Handbook

namespace Value

/-- Values that are joined are texts. -/
theorem eq_map_of_textsFrom_eq_ok
    {place : Nat}
    {values : List Value}
    {texts : List Text}
    (joinable : textsFrom place values = .ok texts) :
    values = texts.map .str := by
  induction values generalizing place texts with
  | nil =>
      cases joinable
      rfl
  | cons value rest hypothesis =>
      unfold textsFrom at joinable
      split at joinable
      · next empty => cases empty
      · next text others whole =>
          cases whole
          obtain ⟨behind, othersJoinable, rfl⟩ := exists_of_map_eq_ok joinable
          rw [List.map_cons, ← hypothesis othersJoinable]
      · cases joinable

/-- A text is found in what it is joined to. -/
theorem subset_of_joined_eq_ok
    {values : List Value}
    {text whole : Text}
    (together : joined [] values = .ok whole)
    (member : .str text ∈ values) :
    text ⊆ whole := by
  obtain ⟨texts, joinable, rfl⟩ := exists_of_map_eq_ok together
  rw [eq_map_of_textsFrom_eq_ok joinable] at member
  obtain ⟨same, inTexts, equal⟩ := List.mem_map.mp member
  cases equal
  rw [Text.intercalate_empty]
  exact fun _ present => List.mem_flatten_of_mem inTexts present

end Value

namespace Sheet

variable {sheet : Sheet} {parameter : Parameter} {parameters : List Parameter} {line : Text}

/-! ## The usage line -/

/-- A sheet that shows a short toggle opens its usage line with a group that has the short name of
the toggle in it. -/
theorem exists_usage_of_shortToggle
    {usage shortName : Text}
    (rendered : usageOf parameters = .ok usage)
    (member : parameter ∈ parameters)
    (toggle : usageGroup parameter = .shortToggle)
    (named : parameter.shortName = .str shortName) :
    ∃ names rest, usage = "[-" ++ names ++ ']' :: rest ∧
      Value.joined [] ((usageMembers .shortToggle parameters).map Parameter.shortName) = .ok names ∧
      shortName ⊆ names := by
  obtain ⟨toggles, grouped, rfl⟩ := exists_of_map_eq_ok rendered
  have inGroup : parameter ∈ usageMembers .shortToggle parameters :=
    List.mem_filter.mpr ⟨member, by simpa using toggle⟩
  have nonempty : (usageMembers .shortToggle parameters).isEmpty = false := by
    simpa using List.ne_nil_of_mem inGroup
  simp only [shortToggles, nonempty] at grouped
  obtain ⟨names, joined, rfl⟩ := exists_of_map_eq_ok grouped
  have opening : (" [-" : Text) = [' ', '[', '-'] := rfl
  have kept := @Text.trim_blank_cons '[' ']' (by decide) (by decide) ('-' :: names)
    (usageOrder.flatMap (usagePart parameters))
  refine ⟨names, Text.trimRight (usageOrder.flatMap (usagePart parameters)), ?_, joined, ?_⟩
  · rw [opening, List.append_assoc]
    exact kept
  · apply Value.subset_of_joined_eq_ok joined
    rw [← named]
    exact List.mem_map_of_mem inGroup

/-! ## Tables -/

/-- Rows are lines, one below the other. -/
theorem exists_rowsOf_eq (name : Text) (fragments : List Text) :
    ∃ lines, rowsOf name fragments = paragraphOf lines := by
  induction fragments generalizing name with
  | nil => exact ⟨[], rfl⟩
  | cons fragment rest hypothesis =>
      obtain ⟨lines, whole⟩ := hypothesis (Text.padRight nameWidth [])
      refine ⟨(name ++ ' ' :: fragment) :: lines, ?_⟩
      rw [rowsOf_cons, whole, paragraphOf_cons]
      simp [row]

theorem exists_parameterRows_eq
    {rows : Text}
    (rendered : parameterRows parameter = .ok rows) :
    ∃ lines, rows = paragraphOf lines := by
  obtain ⟨lines, _, beside⟩ := exists_of_bind_eq_ok rendered
  unfold rowsBeside at beside
  split at beside
  · cases beside
    exact ⟨[], rfl⟩
  · obtain ⟨name, _, afterName⟩ := exists_of_bind_eq_ok beside
    obtain ⟨fragments, _, whole⟩ := exists_of_bind_eq_ok afterName
    cases whole
    exact exists_rowsOf_eq name fragments

/-- The lines behind a paragraph are lines of the whole. -/
theorem pieces_subset_paragraphOf_append (lines : List Text) (rest : Text) :
    Text.pieces '\n' rest ⊆ Text.pieces '\n' (paragraphOf lines ++ rest) := by
  induction lines with
  | nil => exact List.Subset.refl _
  | cons line others hypothesis =>
      rw [paragraphOf_cons, List.append_assoc, List.cons_append, Text.pieces_append_separator]
      exact List.subset_append_of_subset_right _ hypothesis

/-- An unbroken line of a paragraph is a line of every text that consists of this paragraph and
others. -/
theorem mem_pieces_flatten
    {texts : List Text}
    (paragraphs : ∀ text ∈ texts, ∃ lines, text = paragraphOf lines)
    (member : paragraphOf [line] ∈ texts)
    (unbroken : '\n' ∉ line) :
    line ∈ Text.pieces '\n' texts.flatten := by
  induction texts with
  | nil => simp at member
  | cons text rest hypothesis =>
      obtain ⟨⟨lines, rfl⟩, restParagraphs⟩ := List.forall_mem_cons.mp paragraphs
      rw [List.flatten_cons]
      -- Only the line that is asked for is unbroken; the other paragraphs are passed over whole.
      rcases List.mem_cons.mp member with same | behind
      · rw [← same, pieces_paragraphOf_append (by simpa using unbroken)]
        exact List.mem_append_left _ (List.mem_singleton_self line)
      · exact pieces_subset_paragraphOf_append lines _ (hypothesis restParagraphs behind)

/-- The row of a parameter that has one is a line of its table. -/
theorem mem_pieces_table
    {positional : Bool}
    {table : Text}
    (rendered : sheet.table (.bool positional) = .ok table)
    (member : parameter ∈ sheet.parameters)
    (placed : parameter.isPositional = positional)
    (row : parameterRows parameter = .ok (paragraphOf [line]))
    (unbroken : '\n' ∉ line) :
    line ∈ Text.pieces '\n' table := by
  obtain ⟨rows, passed, whole⟩ := exists_of_bind_eq_ok rendered
  cases whole
  have isRow := mem_iff_of_mapM_eq_ok passed
  apply mem_pieces_flatten _ _ unbroken
  · intro text inRows
    obtain ⟨_, _, shown⟩ := (isRow text).mp inRows
    exact exists_parameterRows_eq shown
  · refine (isRow _).mpr ⟨parameter, List.mem_filter.mpr ⟨member, ?_⟩, row⟩
    simp [placed]

end Sheet
end Handbook
