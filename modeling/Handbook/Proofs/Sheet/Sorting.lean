import Handbook.Proofs.Sheet.Parameters

/-!
# Sorted parameters

Inserting parameters one after another, each at the place that is sought by halving,
sorts them by format name and keeps equal ones in the order in which they come. So
the parameters of a sheet are a stable sort of its named ones with the positional
ones behind them, whatever its options and its runs hold: a format name may recur.
-/

namespace Handbook

namespace OrderedByName

variable {named : List Parameter}

/-- Among the parameters of one format name, an insertion puts the new one last. -/
theorem filter_insertByName
    (ordered : OrderedByName named)
    (parameter : Parameter)
    (name : Text) :
    (Handbook.insertByName parameter named).filter (fun other => other.formatName = name) =
      (named ++ [parameter]).filter fun other => other.formatName = name := by
  induction named with
  | nil => rfl
  | cons first rest hypothesis =>
      unfold Handbook.insertByName
      split
      · next smaller =>
          change ([parameter] ++ first :: rest).filter _ = _
          rw [List.filter_append, List.filter_append]
          -- All that the parameter is put in front of are greater, so none of them has its name.
          by_cases own : parameter.formatName = name
          · have behind : (first :: rest).filter (fun other => other.formatName = name) = [] := by
              rw [List.filter_eq_nil_iff]
              intro other member equal
              have notBelow := Text.not_lt_head ordered member
              rw [of_decide_eq_true equal, ← own] at notBelow
              exact notBelow smaller
            rw [behind, List.append_nil, List.nil_append]
          · have inFront : [parameter].filter (fun other => other.formatName = name) = [] := by
              simpa using own
            rw [inFront, List.append_nil, List.nil_append]
      · rw [List.cons_append, List.filter_cons, List.filter_cons, hypothesis ordered.of_cons]

/-- Among the parameters of one format name, insertions put the new ones last, in order. -/
theorem filter_insertAllByName
    (ordered : OrderedByName named)
    (parameters : List Parameter)
    (name : Text) :
    (Handbook.insertAllByName named parameters).filter (fun other => other.formatName = name) =
      (named ++ parameters).filter fun other => other.formatName = name := by
  induction parameters generalizing named with
  | nil => simp
  | cons parameter rest hypothesis =>
      rw [insertAllByName_cons, hypothesis (ordered.insertByName parameter), List.filter_append,
        ordered.filter_insertByName, ← List.filter_append, List.append_assoc]
      rfl

end OrderedByName

/-- Insertions one after another are a stable sort. -/
theorem insertAllByName_nil_eq_mergeSort (parameters : List Parameter) :
    insertAllByName [] parameters =
      parameters.mergeSort fun first second => !decide (second.formatName < first.formatName) := by
  have empty : OrderedByName [] := List.Pairwise.nil
  apply Text.eq_of_filter_eq (empty.insertAllByName parameters)
    (Text.pairwise_mergeSort Parameter.formatName parameters)
  intro name
  rw [empty.filter_insertAllByName, Text.filter_mergeSort]
  rfl

namespace Sheet

/-- Making the parameters of a sheet anew, if no descriptor is refused, replaces its parameters and
nothing else: each option is classified once, the named parameters are sorted by format name, equal
ones in the order of their options, and the positional ones follow as their options do. -/
theorem generateParameters_eq_mergeSort
    {sheet : Sheet}
    (succeeded : sheet.generateParameters.failure = none) :
    ∃ classified : List Parameter,
      (sheet.options.items.map fun descriptor =>
        sheet.classifier.classifyDescriptor descriptor (sheet.runs.map Run.binding)) =
        classified.map .ok ∧
      sheet.generateParameters.state =
        { sheet with
          parameters :=
            (classified.filter fun parameter => !parameter.isPositional).mergeSort
                (fun first second => !decide (second.formatName < first.formatName)) ++
              classified.filter Parameter.isPositional } ∧
      sheet.generateParameters.state.parameters.Perm classified := by
  cases outcome : sheet.options.items.mapM fun descriptor =>
      sheet.classifier.classifyDescriptor descriptor (sheet.runs.map Run.binding) with
  | error error =>
      rw [generateParameters_eq_of_unclassified outcome] at succeeded
      cases succeeded
  | ok classified =>
      rw [generateParameters_eq_of_classified outcome]
      refine ⟨classified, map_eq_of_mapM_eq_ok outcome, ?_, arranged_perm classified⟩
      rw [← insertAllByName_nil_eq_mergeSort]
      rfl

/-- Two options of one format name, one of them filled in past all checks, and an argument between
them. -/
theorem generateParameters_eq_mergeSort_of_shared_format_name :
    let long : Descriptor :=
      ⟨.str ['a'], .str [], .str ['x'], .toggle, .unset, .bool false⟩
    let argument : Descriptor :=
      ⟨.str ['F'], .str [], .str ['y'], .single, .unset, .bool false⟩
    let short : Descriptor :=
      ⟨.str [], .str ['-', 'a'], .str ['z'], .toggle, .unset, .bool false⟩
    let sheet : Sheet :=
      { application := [], category := [], command := [], description := []
        options := ⟨[short, argument, long]⟩, runs := [⟨['F'], 1⟩] }
    let first : Parameter := { shortName := .str ['-', 'a'], description := .str ['z'] }
    let second : Parameter := { longName := .str ['a'], description := .str ['x'] }
    let third : Parameter :=
      { position := .int 0, longName := .str ['F'], description := .str ['y'], limit := .int 1 }
    sheet.generateParameters.failure = none ∧ first.formatName = second.formatName ∧
      sheet.generateParameters.state = { sheet with parameters := [first, second, third] } := by
  intro long argument short sheet first second third
  have outcome :
      ([short, argument, long].mapM fun descriptor =>
        ({} : Classifier).classifyDescriptor descriptor [⟨.str ['F'], .int 1⟩]) =
        .ok [first, third, second] := by cbv
  have succeeded : sheet.generateParameters.failure = none := by
    rw [generateParameters_eq_of_classified outcome]
  have shared : first.formatName = second.formatName := by cbv
  have sorted :
      [first, second].mergeSort (fun one other => !decide (other.formatName < one.formatName)) =
        [first, second] := by
    apply List.mergeSort_of_pairwise
    simp [shared]
  obtain ⟨classified, each, state, _⟩ := generateParameters_eq_mergeSort succeeded
  have parameters : classified = [first, third, second] :=
    List.map_injective_iff.mpr (fun _ _ => Except.ok.inj)
      (each.symm.trans (map_eq_of_mapM_eq_ok outcome))
  have named : classified.filter (fun parameter => !parameter.isPositional) = [first, second] := by
    rw [parameters]
    cbv
  have positional : classified.filter Parameter.isPositional = [third] := by
    rw [parameters]
    cbv
  rw [named, positional, sorted] at state
  exact ⟨succeeded, shared, state⟩

end Sheet
end Handbook
