import Handbook.Proofs.Sheet.Parameters
import Handbook.Proofs.Sheet.Rebuilding

/-!
# Failed renewals

A sheet that cannot be made anew shows what it showed before. Two obstacles are
possible, a walk over the positions that is refused and a descriptor that cannot be
classified; both are met before the sheet lists anything new, and behind either of
them the sheet differs from what it was in its runs alone, which nothing but its
outline shows.
-/

namespace Handbook
namespace Sheet

variable {sheet : Sheet} {error : Error}

/-- What keeps a sheet from being made anew: a walk over its positions that is refused, or, among
the runs of a walk that is not, the first descriptor that cannot be classified. -/
inductive Obstacle (sheet : Sheet) : Error → Prop
  | walk (refused : sheet.slots.collapse.refused = true) : Obstacle sheet .countTooLarge
  | descriptor
      {front rest : List Descriptor}
      {descriptor : Descriptor}
      {error : Error}
      (accepted : sheet.slots.collapse.refused = false)
      (whole : sheet.options.items = front ++ descriptor :: rest)
      (classified : ∃ parameters, (front.mapM fun earlier =>
        sheet.classifier.classifyDescriptor earlier
          (sheet.slots.mergedRuns.map Run.binding)) = .ok parameters)
      (failed : sheet.classifier.classifyDescriptor descriptor
        (sheet.slots.mergedRuns.map Run.binding) = .error error) : Obstacle sheet error

/-- Behind an obstacle a sheet has the runs that were recorded, and everything else as it was. -/
theorem Obstacle.initialized_eq (obstacle : sheet.Obstacle error) :
    sheet.initialized = ⟨{ sheet with runs := sheet.slots.collapse.runs }, some error⟩ := by
  cases obstacle with
  | walk refused => simp [initialized, generateRuns, refused]
  | descriptor accepted whole classified failed =>
      let walked : Sheet := { sheet with runs := sheet.slots.mergedRuns }
      have unmade : walked.generateParameters = ⟨walked, some error⟩ :=
        generateParameters_eq_of_unclassified
          (mapM_eq_error_iff.mpr ⟨_, _, _, whole, classified, failed⟩)
      rw [initialized_eq_generateParameters accepted, unmade,
        SlotTable.collapse_eq_mergedRuns accepted]

/-- A sheet cannot be made anew exactly when there is an obstacle. -/
theorem failure_initialized_eq_some_iff :
    sheet.initialized.failure = some error ↔ sheet.Obstacle error := by
  constructor
  · intro failed
    cases accepted : sheet.slots.collapse.refused with
    | true =>
        rw [failure_initialized_of_refused accepted] at failed
        cases failed
        exact .walk accepted
    | false =>
        cases outcome : sheet.classified with
        | ok parameters =>
            rw [initialized_eq_of_classified accepted outcome] at failed
            cases failed
        | error refusal =>
            rw [failure_initialized_of_unclassified accepted outcome] at failed
            cases failed
            obtain ⟨front, descriptor, rest, whole, classified, stopped⟩ :=
              mapM_eq_error_iff.mp outcome
            exact .descriptor accepted whole classified stopped
  · intro obstacle
    rw [obstacle.initialized_eq]

end Sheet

/-- No text that is asked of a sheet but its outline shows the runs. -/
theorem Rendering.text_eq_of_ne_outline
    {rendering : Rendering}
    (different : rendering ≠ .outline)
    (sheet : Sheet)
    (runs : List Run) :
    rendering.text { sheet with runs } = rendering.text sheet := by
  cases rendering with
  | outline => exact absurd rfl different
  | table | paragraph | usage | usageParameters | information | page => rfl

namespace SharedSheet

/-- A sheet that cannot be made anew, whatever it holds and whatever was done to it before, has met
an obstacle. It lists the parameters that it listed, its former ones are what they were, and its
page, its tables and its usage line are the same as before; its runs alone are those of the walk. -/
theorem renew_keeps_what_is_shown
    {shared : SharedSheet}
    {error : Error}
    (failed : (shared.perform .renew).failure = some error) :
    let after := (shared.perform .renew).state
    shared.sheet.Obstacle error ∧
      after = { shared with
        sheet := { shared.sheet with runs := shared.sheet.slots.collapse.runs } } ∧
      after.sheet.parameters = shared.sheet.parameters ∧
      ∀ rendering : Rendering, rendering ≠ .outline →
        rendering.text after.sheet = rendering.text shared.sheet := by
  intro after
  rw [perform, failure_relist, Sheet.failure_initialized_eq_some_iff] at failed
  have kept : after = { shared with
      sheet := { shared.sheet with runs := shared.sheet.slots.collapse.runs } } := by
    unfold after
    rw [perform, failed.initialized_eq]
    rfl
  refine ⟨failed, kept, by rw [kept], fun rendering different => ?_⟩
  rw [kept]
  exact Rendering.text_eq_of_ne_outline different _ _

/-- A sheet with a parameter and a slot that was added later, whose second option was filled in
without a name. -/
theorem renew_keeps_what_is_shown_of_nameless_option :
    let all : Descriptor := ⟨.str ['a'], .str [], .str ['z'], .toggle, .unset, .bool false⟩
    let nameless : Descriptor := ⟨.str [], .str [], .str ['y'], .toggle, .unset, .bool false⟩
    let sheet : Sheet :=
      { application := ['b'], category := [], command := ['c'], description := ['d']
        slots := ⟨[⟨['F'], .exactly 2⟩]⟩, options := ⟨[all, nameless]⟩
        parameters := [{ longName := .str ['a'], description := .str ['z'] }] }
    let shared : SharedSheet := { sheet, former := [{}] }
    let after := (shared.perform .renew).state
    (shared.perform .renew).failure = some .classifiedNameless ∧ shared.sheet.runs = [] ∧
      after.sheet.runs = [⟨['F'], 2⟩] ∧ after.sheet.page = shared.sheet.page ∧
      after.sheet.usageParameters = .ok "[--a]".toList := by
  intro all nameless sheet shared after
  have failed : (shared.perform .renew).failure = some .classifiedNameless := by cbv
  obtain ⟨_, state, _, shown⟩ := renew_keeps_what_is_shown failed
  have shownBefore : shared.sheet.usageParameters = .ok "[--a]".toList := by cbv
  refine ⟨failed, rfl, ?_, shown .page (by simp),
    (shown .usageParameters (by simp)).trans shownBefore⟩
  unfold after
  rw [state]
  rfl

end SharedSheet
end Handbook
