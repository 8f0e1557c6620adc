import Handbook.Command.Basic

/-!
# Reports in sequence

Texts that are written one after another are written as one. What the journal is
told can be left out of a report, step by step, without a change to anything else
that the request shows or to how it ends.
-/

namespace Handbook
namespace Report

variable {Item Found Result Next : Type}

@[simp] theorem ofExcept_ok (result : Result) :
    ofExcept (.ok result : Except Error Result) = done result := rfl

/-! ## Writing -/

@[simp] theorem write_andThen_write (channel : Channel) (first second : Text) :
    (write channel first).andThen (fun _ => write channel second) =
      write channel (first ++ second) := by
  cases channel <;> simp only [write, andThen, Report.mk.injEq, and_true] <;>
    ext1 <;> simp

/-- Writing a text for each of several items writes these texts one after another. -/
theorem forEach_write
    {action : Item → Report Unit}
    {channel : Channel}
    {text : Item → Text}
    {items : List Item}
    (writes : ∀ item ∈ items, action item = write channel (text item)) :
    forEach action items = write channel (items.flatMap text) := by
  induction items with
  | nil => cases channel <;> rfl
  | cons item rest hypothesis =>
      obtain ⟨here, following⟩ := List.forall_mem_cons.mp writes
      rw [forEach, here, hypothesis following, write_andThen_write, List.flatMap_cons]

/-- What is done for the items that a search finds is done for the ones that are found. -/
theorem forEach_filterMap
    (action : Found → Report Unit)
    (search : Item → Option Found)
    (items : List Item) :
    forEach (fun item =>
        match search item with
        | some found => action found
        | none => done ()) items =
      forEach action (items.filterMap search) := by
  induction items with
  | nil => rfl
  | cons item rest hypothesis =>
      rw [forEach, hypothesis, List.filterMap_cons]
      cases search item <;> simp [forEach]

/-! ## Leaving the journal out -/

/-- A report without what the journal was told. -/
def unnoted (report : Report Result) : Report Result :=
  { report with transcript := { report.transcript with journal := [] } }

@[simp] theorem unnoted_done (result : Result) : (done result).unnoted = done result := rfl

@[simp] theorem unnoted_ofExcept (check : Except Error Result) :
    (ofExcept check).unnoted = ofExcept check := by
  cases check <;> rfl

@[simp] theorem unnoted_write (channel : Channel) (text : Text) :
    (write channel text).unnoted = write channel text := by
  cases channel <;> rfl

@[simp] theorem unnoted_warn (fault : Fault) : (warn fault).unnoted = warn fault := rfl

@[simp] theorem unnoted_note (message : Text) : (note message).unnoted = done () := rfl

/-- Leaving the journal out of two requests in sequence leaves it out of each. -/
@[simp] theorem unnoted_andThen (report : Report Result) (next : Result → Report Next) :
    (report.andThen next).unnoted = report.unnoted.andThen fun result => (next result).unnoted := by
  unfold andThen unnoted
  cases report.result <;> rfl

/-- A page that could be laid out is printed as it is. -/
theorem printTo_of_none {channel : Channel} {page : Aftermath Text} (whole : page.failure = none) :
    printTo channel page = write channel page.state := by
  rw [printTo, whole]
  exact andThen_done _

/-- The report of a request for a page: the page is written, or nothing is and the request is
refused. -/
def ofPage : Except Error Text → Report Verdict
  | .ok page => ⟨{ out := page }, .ok .okay⟩
  | .error error => refuse error

theorem ofPage_eq (page : Except Error Text) :
    ofPage page =
      ((ofExcept page).andThen (write .output)).andThen fun _ => done .okay := by
  cases page with
  | ok page => simp [ofPage, write, andThen, done]
  | error error => rfl

end Report
end Handbook
