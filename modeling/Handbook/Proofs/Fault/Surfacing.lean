import Handbook.Proofs.Reports
import Handbook.Report

/-!
# How faults surface

Outside shell mode a fault is not printed: a warning is issued and an error is
raised. In shell mode the fault is printed, as far as that can be done, and only an
error that is not deferred ends the program afterwards.
-/

namespace Handbook

/-- Printing comes to its end or is refused; it does not end the program. -/
theorem Report.result_print_cases (outlet : Outlet) (page : Aftermath Text) :
    (Report.print outlet page).result = .ok () ∨
      ∃ error, (Report.print outlet page).result = .error (.error error) := by
  have onChannel : ∀ channel, (Report.printTo channel page).result = .ok () ∨
      ∃ error, (Report.printTo channel page).result = .error (.error error) := by
    intro channel
    cases failed : page.failure with
    | none => exact .inl (by cases channel <;> simp [printTo, write, andThen, done, failed])
    | some error =>
        exact .inr ⟨error, by cases channel <;> simp [printTo, write, andThen, refuse, stop, failed]⟩
  cases outlet with
  | channel channel => exact onChannel channel
  | value value =>
      cases refused : value.truthy with
      | true => exact .inr ⟨.noAttribute value.kind "write", by simp [print, refused, refuse, stop]⟩
      | false => simpa [print, refused] using onChannel .error

namespace Fault

variable {fault : Fault} {host : Host}

/-- What is printed of a fault. -/
def page (fault : Fault) (host : Host) : Aftermath Text :=
  Layout.printed ((fault.drawing host).bind Drawing.lines)

/-- The report of printing a fault where its stream says. -/
def printing (fault : Fault) (host : Host) : Report Unit :=
  Report.print fault.options.stream (fault.page host)

/-- Outside shell mode a fault is not printed. -/
theorem surface_of_not_shell (quiet : fault.options.shell.truthy = false) :
    fault.surface host =
      if fault.kind.isWarning then Report.warn fault else Report.stop (.fault fault) := by
  simp [surface, quiet]

/-- In shell mode a fault is printed, and then an error that is not deferred ends the program. -/
theorem surface_of_loud (loud : fault.options.shell.truthy = true) :
    fault.surface host =
      (fault.printing host).andThen fun _ =>
        if fault.kind.isWarning || fault.options.deferred.truthy then Report.done ()
        else Report.stop (.exit 1) := by
  simp [surface, loud, printing, page]

/-- A fault that does not end the program is printed in shell mode, where its stream says, and
nothing else is done. -/
theorem surface_of_shell
    (shell : fault.options.shell.truthy = true)
    (gentle : (fault.kind.isWarning || fault.options.deferred.truthy) = true)
    (stream : fault.options.stream = .channel .error)
    (printed : (fault.page host).failure = none) :
    fault.surface host = Report.write .error (fault.page host).state := by
  have written : Report.print fault.options.stream (fault.page host) =
      Report.write .error (fault.page host).state := by
    rw [stream]
    exact Report.printTo_of_none printed
  rw [surface_of_loud shell, printing, written, if_pos gentle]
  exact Report.andThen_done _

/-- What a report of a fault that surfaces shows, and how it ends. -/
structure SurfacesAs (fault : Fault) (host : Host) (report : Report Unit) : Prop where
  /-- Outside shell mode a warning is issued and an error is raised, with the options it has. -/
  quiet : fault.options.shell.truthy = false →
    report = if fault.kind.isWarning then Report.warn fault else Report.stop (.fault fault)
  /-- In shell mode the fault is printed and nothing else is shown. -/
  shown : fault.options.shell.truthy = true →
    report.transcript = (fault.printing host).transcript
  /-- A fault that cannot be printed is refused for the reason that printing has. -/
  refused : fault.options.shell.truthy = true →
    ∀ reason, (fault.printing host).result = .error reason → report.result = .error reason
  /-- A printed warning, or error that is deferred, does not end the program. -/
  returns : fault.options.shell.truthy = true → (fault.printing host).result = .ok () →
    (fault.kind.isWarning || fault.options.deferred.truthy) = true → report.result = .ok ()
  /-- Only an error ends the program: when it was printed in shell mode and is not deferred. -/
  exits : ∀ status, report.result = .error (.exit status) ↔
    status = 1 ∧ fault.kind.isWarning = false ∧ fault.options.shell.truthy = true ∧
      fault.options.deferred.truthy = false ∧ (fault.printing host).result = .ok ()

/-- A fault that is surfaced outside shell mode. -/
theorem surfacesAs_of_not_shell (quiet : fault.options.shell.truthy = false) :
    fault.SurfacesAs host (fault.surface host) := by
  have silent : fault.options.shell.truthy ≠ true := by simp [quiet]
  refine ⟨fun _ => surface_of_not_shell quiet, fun loud => absurd loud silent,
    fun loud => absurd loud silent, fun loud => absurd loud silent, fun status => ?_⟩
  rw [surface_of_not_shell quiet]
  cases fault.kind.isWarning <;> simp [Report.warn, Report.stop, silent]

/-- A fault that is surfaced in shell mode. -/
theorem surfacesAs_of_loud (loud : fault.options.shell.truthy = true) :
    fault.SurfacesAs host (fault.surface host) := by
  have notQuiet : fault.options.shell.truthy ≠ false := by simp [loud]
  rcases Report.result_print_cases fault.options.stream (fault.page host) with
    printed | ⟨error, unprinted⟩
  · rw [← printing] at printed
    have answered : fault.surface host =
        ⟨(fault.printing host).transcript,
          if fault.kind.isWarning || fault.options.deferred.truthy then .ok ()
          else .error (.exit 1)⟩ := by
      rw [surface_of_loud loud, Report.andThen, printed]
      dsimp only
      split <;> simp [Report.done, Report.stop]
    rw [answered]
    refine ⟨fun quiet => absurd quiet notQuiet, fun _ => rfl, ?_, fun _ _ gentle => if_pos gentle,
      fun status => ?_⟩
    · intro _ reason unprinted
      rw [printed] at unprinted
      cases unprinted
    · cases fault.kind.isWarning <;> cases fault.options.deferred.truthy <;>
        simp [loud, printed, eq_comm]
  · rw [← printing] at unprinted
    have answered : fault.surface host =
        ⟨(fault.printing host).transcript, .error (.error error)⟩ := by
      rw [surface_of_loud loud, Report.andThen, unprinted]
    rw [answered]
    refine ⟨fun quiet => absurd quiet notQuiet, fun _ => rfl, ?_, ?_, fun status => ?_⟩
    · intro _ reason refused
      rw [← refused, unprinted]
    · intro _ printed
      rw [unprinted] at printed
      cases printed
    · simp [unprinted]

/-- A fault that is surfaced is reported so. -/
theorem surfacesAs_surface (fault : Fault) (host : Host) :
    fault.SurfacesAs host (fault.surface host) := by
  cases shell : fault.options.shell.truthy with
  | false => exact surfacesAs_of_not_shell shell
  | true => exact surfacesAs_of_loud shell

end Fault
end Handbook
