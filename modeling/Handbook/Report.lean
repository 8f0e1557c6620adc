import Handbook.Fault.Drawing

/-!
# Reports

A request is a pure value: a report of what it wrote to either channel, which
warnings it issued, what it told the journal, and how it ended. A request that
is stopped keeps what it had written before.
-/

namespace Handbook

/-- What a request has shown so far. -/
@[ext] structure Transcript where
  out : Text := []
  err : Text := []
  warnings : List Fault := []
  journal : List Text := []

namespace Transcript

/-- One transcript after another. -/
def append (first second : Transcript) : Transcript :=
  { out := first.out ++ second.out
    err := first.err ++ second.err
    warnings := first.warnings ++ second.warnings
    journal := first.journal ++ second.journal }

instance : Append Transcript := ⟨append⟩

@[simp] theorem out_append (first second : Transcript) :
    (first ++ second).out = first.out ++ second.out := rfl

@[simp] theorem err_append (first second : Transcript) :
    (first ++ second).err = first.err ++ second.err := rfl

@[simp] theorem warnings_append (first second : Transcript) :
    (first ++ second).warnings = first.warnings ++ second.warnings := rfl

@[simp] theorem journal_append (first second : Transcript) :
    (first ++ second).journal = first.journal ++ second.journal := rfl

@[simp] theorem append_empty (transcript : Transcript) :
    transcript ++ ({} : Transcript) = transcript := by
  ext1 <;> simp

@[simp] theorem empty_append (transcript : Transcript) :
    ({} : Transcript) ++ transcript = transcript := by
  ext1 <;> simp

end Transcript

/-- Why a request ended before its time. -/
inductive Stop
  | error (error : Error)
  | fault (fault : Fault)
  | exit (status : Int)

/-- What a request showed and how it ended. -/
structure Report (Result : Type) where
  transcript : Transcript
  result : Except Stop Result

namespace Report

variable {Result Next : Type}

/-- The report of a request that shows nothing. -/
def done (result : Result) : Report Result :=
  ⟨{}, .ok result⟩

/-- The report of a request that is stopped at once. -/
def stop (reason : Stop) : Report Result :=
  ⟨{}, .error reason⟩

/-- The report of a request refused for an error. -/
def refuse (error : Error) : Report Result :=
  stop (.error error)

/-- The report of a check. -/
def ofExcept : Except Error Result → Report Result
  | .ok result => done result
  | .error error => refuse error

/-- One request and then another, which may use the first one's result. -/
def andThen (report : Report Result) (next : Result → Report Next) : Report Next :=
  match report.result with
  | .ok result =>
      let following := next result
      ⟨report.transcript ++ following.transcript, following.result⟩
  | .error reason => ⟨report.transcript, .error reason⟩

instance : Monad Report where
  pure := done
  bind := andThen

@[simp] theorem pure_eq (result : Result) : (pure result : Report Result) = done result := rfl

@[simp] theorem bind_eq (report : Report Result) (next : Result → Report Next) :
    (report >>= next) = report.andThen next := rfl

@[simp] theorem done_andThen (result : Result) (next : Result → Report Next) :
    (done result).andThen next = next result := by
  simp [done, andThen]

@[simp] theorem stop_andThen (reason : Stop) (next : Result → Report Next) :
    (stop reason : Report Result).andThen next = stop reason := rfl

@[simp] theorem andThen_done (report : Report Result) :
    report.andThen done = report := by
  cases report with
  | mk transcript result => cases result <;> simp [andThen, done]

/-- Write to a channel. -/
def write (channel : Channel) (text : Text) : Report Unit :=
  match channel with
  | .output => ⟨{ out := text }, .ok ()⟩
  | .error => ⟨{ err := text }, .ok ()⟩

/-- Print a page to a channel, as far as it could be laid out. -/
def printTo (channel : Channel) (page : Aftermath Text) : Report Unit :=
  (write channel page.state).andThen fun _ =>
    match page.failure with
    | some error => refuse error
    | none => done ()

/-- Print a page to an outlet. One that cannot be written to is noticed whatever the page is. -/
def print (outlet : Outlet) (page : Aftermath Text) : Report Unit :=
  match outlet with
  | .channel channel => printTo channel page
  | .value value =>
      if value.truthy then refuse (.noAttribute value.kind "write")
      else printTo .error page

/-- Issue a warning. -/
def warn (fault : Fault) : Report Unit :=
  ⟨{ warnings := [fault] }, .ok ()⟩

/-- Tell the journal. -/
def note (message : Text) : Report Unit :=
  ⟨{ journal := [message] }, .ok ()⟩

/-- Do the same for each of several items, in order. -/
def forEach {Item : Type} (action : Item → Report Unit) : List Item → Report Unit
  | [] => done ()
  | item :: rest => (action item).andThen fun _ => forEach action rest

end Report

namespace Fault

/-- Surface a fault. In shell mode it is printed, on the error channel unless a stream is set,
and an error that is not deferred then ends the program. Otherwise an error is raised and a
warning is issued. -/
def surface (fault : Fault) (host : Host) : Report Unit :=
  if !fault.options.shell.truthy then
    if fault.kind.isWarning then Report.warn fault else Report.stop (.fault fault)
  else do
    let lines := (fault.drawing host).bind Drawing.lines
    Report.print fault.options.stream (Layout.printed lines)
    if fault.kind.isWarning || fault.options.deferred.truthy then
      Report.done ()
    else
      Report.stop (.exit 1)

end Fault

/-- Apply settings to a fault and surface it; what is no fault is refused. -/
def trigger (host : Host) (offered : Offered Fault) (overrides : Overrides) : Report Unit :=
  match offered with
  | .foreign => Report.refuse .notTriggerable
  | .item fault => do
      let replaced ← Report.ofExcept (fault.replace [] overrides)
      replaced.surface host

end Handbook
