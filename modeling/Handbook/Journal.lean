import Handbook.Layout.Entry
import Handbook.Layout.Highlight
import Handbook.Report
import Handbook.Value.Equality

/-!
# The journal

What the library does is told to a journal. A record has a level; the journal
keeps the records that reach its own level and hands each to its handlers, and
then to those of the host's own journal around it. A host opts in by configuring
the journal, which installs one console, a handler that writes records to a
stream. The console is replaced first and the level is checked afterwards, so a
refused configuration has moved the console already.
-/

namespace Handbook

/-- Where a console writes: the error channel, or a stream that the host brought in. -/
inductive Stream
  | errorChannel
  | host (number : Nat)
  deriving DecidableEq, Repr

/-- What a record is handed to: nothing, a console, or a handler that the host brought in. -/
inductive Handler
  | silent
  | console (stream : Stream)
  | host (number : Nat)
  deriving DecidableEq, Repr

namespace Handler

/-- Whether a handler is a console. -/
def isConsole : Handler → Bool
  | console _ => true
  | _ => false

@[simp] theorem isConsole_console (stream : Stream) : (console stream).isConsole = true := rfl

end Handler

namespace Level

/-- The level of a journal that nobody has set. -/
def unset : Int := 0

/-- The level that a configuration sets unless it is given another one. -/
def warning : Int := 30

/-- The level of what the library tells. -/
def debug : Int := 10

/-- The level of a name; some levels have two. -/
def ofName? (name : Text) : Option Int :=
  ([("CRITICAL", 50), ("FATAL", 50), ("ERROR", 40), ("WARN", 30), ("WARNING", 30),
      ("INFO", 20), ("DEBUG", 10), ("NOTSET", 0)].find? fun (entry : String × Int) =>
    entry.1.toList == name).map (·.2)

/-- The name of a level; one that has none is called by its number. -/
def name (level : Value) : Text :=
  match level.asInt? with
  | some 50 => "CRITICAL"
  | some 40 => "ERROR"
  | some 30 => "WARNING"
  | some 20 => "INFO"
  | some 10 => "DEBUG"
  | some 0 => "NOTSET"
  | _ => "Level " ++ level.written

/-- The level that a value stands for: a number, or the level of a name. -/
def check : Value → Except Error Value
  | .bool flag => .ok (.bool flag)
  | .int number => .ok (.int number)
  | .str name =>
      match ofName? name with
      | some number => .ok (.int number)
      | none => .error (.unknownLevel name)
  | other => .error (.notLevel other)

end Level

/-- One entry of the journal. Its level is a number or a truth value. -/
structure Record where
  level : Value
  message : Text

namespace Record

/-- The narrowest column of level names. -/
def nameWidth : Nat := 8

/-- The text of a record on a console, the name of the level beside the message. What cannot be
laid out is not written. -/
def text (record : Record) : Text :=
  let name := Text.padRight nameWidth (Level.name record.level)
  (Layout.printed (Layout.entry name (Layout.highlighted record.message))).state

end Record

/-- What a host has around the journal: the level that counts while the journal has none, the level
up to which no journal keeps a record, the handlers that every kept record is handed on to, and what
each handler that it brought in writes of a record. -/
structure Surroundings where
  level : Int := Level.warning
  silenced : Int := Level.unset
  handlers : List Handler := []
  written : Nat → Record → List (Stream × Text) := fun _ _ => []

namespace Surroundings

/-- What a handler writes of a record, and where. -/
def writing (surroundings : Surroundings) (record : Record) : Handler → List (Stream × Text)
  | .silent => []
  | .console stream => [(stream, record.text)]
  | .host number => surroundings.written number record

/-- What handlers write of a list of records, record by record and handler by handler. -/
def writings
    (surroundings : Surroundings)
    (handlers : List Handler)
    (records : List Record) : List (Stream × Text) :=
  records.flatMap fun record => handlers.flatMap (surroundings.writing record)

end Surroundings

/-- The level of a journal, as it was set, its handlers in order, and what is around it. -/
structure Journal where
  level : Value := .int Level.unset
  handlers : List Handler := [.silent]
  surroundings : Surroundings := {}

namespace Journal

/-- The level that a record must reach; while none is set, that of the surroundings. -/
def threshold (journal : Journal) : Int :=
  match journal.level.asInt? with
  | some number => if number = Level.unset then journal.surroundings.level else number
  | none => journal.surroundings.level

/-- Whether records of a level are kept. -/
def keeps (journal : Journal) (level : Int) : Bool :=
  journal.surroundings.silenced < level && journal.threshold ≤ level

/-- The consoles of a journal. -/
def consoles (journal : Journal) : List Handler :=
  journal.handlers.filter Handler.isConsole

/-- The journal with a new console in the place of any other. -/
def withConsole (journal : Journal) (stream : Stream) : Journal :=
  { journal with
    handlers :=
      journal.handlers.filter (fun handler => !handler.isConsole) ++ [.console stream] }

/-- The level that a configuration asks for: the one given, or the host's, or that of a
warning. -/
def askedLevel (host : Host) (given : Value) : Value :=
  given.orElse (host.verbosity.getD (.int Level.warning))

/-- Install a console on a stream and set the level. A level that is none is refused, and the
one set before stays. -/
def configure
    (journal : Journal)
    (host : Host)
    (given : Value)
    (stream : Stream) : Aftermath Journal :=
  let moved := journal.withConsole stream
  match Level.check (askedLevel host given) with
  | .ok level => ⟨{ moved with level }, none⟩
  | .error error => ⟨moved, some error⟩

/-- The records that are kept of a message told at a level. A level that is no number is
reached by no record. -/
def tell (journal : Journal) (level message : Value) : List Record :=
  match level.asInt? with
  | none => []
  | some number => if journal.keeps number then [⟨level, message.displayed⟩] else []

/-- The records that are kept of what a request told. -/
def keep (journal : Journal) (messages : List Text) : List Record :=
  if journal.keeps Level.debug then messages.map fun message => ⟨.int Level.debug, message⟩
  else []

/-- What is written of a list of records, by the handlers of the journal and then by those around
it. -/
def writings (journal : Journal) (records : List Record) : List (Stream × Text) :=
  journal.surroundings.writings (journal.handlers ++ journal.surroundings.handlers) records

/-- What is written to one stream of a list of records. -/
def writtenTo (journal : Journal) (stream : Stream) (records : List Record) : Text :=
  (journal.writings records).flatMap fun writing =>
    if writing.1 = stream then writing.2 else []

end Journal
end Handbook
