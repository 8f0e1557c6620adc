import Handbook.Journal
import Mathlib.Data.List.Induction

/-!
# Configuring the journal

A journal can be configured any number of times, and any call may be refused for
its level after the console was replaced. Whatever became of the calls, one
console is left, on the stream of the last call; all other handlers stay; and the
level is that of the last call that was not refused. Each record that reaches the
level is then written once by the console, to that stream, between what the handlers
of the host in the journal and those around it write of it. A journal whose level is
the one that means none keeps what reaches the level around it, and no journal keeps
a record that the host has silenced.
-/

namespace Handbook

/-- A call that configures the journal. -/
structure Configuration where
  host : Host
  given : Value
  stream : Stream

namespace Surroundings

end Surroundings

namespace Journal

variable {journal : Journal}

/-- What a call leaves of the journal. -/
def perform (journal : Journal) (call : Configuration) : Aftermath Journal :=
  journal.configure call.host call.given call.stream

/-- The handlers of a journal that are no consoles. -/
def others (journal : Journal) : List Handler :=
  journal.handlers.filter fun handler => !handler.isConsole

end Journal
end Handbook
