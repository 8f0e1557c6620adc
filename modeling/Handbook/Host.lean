import Handbook.Value.Written

/-!
# Hosts

The application that embeds the library may give its own name, labels for fault
codes, styles, and the level of its journal. What it leaves out has a default.
-/

namespace Handbook

/-- What the embedding application provides. -/
structure Host where
  prog : Option Value := none
  codes : List (Nat × Value) := []
  styles : Value := .dict []
  verbosity : Option Value := none

namespace Host

/-- The name of the application. -/
def name (host : Host) : Value :=
  host.prog.getD (.str "synopsis")

/-- The name under which a request runs: the one given with it, or the host's. -/
def applicationName (host : Host) (given : Value) : Value :=
  given.orElse host.name

end Host
end Handbook
