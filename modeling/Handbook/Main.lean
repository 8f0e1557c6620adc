import Handbook.Demo

/-!
# The command line

The demonstration tool as a program: its report is printed, and its verdict is
the status with which the program ends.
-/

open Handbook

/-- The status of a program that ends as a report says. -/
def exitStatus (result : Except Stop Verdict) : UInt32 :=
  match result with
  | .ok verdict => UInt32.ofInt (verdict.status % 256)
  | .error (.exit status) => UInt32.ofInt (status % 256)
  | .error _ => 1

/-- The last line of a program that is stopped by an error or a fault. -/
def complaint (result : Except Stop Verdict) : String :=
  match result with
  | .error (.error error) => String.ofList (error.message ++ ['\n'])
  | .error (.fault fault) => String.ofList (fault.text ++ ['\n'])
  | _ => ""

/-- Carry out a command line. -/
def main (arguments : List String) : IO UInt32 := do
  let report := Demo.run (arguments.map fun argument => .str argument.toList)
  IO.print (String.ofList report.transcript.out)
  IO.eprint (String.ofList report.transcript.err ++ complaint report.result)
  return exitStatus report.result
