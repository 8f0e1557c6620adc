import Handbook.Command.Display
import Handbook.Value.Exchanged

/-!
# Stock bodies

Ready-made bodies for commands that are declared before they are written: they
show what a call hands over, or how a fault looks, and end with a verdict of
one's choice.
-/

namespace Handbook.Stock

/-- Write the symbol and the tokens on one line of the output. -/
def echo (verdict : Verdict) : Body :=
  .action fun call => do
    let line ← Report.ofExcept (Value.joined [' '] (.str call.symbol :: call.tokens))
    Report.write .output (line ++ ['\n'])
    return verdict

/-- Write the call in the form for data exchange on one line of the output. -/
def state (verdict : Verdict) : Body :=
  .action fun call => do
    let shown := Value.list
      [.list call.tokens, call.settings.application, call.settings.shell,
        call.settings.colorful]
    let line ← Report.ofExcept shown.exchanged
    Report.write .output (line ++ ['\n'])
    return verdict

/-- Write a line that names the symbol to the error channel. -/
def complain (verdict : Verdict) : Body :=
  .action fun call => do
    Report.write .error ("error: " ++ call.symbol ++ ['\n'])
    return verdict

/-- Report the tokens as invalid parameters. -/
def fault (verdict : Verdict) : Body :=
  .action fun call => do
    let tokens ← Report.ofExcept (Value.joined [' '] call.tokens)
    displayInvalidParameter call.host call.settings (.str ("bad " ++ tokens))
    return verdict

/-- Refuse every call. -/
def unwritten : Body :=
  .action fun _ => Report.refuse .bodyNotImplemented

end Handbook.Stock
