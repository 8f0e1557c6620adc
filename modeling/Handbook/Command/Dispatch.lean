import Handbook.Command.Display

/-!
# Dispatch

A command line is routed by its first token: to the help of a registered
command when a help switch follows, else to its body; a former symbol is
answered with the present one, and any other symbol with the closest registered
one. No token at all shows how the tool is used.
-/

namespace Handbook

/-- Whether a token asks for the help of the command before it. -/
def isHelpSwitch (token : Value) : Bool :=
  token.equals (.str "--help") || token.equals (.str "-h")

namespace Registry

/-- What the help command does: list the commands, or write the help of the one named. -/
def runHelp (registry : Registry) (call : Call) : Report Verdict :=
  match call.tokens with
  | [] => do
      registry.displayUsage call.host call.settings
      return .okay
  | [symbol] => do
      match ← Report.ofExcept (registry.find call.host call.settings symbol (.list [])) with
      | none =>
          registry.displayInvalidCommand call.host call.settings symbol
          return .invalid
      | some invocation =>
          invocation.command.writeHelp invocation.call
          return .okay
  | _ :: unexpected :: _ => do
      displayInvalidParameter call.host call.settings
        (.str ("unexpected token " ++ unexpected.written))
      return .failure

/-- Run the body of a command. -/
def invoke (registry : Registry) (invocation : Invocation) : Report Verdict :=
  match invocation.command.body with
  | .missing => Report.refuse (.bodyMissing invocation.command.label)
  | .help => registry.runHelp invocation.call
  | .action run => run invocation.call

/-- Answer a symbol that is not registered. -/
def rejectSymbol
    (registry : Registry)
    (host : Host)
    (settings : Settings)
    (symbol : Value) : Report Verdict := do
  match registry.formerly symbol with
  | some current =>
      Report.note (symbol.written ++ " was renamed to " ++ Text.quoted current)
      displayDeprecatedCommand host settings symbol (.str current)
  | none =>
      Report.note (symbol.written ++ " is not a registered command")
      registry.displayInvalidCommand host settings symbol
  return .invalid

/-- Route a command line that has been split into tokens. -/
def route
    (registry : Registry)
    (host : Host)
    (settings : Settings) : List Value → Report Verdict
  | [] => do
      Report.note "no command given"
      registry.displayUsage host settings
      return .invalid
  | symbol :: tokens => do
      match ← Report.ofExcept (registry.find host settings symbol (.list tokens)) with
      | none => registry.rejectSymbol host settings symbol
      | some invocation =>
          if tokens.any isHelpSwitch then
            Report.note ("writing help of " ++ symbol.written)
            invocation.command.writeHelp invocation.call
            return .okay
          else
            Report.note ("invoking " ++ symbol.written ++ " with " ++
              Text.ofNat tokens.length ++ " tokens")
            registry.invoke invocation

/-- Route a command line, whatever value holds its tokens. -/
def dispatch
    (registry : Registry)
    (host : Host)
    (given : Settings)
    (arguments : Value) : Report Verdict := do
  let tokens ← Report.ofExcept (tokensOf arguments)
  registry.route host (given.resolve host) tokens

end Registry
end Handbook
