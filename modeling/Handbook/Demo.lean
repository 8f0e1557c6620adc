import Handbook.Command.Dispatch
import Handbook.Sheet.Outline

/-!
# A demonstration tool

A small tool of two commands beside `help`. It shows the outline of one help
sheet and then carries out its command line.
-/

namespace Handbook.Demo

/-- The host of the tool. -/
def host : Host :=
  { prog := some (.str "bx") }

/-- The seed that is always generated. -/
def seedText : Text :=
  (List.replicate 3 "0123456789abcdef".toList).flatten ++ ['\n']

/-- The command that generates a seed. -/
def seed : Command :=
  { label := "Seed"
    symbol := .str "seed"
    category := .str "WALLET"
    description := .str "Generate a pseudorandom seed."
    formerly := .str "newseed"
    options := fun _ =>
      [.declared
        { names := .str "bit_length,b"
          description := .str "The length of the seed in bits."
          default := .int 192 },
        .declared
          { names := .str "entropy"
            description := .str "Additional entropy mixed into the seed."
            cardinality := .known .multiple }]
    body := .action fun _ => do
      Report.write .output seedText
      return .okay }

/-- The command that shows the values to hash, one a line. -/
def hash : Command :=
  { label := "Hash"
    symbol := .str "hash"
    category := .str "MATH"
    description := .str "Hash the given values."
    slots := fun _ => [(.str "VALUE", .int unboundedCount)]
    options := fun _ =>
      [.declared
        { names := .str "algorithm,a"
          description := .str "The hash algorithm."
          default := .str "sha256" },
        .declared
          { names := .str "VALUE"
            description := .str "The values to hash."
            cardinality := .known .multiple
            required := .bool true }]
    body := .action fun call =>
      if call.tokens.isEmpty then do
        displayInvalidParameter call.host { colorful := .bool true }
          (.str "at least one VALUE is required")
        return .failure
      else do
        let lines ← Report.ofExcept (Value.joined ['\n'] call.tokens)
        Report.write .output (lines ++ ['\n'])
        return .okay }

/-- The commands of the tool. -/
def registry : Except Error Registry := do
  let withSeed ← Registry.withHelp.register (.item seed)
  withSeed.register (.item hash)

/-- Show the outline of the sheet of `hash`, then carry out a command line. -/
def run (arguments : List Value) : Report Verdict := do
  let commands ← Report.ofExcept registry
  let sheet ← hash.sheet ⟨host, "hash", [], { application := host.name }⟩
  Report.write .output sheet.outline.text
  commands.dispatch host { colorful := .bool true } (.list arguments)

end Handbook.Demo
