import NegativeCompile.CommandLine
import NegativeCompile.Recording

/-! # The program

Calls the command line with the words that the program is given, on the recorded machine that is
read from the input, and prints what it printed. -/

open NegativeCompile

/-- Calls the command line on the recorded machine that one line of the input describes. -/
def main (words : List String) : IO UInt32 := do
  let line ← (← IO.getStdin).getLine
  let document := (Json.read line).getD (.object [])
  let (outcome, world) := (CommandLine.execute words).perform (Recording.machineOf document)
    (Recording.worldOf document false)
  IO.print world.console.output
  IO.eprint world.console.errors
  match outcome with
  | .ok code => return UInt32.ofNat code.toNat
  | .error failure =>
    IO.eprintln failure.message
    return 1
