import Signatures.Command.Outcome

/-!
# The command

Standard input is read to its end, and only when a request has no texts of its own.
-/

namespace Signatures

/-- The bytes of standard input, if a request needs them. -/
def inputFor (request : Option Request) : IO (List UInt8) := do
  match request with
  | some ⟨_, []⟩ =>
    let bytes ← (← IO.getStdin).readBinToEnd
    return bytes.toList
  | _ => return []

/-- A reminder of the command lines that make a request, for one that makes none. -/
def usage : String :=
  "usage: methodsig parse [--json] [SIGNATURE]...\n       methodsig normalize [SIGNATURE]...\n"

/-- Runs a command line and shows its outcome. -/
def runCommand (args : List String) : IO UInt32 := do
  let stream ← inputFor (Request.ofArgs? args)
  let outcome := runArgs args stream
  IO.print outcome.stdout
  IO.eprint (outcome.stderr.getD usage)
  return outcome.status.toUInt32

end Signatures

/-- The program. -/
def main (args : List String) : IO UInt32 := Signatures.runCommand args
