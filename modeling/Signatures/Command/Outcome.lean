import Signatures.Command.Request
import Signatures.Line.Reader
import Signatures.Signature.Printer

/-!
# What a command does

A command reads all its signatures before it prints any.  So a fault leaves nothing on standard
output, and its message is the only line on standard error.  Arguments that make no request end the
command before it reads anything; how it words its complaint about them is left open.

* `Request.signatures` — the signatures of a request: its texts or, without any, the input stream.
* `Form.print` — signatures in the form asked for.
* `runArgs` — the outcome of a command line on an input stream.
* `Outcome.status`, `Outcome.stdout`, `Outcome.stderr` — what the outside sees of an outcome.
-/

namespace Signatures

/-- The signatures that a request is about. -/
def Request.signatures (request : Request) (stream : List UInt8) :
    Except Fault (List Signature) :=
  if request.texts = [] then readStream stream else Signature.parseAll request.texts

/-- Signatures as they are printed. -/
def Form.print : Form → List Signature → List Char
  | report, sigs => Signature.report sigs
  | document, sigs => (Signature.document sigs).write .indented 0 ++ ['\n']
  | canonical, sigs => unlines (sigs.map Signature.chars)

/-- How a command ends. -/
inductive Outcome where
  /-- The arguments make no request. -/
  | misused
  /-- A signature could not be read. -/
  | faulty (fault : Fault)
  /-- All is printed. -/
  | printed (text : String)
  deriving DecidableEq, Repr

namespace Outcome

/-- The exit status. -/
def status : Outcome → Nat
  | printed _ => 0
  | faulty _ => 1
  | misused => 2

/-- What is on standard output. -/
def stdout : Outcome → String
  | printed text => text
  | _ => ""

/-- What is on standard error, where the wording is fixed. -/
def stderr : Outcome → Option String
  | printed _ => some ""
  | faulty fault => some ("error: " ++ fault.message ++ "\n")
  | misused => none

end Outcome

/-- The outcome of a request. -/
def Request.run (request : Request) (stream : List UInt8) : Outcome :=
  match request.signatures stream with
  | .error fault => .faulty fault
  | .ok sigs => .printed (String.ofList (request.form.print sigs))

/-- The outcome of a command line. -/
def runArgs (args : List String) (stream : List UInt8) : Outcome :=
  match Request.ofArgs? args with
  | none => .misused
  | some request => request.run stream

theorem runArgs_of_ofArgs? {args : List String} {request : Request}
    (h : Request.ofArgs? args = some request) (stream : List UInt8) :
    runArgs args stream = request.run stream := by
  rw [runArgs, h]

/-- A request with texts leaves its input stream unread. -/
theorem Request.run_of_texts {request : Request} (h : request.texts ≠ [])
    (stream : List UInt8) : request.run stream = request.run [] := by
  simp [run, signatures, h]

end Signatures
