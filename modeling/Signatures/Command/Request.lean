import Signatures.Text.Cut

/-!
# What a command line asks for

The first argument is the command: `parse` or `normalize`.  Of the others, those before the first
`--` that begin with a hyphen are options, except a lone hyphen; all the rest are signature texts.
The only option is `--json`, which `parse` takes at most once and `normalize` not at all.

Requests for help are left out: `help` is no command here, and `--help`, `-h` and what begins with
`-h` are options that are not known.

* `splitArgs` — the options and the texts among some arguments.
* `Request.ofArgs?` — the request, if the arguments keep to these rules.
-/

namespace Signatures

/-- In which form signatures are printed. -/
inductive Form where
  /-- Field by field. -/
  | report
  /-- One JSON document. -/
  | document
  /-- Canonical texts, one to a line. -/
  | canonical
  deriving DecidableEq, Repr

/-- What a command line asks for.  Without texts, the signatures are on standard input. -/
structure Request where
  form : Form
  texts : List String
  deriving DecidableEq, Repr

/-- Whether an argument before `--` is an option rather than a text. -/
def isOption (arg : String) : Bool := arg.toList.head? == some '-' && arg != "-"

/-- The options among some arguments and the texts among them, both in order. -/
def splitArgs (args : List String) : List String × List String :=
  let (before, after) := (cutAt? "--" args).getD (args, [])
  (before.filter isOption, before.filter (fun arg => !isOption arg) ++ after)

namespace Request

/-- The form that the options of `parse` choose. -/
def parseForm? : List String → Option Form
  | [] => some .report
  | ["--json"] => some .document
  | _ => none

/-- The form that the options of `normalize` choose. -/
def normalizeForm? : List String → Option Form
  | [] => some .canonical
  | _ => none

/-- The request that a command line makes. -/
def ofArgs? : List String → Option Request
  | [] => none
  | command :: args =>
    let (options, texts) := splitArgs args
    if command = "parse" then (parseForm? options).map (⟨·, texts⟩)
    else if command = "normalize" then (normalizeForm? options).map (⟨·, texts⟩)
    else none

example : ofArgs? ["parse", "a b()", "--json", "--", "--json"] =
    some ⟨.document, ["a b()", "--json"]⟩ := by decide

example : ofArgs? ["normalize", "--json"] = none ∧ ofArgs? ["--", "parse"] = none := by decide

end Request

end Signatures
