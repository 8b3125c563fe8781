import Signatures.Json.Printer
import Signatures.Signature.Basic

/-!
# Writing signatures

A signature is written in three ways.

**Canonical texts.**  One space between words, a comma and a space between parameters, and no other
blank.  Fields are written as they are, so that the text of a signature made by hand need not be
readable again.

**Reports.**  The fields, one to a line, and the parameters below their count.  An absent modifier
is shown by a hyphen.  Reports of several signatures have an empty line between any two.

**Documents.**  The keys of a signature and of a parameter, each once and in a fixed order.  A
signature without a modifier says so by `null`, so that the document tells it from one with an empty
modifier.

* `Param.text`, `Signature.text` — the canonical texts.
* `Signature.report`, `Signature.document` — some signatures in order.
-/

namespace Signatures

/-! ## Canonical texts -/

/-- A parameter as its type, a space and its name. -/
def Param.chars (p : Param) : List Char := p.type.toList ++ ' ' :: p.name.toList

/-- The canonical text of a parameter. -/
def Param.text (p : Param) : String := String.ofList p.chars

namespace Signature

/-- What stands before the parameters: the fields with a space after each but the last. -/
def declarationChars (sig : Signature) : List Char :=
  (match sig.modifier with
    | some modifier => modifier.toList ++ [' ']
    | none => []) ++
  sig.returnType.toList ++ ' ' :: sig.name.toList

/-- What stands between the parentheses. -/
def paramsChars (sig : Signature) : List Char :=
  [',', ' '].intercalate (sig.params.map Param.chars)

/-- The characters of the canonical text. -/
def chars (sig : Signature) : List Char :=
  sig.declarationChars ++ '(' :: sig.paramsChars ++ [')']

/-- The canonical text of a signature. -/
def text (sig : Signature) : String := String.ofList sig.chars

@[simp] theorem toList_text (sig : Signature) : sig.text.toList = sig.chars := by simp [text]

end Signature

/-! ## Reports -/

/-- Lines, each ended by a line feed. -/
def unlines (lines : List (List Char)) : List Char := lines.flatMap (· ++ ['\n'])

@[simp] theorem unlines_nil : unlines [] = [] := rfl

@[simp] theorem unlines_cons (line : List Char) (lines : List (List Char)) :
    unlines (line :: lines) = line ++ '\n' :: unlines lines := by
  simp [unlines]

/-- The lines of a report on one signature. -/
def Signature.reportLines (sig : Signature) : List (List Char) :=
  [ "access_modifier: ".toList ++ (sig.modifier.getD "-").toList,
    "return_type: ".toList ++ sig.returnType.toList,
    "method_name: ".toList ++ sig.name.toList,
    "arguments: ".toList ++ Nat.toDigits 10 sig.params.length ] ++
  sig.params.map fun p => "  - ".toList ++ p.type.toList ++ ' ' :: p.name.toList

/-- The reports on some signatures. -/
def Signature.report (sigs : List Signature) : List Char :=
  ['\n'].intercalate (sigs.map fun sig => unlines sig.reportLines)

/-! ## Documents -/

/-- A parameter as an object of two strings. -/
def Param.json (p : Param) : Json := .object [("type", .string p.type), ("name", .string p.name)]

namespace Signature

/-- A signature as an object. -/
def json (sig : Signature) : Json :=
  .object [
    ("access_modifier", match sig.modifier with
      | some modifier => .string modifier
      | none => .null),
    ("return_type", .string sig.returnType),
    ("method_name", .string sig.name),
    ("arguments", .array (sig.params.map Param.json))]

/-- Signatures in order, as one document. -/
def document (sigs : List Signature) : Json := .object [("signatures", .array (sigs.map json))]

end Signature

end Signatures
