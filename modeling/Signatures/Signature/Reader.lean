import Signatures.Signature.Basic
import Signatures.Text.Cut
import Signatures.Text.Quoted
import Signatures.Text.Words

/-!
# Reading a signature

A text is cut at its first parenthesis.  The words before it are the declaration: two or three.
What is after it, less trailing blanks, must end with a closing parenthesis; what that leaves is the
body, which is blank or holds one parameter of two words between any two commas.

Words are taken as written.  A closing parenthesis may stand inside a word, on either side of the
opening one, and so may a second opening one inside a parameter.

A text that is no signature has a *defect*, the first rule of the shape that it breaks.  A *fault*
is what a caller is told: the defect together with the text it was found in, or that a line of bytes
is no text at all.  Wording is in `Defect.reason` and `Fault.message` alone.

* `Declaration.ofWords?`, `Param.read?` — the two kinds of word groups.
* `Param.body?_eq_some_iff` — what the body of a parameter list is.
* `Signature.read` — the whole text; of several defects the one that `Defect` lists first is
  reported.
* `Signature.parse` — the same, with the text in the report.
-/

namespace Signatures

/-! ## Faults -/

/-- The rules of the shape `[modifier ]returnType name(type name, ...)`, in the order in which they
are asked. -/
inductive Defect where
  /-- No parenthesis opens a parameter list. -/
  | noOpening
  /-- Other than two or three words stand before the parameter list. -/
  | declarationWords
  /-- The last character that is not blank closes no parameter list. -/
  | noClosing
  /-- A parameter is other than two words. -/
  | argumentShape
  deriving DecidableEq, Repr

/-- The rule that is broken, in words. -/
def Defect.reason : Defect → String
  | noOpening => "missing '('"
  | declarationWords => "expected 2 or 3 declaration tokens"
  | noClosing => "missing ')'"
  | argumentShape => "argument must be 'type name'"

/-- Why an input yields no signatures. -/
inductive Fault where
  /-- The text, as it was given, has a defect. -/
  | malformed (text : String) (defect : Defect)
  /-- A line of the stream is not valid UTF-8. -/
  | undecodable
  deriving DecidableEq, Repr

/-- A fault in one line of text, with the offending text quoted. -/
def Fault.message : Fault → String
  | malformed text defect =>
    "malformed signature " ++ String.ofList (Quoted.encode text.toList) ++ ": " ++ defect.reason
  | undecodable => "io: stream did not contain valid UTF-8"

/-! ## Reading -/

/-- What stands before a parameter list. -/
structure Declaration where
  modifier : Option String
  returnType : String
  name : String
  deriving DecidableEq, Repr

namespace Declaration

/-- Three words are a modifier, a type and a name, two lack the modifier. -/
def ofWords? : List (List Char) → Option Declaration
  | [modifier, type, name] =>
    some ⟨some (String.ofList modifier), String.ofList type, String.ofList name⟩
  | [type, name] => some ⟨none, String.ofList type, String.ofList name⟩
  | _ => none

/-- Reads the text before a parameter list. -/
def read? (cs : List Char) : Option Declaration := ofWords? (words cs)

/-- The signature that has this declaration and these parameters. -/
def signature (d : Declaration) (params : List Param) : Signature :=
  { modifier := d.modifier, returnType := d.returnType, name := d.name, params }

end Declaration

namespace Param

/-- Two words are a type and a name. -/
def ofWords? : List (List Char) → Option Param
  | [type, name] => some ⟨String.ofList type, String.ofList name⟩
  | _ => none

/-- Reads one parameter. -/
def read? (cs : List Char) : Option Param := ofWords? (words cs)

/-- Reads the body of a parameter list.  A blank body has no parameters; in any other, every piece
between two commas is one. -/
def readAll? (body : List Char) : Option (List Param) :=
  if allBlank body then some [] else (body.splitOn ',').mapM read?

/-- The text before the parenthesis that closes a parameter list.  Only blanks may follow it. -/
def body? (cs : List Char) : Option (List Char) :=
  match cs.reverse.dropWhile isBlank with
  | ')' :: rest => some rest.reverse
  | _ => none

theorem body?_append {cs blanks : List Char} (h : allBlank blanks = true) :
    body? (cs ++ ')' :: blanks) = some cs := by
  have hpos : ∀ c ∈ blanks.reverse, isBlank c = true := by
    intro c hc
    exact allBlank_iff.1 h c (List.mem_reverse.1 hc)
  have hclose : isBlank ')' = false := by decide
  simp [body?, List.dropWhile_append_of_pos hpos, hclose]

/-- The body is what a last closing parenthesis with only blanks after it leaves. -/
theorem body?_eq_some_iff {cs body : List Char} :
    body? cs = some body ↔ ∃ blanks, allBlank blanks = true ∧ cs = body ++ ')' :: blanks := by
  constructor
  · intro h
    refine ⟨(cs.reverse.takeWhile isBlank).reverse, ?_, ?_⟩
    · simp [allBlank]
    · unfold body? at h
      split at h
      · next rest hr =>
        have hsplit := @List.takeWhile_append_dropWhile _ isBlank cs.reverse
        rw [hr] at hsplit
        have hcs := congrArg List.reverse hsplit
        simp only [List.reverse_append, List.reverse_cons, List.reverse_reverse,
          List.append_assoc, List.cons_append, List.nil_append] at hcs
        simp only [Option.some.injEq] at h
        rw [← h, hcs]
      · simp at h
  · rintro ⟨blanks, hblanks, rfl⟩
    exact body?_append hblanks

end Param

namespace Signature

/-- The signature that a text stands for, or the first rule that the text breaks. -/
def read (cs : List Char) : Except Defect Signature :=
  match cutAt? '(' cs with
  | none => .error .noOpening
  | some (before, after) =>
    match Declaration.read? before with
    | none => .error .declarationWords
    | some declaration =>
      match Param.body? after with
      | none => .error .noClosing
      | some body =>
        match Param.readAll? body with
        | none => .error .argumentShape
        | some params => .ok (declaration.signature params)

/-- Reads a text and, when it has a defect, reports the text along with it. -/
def parse (text : String) : Except Fault Signature :=
  (read text.toList).mapError (.malformed text)

/-- The signatures that some texts stand for, or the first fault among them. -/
def parseAll (texts : List String) : Except Fault (List Signature) := texts.mapM parse

end Signature

end Signatures
