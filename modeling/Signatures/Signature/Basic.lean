/-!
# Method signatures

A signature is what the first line of a method declaration says: an optional modifier, a return
type, a name and the parameters in order.  Any text may stand in any field.  Which signatures a
written text can stand for is a matter of reading and writing, not of the type.

* `Signature.bare` — the signature of which only the name and the parameters are known.
* `Edit`, `Signature.edited`, `Signature.history` — replacing the modifier or the return type, once
  or in a row.
* `edited_name`, `edited_params` — no edit touches the name or the parameters.
-/

namespace Signatures

/-- A declared parameter. -/
structure Param where
  type : String
  name : String
  deriving DecidableEq, Repr

/-- A method signature; `modifier` is `none` when the declaration has none. -/
structure Signature where
  modifier : Option String
  returnType : String
  name : String
  params : List Param
  deriving DecidableEq, Repr

/-- A replacement of one of the two fields that stand before the name. -/
inductive Edit where
  | modifier (text : Option String)
  | returnType (text : String)
  deriving DecidableEq, Repr

namespace Signature

/-- The signature with a name and parameters but no modifier and an empty return type. -/
def bare (name : String) (params : List Param) : Signature :=
  { modifier := none, returnType := "", name, params }

/-- The signature after one edit. -/
def edit (sig : Signature) : Edit → Signature
  | .modifier text => { sig with modifier := text }
  | .returnType text => { sig with returnType := text }

/-- The signature after a run of edits, the first one first. -/
def edited (sig : Signature) (edits : List Edit) : Signature := edits.foldl edit sig

/-- The signatures that a run of edits passes through, from the one before it to the last. -/
def history (sig : Signature) : List Edit → List Signature
  | [] => [sig]
  | e :: edits => sig :: (sig.edit e).history edits

@[simp] theorem edited_nil (sig : Signature) : sig.edited [] = sig := rfl

@[simp] theorem edited_cons (sig : Signature) (e : Edit) (edits : List Edit) :
    sig.edited (e :: edits) = (sig.edit e).edited edits := rfl

@[simp] theorem edited_name (sig : Signature) (edits : List Edit) :
    (sig.edited edits).name = sig.name := by
  induction edits generalizing sig with
  | nil => rfl
  | cons e edits ih => cases e <;> simp [ih, edit]

@[simp] theorem edited_params (sig : Signature) (edits : List Edit) :
    (sig.edited edits).params = sig.params := by
  induction edits generalizing sig with
  | nil => rfl
  | cons e edits ih => cases e <;> simp [ih, edit]

/-- A history ends with the edited signature. -/
theorem getLast?_history (sig : Signature) (edits : List Edit) :
    (sig.history edits).getLast? = some (sig.edited edits) := by
  induction edits generalizing sig with
  | nil => rfl
  | cons e edits ih => simp [history, List.getLast?_cons, ih]

theorem length_history (sig : Signature) (edits : List Edit) :
    (sig.history edits).length = edits.length + 1 := by
  induction edits generalizing sig with
  | nil => rfl
  | cons e edits ih => simp [history, ih]

end Signature

end Signatures
