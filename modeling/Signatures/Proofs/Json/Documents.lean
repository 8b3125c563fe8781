import Mathlib.Tactic.Lemma
import Signatures.Command.Outcome
import Signatures.Proofs.Json.Writing

/-!
# Documents lose nothing

`Signature.ofJson?` and `Signature.ofDocument?` take the data back out of a JSON value: they know
the keys and their order, and nothing about texts.  What the printer writes denotes a single value
(`Json.Denotes`), from which they recover the signatures.  The final line feed of a printed document
counts among the blanks after the value.

* `documents_are_lossless` — **the documents that are printed denote the signatures**, every key
  once and in its place, and different signatures have different documents.
-/

namespace Signatures

namespace Json

/-- The text is a JSON text of this value and of no other, and the reader finds that value. -/
structure Denotes (cs : List Char) (value : Json) : Prop where
  spelling : Spelling value cs
  unique (other : Json) (h : Spelling other cs) : other = value
  read : parse? cs = some value

/-- **A written value is denoted by its text**, with blanks after it or without. -/
theorem denotes_write {layout : Layout} (h : layout.Blank) (value : Json) {gaps : List Char}
    (hgaps : IsGaps gaps) : Denotes (value.write layout 0 ++ gaps) value where
  spelling := spelling_write h value 0 hgaps
  unique _ hother := hother.unique (spelling_write h value 0 hgaps)
  read := parse?_of_spelling (spelling_write h value 0 hgaps)

lemma denotes_compact (value : Json) : Denotes value.compact.toList value := by
  simpa [compact] using denotes_write Layout.blank_compact value isGaps_nil

lemma denotes_pretty (value : Json) : Denotes value.pretty.toList value := by
  simpa [pretty] using denotes_write Layout.blank_indented value isGaps_nil

/-- A text denotes one value at most. -/
lemma Denotes.value_eq {cs : List Char} {v v' : Json} (h : Denotes cs v) (h' : Denotes cs v') :
    v = v' :=
  h'.unique v h.spelling

end Json

/-! ## The data of a value -/

/-- The parameter that an object describes. -/
def Param.ofJson? : Json → Option Param
  | .object [("type", .string type), ("name", .string name)] => some { type, name }
  | _ => none

namespace Signature

/-- The modifier that a value describes: none, if the value is `null`. -/
def modifier? : Json → Option (Option String)
  | .null => some none
  | .string modifier => some (some modifier)
  | _ => none

/-- The signature that an object describes. -/
def ofJson? : Json → Option Signature
  | .object [("access_modifier", modifier), ("return_type", .string returnType),
      ("method_name", .string name), ("arguments", .array params)] => do
    let modifier ← modifier? modifier
    let params ← params.mapM Param.ofJson?
    pure { modifier, returnType, name, params }
  | _ => none

/-- The signatures that a document describes. -/
def ofDocument? : Json → Option (List Signature)
  | .object [("signatures", .array sigs)] => sigs.mapM ofJson?
  | _ => none

end Signature

/-- What takes each item back takes back all of them, in order. -/
lemma mapM_map_eq_some {α β : Type} {f : β → Option α} {g : α → β}
    (h : ∀ x, f (g x) = some x) (xs : List α) : (xs.map g).mapM f = some xs := by
  induction xs with
  | nil => rfl
  | cons x xs ih => simp [List.mapM_cons, h, ih]

lemma Param.ofJson?_json (p : Param) : ofJson? p.json = some p := by
  simp [json, ofJson?]

namespace Signature

/-- An object has each key once and in its place. -/
lemma json_eq (sig : Signature) :
    sig.json = .object [
      ("access_modifier", sig.modifier.elim .null .string),
      ("return_type", .string sig.returnType),
      ("method_name", .string sig.name),
      ("arguments", .array (sig.params.map fun p =>
        .object [("type", .string p.type), ("name", .string p.name)]))] := by
  cases hmodifier : sig.modifier <;> rw [json, hmodifier] <;> rfl

lemma ofJson?_json (sig : Signature) : ofJson? sig.json = some sig := by
  obtain ⟨modifier, returnType, name, params⟩ := sig
  have hparams := mapM_map_eq_some Param.ofJson?_json params
  cases modifier with
  | none => simp [json, ofJson?, modifier?, hparams]
  | some modifier => simp [json, ofJson?, modifier?, hparams]

lemma ofDocument?_document (sigs : List Signature) : ofDocument? (document sigs) = some sigs := by
  simp [document, ofDocument?, mapM_map_eq_some ofJson?_json]

/-- Signatures are told apart by their documents. -/
lemma document_injective : Function.Injective document := by
  intro sigs sigs' h
  have hsigs := ofDocument?_document sigs
  rw [h, ofDocument?_document] at hsigs
  exact (Option.some.inj hsigs).symm

end Signature

/-! ## Printed documents -/

lemma denotes_print (sigs : List Signature) :
    Json.Denotes (Form.document.print sigs) (Signature.document sigs) := by
  have hfeed : Json.IsGaps ['\n'] := by simp [Json.IsGaps, Json.isGap]
  exact Json.denotes_write Json.Layout.blank_indented _ hfeed

/-- **The documents that are printed denote the signatures.**  A printed document and either text of
one signature each are a JSON text of one value and of no other.  That value lists the signatures in
order, with each key once and in its place and with `null` for a missing modifier only; the
signatures can be taken back from it, and no two lists of signatures are printed alike. -/
theorem documents_are_lossless :
    (∀ sigs : List Signature,
      Json.Denotes (Form.document.print sigs)
        (.object [("signatures", .array (sigs.map Signature.json))]) ∧
      (Json.parse? (Form.document.print sigs)).bind Signature.ofDocument? = some sigs) ∧
    (∀ sig : Signature,
      Json.Denotes sig.json.compact.toList sig.json ∧
      Json.Denotes sig.json.pretty.toList sig.json ∧
      Signature.ofJson? sig.json = some sig ∧
      sig.json = .object [
        ("access_modifier", sig.modifier.elim .null .string),
        ("return_type", .string sig.returnType),
        ("method_name", .string sig.name),
        ("arguments", .array (sig.params.map fun p =>
          .object [("type", .string p.type), ("name", .string p.name)]))]) ∧
    Function.Injective Form.document.print := by
  refine ⟨fun sigs => ⟨denotes_print sigs, ?_⟩, fun sig => ?_, ?_⟩
  · rw [(denotes_print sigs).read, Option.bind_some, Signature.ofDocument?_document]
  · exact ⟨Json.denotes_compact _, Json.denotes_pretty _, sig.ofJson?_json, sig.json_eq⟩
  · intro sigs sigs' h
    have hvalue := (denotes_print sigs).value_eq (h ▸ denotes_print sigs')
    exact Signature.document_injective hvalue

end Signatures
