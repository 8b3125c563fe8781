import Signatures.Signature.Basic
import Signatures.Text.Words

/-!
# Well-formed signatures and their spellings

A signature made by hand may hold any text.  It is well formed when every field is a word that lacks
the mark which would end it too early: an opening parenthesis in the fields before the parameters, a
comma in a parameter.  A closing parenthesis may stand in any of them.

A spelling is a signature together with the blanks that some text puts around its words.  It is the
grammar of signatures without any cutting or searching: `Spelling.chars` writes the text down piece
by piece, `Spelling.signature` forgets the blanks, and `Spelling.Valid` says which pieces may stand
where.

* `Signature.WellFormed`, `Param.WellFormed` — decidable conditions on the fields alone.
* `Spelling` — the declaration, the body of the parameter list and the blanks around them.
* `Param.Spelling` — one parameter with its blanks.
-/

namespace Signatures

/-! ## Well-formed signatures -/

/-- A word without a certain mark in it. -/
def IsWordWithout (mark : Char) (cs : List Char) : Prop := IsWord cs ∧ mark ∉ cs

instance (mark : Char) (cs : List Char) : Decidable (IsWordWithout mark cs) :=
  inferInstanceAs (Decidable (IsWord cs ∧ mark ∉ cs))

/-- A parameter of two words without commas. -/
def Param.WellFormed (p : Param) : Prop :=
  IsWordWithout ',' p.type.toList ∧ IsWordWithout ',' p.name.toList

instance (p : Param) : Decidable p.WellFormed :=
  inferInstanceAs (Decidable (IsWordWithout ',' p.type.toList ∧ IsWordWithout ',' p.name.toList))

/-- A signature whose fields are words that end where they should. -/
def Signature.WellFormed (sig : Signature) : Prop :=
  (∀ modifier ∈ sig.modifier, IsWordWithout '(' modifier.toList) ∧
  IsWordWithout '(' sig.returnType.toList ∧
  IsWordWithout '(' sig.name.toList ∧
  ∀ p ∈ sig.params, p.WellFormed

instance (sig : Signature) : Decidable sig.WellFormed :=
  inferInstanceAs (Decidable (
    (∀ modifier ∈ sig.modifier, IsWordWithout '(' modifier.toList) ∧
    IsWordWithout '(' sig.returnType.toList ∧
    IsWordWithout '(' sig.name.toList ∧
    ∀ p ∈ sig.params, p.WellFormed))

example : Signature.WellFormed ⟨none, "void", "f)", [⟨"A(", "x)"⟩]⟩ := by decide

example : ¬ Signature.WellFormed ⟨some "", "void", "f", []⟩ := by decide

example : ¬ Signature.WellFormed (.bare "f" []) := by decide

/-! ## Spellings -/

/-- Blanks, one at least. -/
def IsGap (cs : List Char) : Prop := cs ≠ [] ∧ allBlank cs = true

instance (cs : List Char) : Decidable (IsGap cs) :=
  inferInstanceAs (Decidable (cs ≠ [] ∧ allBlank cs = true))

/-- A parameter with the blanks before, between and after its words. -/
structure Param.Spelling where
  lead : List Char
  type : List Char
  gap : List Char
  name : List Char
  trail : List Char
  deriving DecidableEq, Repr

namespace Param.Spelling

/-- The text of a spelled parameter. -/
def chars (p : Param.Spelling) : List Char := p.lead ++ p.type ++ p.gap ++ p.name ++ p.trail

/-- The parameter that is spelled. -/
def param (p : Param.Spelling) : Param := ⟨String.ofList p.type, String.ofList p.name⟩

/-- Two words without commas, kept apart by blanks. -/
structure Valid (p : Param.Spelling) : Prop where
  lead : allBlank p.lead = true
  type : IsWordWithout ',' p.type
  gap : IsGap p.gap
  name : IsWordWithout ',' p.name
  trail : allBlank p.trail = true

instance (p : Param.Spelling) : Decidable p.Valid :=
  decidable_of_iff (allBlank p.lead = true ∧ IsWordWithout ',' p.type ∧ IsGap p.gap ∧
      IsWordWithout ',' p.name ∧ allBlank p.trail = true)
    ⟨fun ⟨h₁, h₂, h₃, h₄, h₅⟩ => ⟨h₁, h₂, h₃, h₄, h₅⟩,
      fun h => ⟨h.lead, h.type, h.gap, h.name, h.trail⟩⟩

end Param.Spelling

/-- What may stand between the parentheses. -/
inductive Body where
  /-- Only blanks, and no parameter. -/
  | blank (blanks : List Char)
  /-- Parameters with a comma between any two. -/
  | params (first : Param.Spelling) (others : List Param.Spelling)
  deriving DecidableEq, Repr

namespace Body

/-- The text of a body. -/
def chars : Body → List Char
  | blank blanks => blanks
  | params first others => [','].intercalate ((first :: others).map (·.chars))

/-- The parameters of a body. -/
def toParams : Body → List Param
  | blank _ => []
  | params first others => (first :: others).map (·.param)

/-- Blanks, or valid parameters. -/
def Valid : Body → Prop
  | blank blanks => allBlank blanks = true
  | params first others => ∀ p ∈ first :: others, p.Valid

instance : (b : Body) → Decidable b.Valid
  | blank blanks => inferInstanceAs (Decidable (allBlank blanks = true))
  | params first others => inferInstanceAs (Decidable (∀ p ∈ first :: others, p.Valid))

end Body

/-- A signature with all the blanks of one of its texts. -/
structure Spelling where
  lead : List Char
  /-- The modifier and the blanks after it, when there is one. -/
  modifier : Option (List Char × List Char)
  returnType : List Char
  gap : List Char
  name : List Char
  beforeOpening : List Char
  body : Body
  trail : List Char
  deriving DecidableEq, Repr

namespace Spelling

/-- The modifier as the text shows it. -/
def modifierChars (s : Spelling) : List Char :=
  match s.modifier with
  | some (word, gap) => word ++ gap
  | none => []

/-- The text before the opening parenthesis. -/
def declarationChars (s : Spelling) : List Char :=
  s.lead ++ s.modifierChars ++ s.returnType ++ s.gap ++ s.name ++ s.beforeOpening

/-- The text that is spelled. -/
def chars (s : Spelling) : List Char :=
  s.declarationChars ++ '(' :: s.body.chars ++ ')' :: s.trail

/-- The signature that is spelled. -/
def signature (s : Spelling) : Signature where
  modifier := s.modifier.map fun (word, _) => String.ofList word
  returnType := String.ofList s.returnType
  name := String.ofList s.name
  params := s.body.toParams

/-- Words before the parenthesis hold no other opening one, and blanks keep them apart. -/
structure Valid (s : Spelling) : Prop where
  lead : allBlank s.lead = true
  modifier : ∀ m ∈ s.modifier, IsWordWithout '(' m.1 ∧ IsGap m.2
  returnType : IsWordWithout '(' s.returnType
  gap : IsGap s.gap
  name : IsWordWithout '(' s.name
  beforeOpening : allBlank s.beforeOpening = true
  body : s.body.Valid
  trail : allBlank s.trail = true

instance (s : Spelling) : Decidable s.Valid :=
  decidable_of_iff (allBlank s.lead = true ∧
      (∀ m ∈ s.modifier, IsWordWithout '(' m.1 ∧ IsGap m.2) ∧ IsWordWithout '(' s.returnType ∧
      IsGap s.gap ∧ IsWordWithout '(' s.name ∧ allBlank s.beforeOpening = true ∧ s.body.Valid ∧
      allBlank s.trail = true)
    ⟨fun ⟨h₁, h₂, h₃, h₄, h₅, h₆, h₇, h₈⟩ => ⟨h₁, h₂, h₃, h₄, h₅, h₆, h₇, h₈⟩,
      fun h => ⟨h.lead, h.modifier, h.returnType, h.gap, h.name, h.beforeOpening, h.body, h.trail⟩⟩

/-- What is spelled validly is well formed. -/
theorem Valid.wellFormed {s : Spelling} (h : s.Valid) : s.signature.WellFormed := by
  refine ⟨?_, by simpa [signature] using h.returnType, by simpa [signature] using h.name, ?_⟩
  · intro m hm
    simp only [signature, Option.mem_def, Option.map_eq_some_iff] at hm
    obtain ⟨w, hw, rfl⟩ := hm
    simpa using (h.modifier w hw).1
  · intro p hp
    have hbody := h.body
    cases hb : s.body with
    | blank blanks => simp [signature, hb, Body.toParams] at hp
    | params first others =>
      rw [hb] at hbody
      simp only [signature, hb, Body.toParams, List.mem_map] at hp
      obtain ⟨q, hq, rfl⟩ := hp
      have hvalid := hbody q hq
      exact ⟨by simpa [Param.Spelling.param] using hvalid.type,
        by simpa [Param.Spelling.param] using hvalid.name⟩

end Spelling

end Signatures
