import Mathlib.Tactic.TFAE
import Signatures.Proofs.Grammar
import Signatures.Signature.Printer

/-!
# The canonical spelling

The text that a signature is written as is one of its spellings: single spaces as gaps, a space
behind every comma, and no other blank.  So the questions about writing and reading again are
questions about that one spelling, and the grammar answers them.

* `Signature.canonical` — the spelling, with `chars_canonical` and `signature_canonical`.
* `Signature.canonical_valid_iff` — it is valid exactly when the signature is well formed.
* `Signature.WellFormed.spacesOnly` — no blank but the space is in it, so that it is one line.
* **`readable_tfae`** — being what some text says, being what one's own text says and being well
  formed are the same.

The last one needs no induction of its own: the parameters are handled where the two ways to put
commas between texts meet, in `chars_canonical`.
-/

namespace Signatures

/-- A joined text is its first part with a separator before each of the others. -/
lemma intercalate_cons_eq_append {α : Type} (sep a : List α) (as : List (List α)) :
    sep.intercalate (a :: as) = a ++ as.flatMap (sep ++ ·) := by
  induction as generalizing a with
  | nil => rw [List.intercalate_singleton, List.flatMap_nil, List.append_nil]
  | cons b as ih =>
      rw [List.intercalate_cons_cons, ih, List.flatMap_cons, List.append_assoc, List.append_assoc]

/-- What holds of all members of a separator and of all parts holds of all of the joined text. -/
lemma forall_mem_intercalate {α : Type} {p : α → Prop} {sep : List α} {parts : List (List α)}
    (hsep : ∀ x ∈ sep, p x) (h : ∀ part ∈ parts, ∀ x ∈ part, p x) :
    ∀ x ∈ sep.intercalate parts, p x := by
  cases parts with
  | nil => simp
  | cons first others =>
      obtain ⟨hfirst, hothers⟩ := List.forall_mem_cons.1 h
      rw [intercalate_cons_eq_append, List.forall_mem_append]
      refine ⟨hfirst, ?_⟩
      intro x hx
      obtain ⟨part, hpart, hx⟩ := List.mem_flatMap.1 hx
      exact List.forall_mem_append.2 ⟨hsep, hothers part hpart⟩ x hx

lemma isGap_space : IsGap [' '] := by decide

/-- A parameter spelled with one space between its words and some blanks before them. -/
def Param.canonical (lead : List Char) (p : Param) : Param.Spelling where
  lead := lead
  type := p.type.toList
  gap := [' ']
  name := p.name.toList
  trail := []

lemma Param.chars_canonical (lead : List Char) (p : Param) :
    (p.canonical lead).chars = lead ++ p.chars := by
  simp [canonical, Param.Spelling.chars, Param.chars]

@[simp] lemma Param.param_canonical (lead : List Char) (p : Param) :
    (p.canonical lead).param = p := by
  simp [canonical, Param.Spelling.param]

lemma Param.canonical_valid_iff {lead : List Char} (hlead : allBlank lead = true) {p : Param} :
    (p.canonical lead).Valid ↔ p.WellFormed := by
  constructor
  · intro h
    exact ⟨h.type, h.name⟩
  · rintro ⟨ht, hn⟩
    exact ⟨hlead, ht, isGap_space, hn, rfl⟩

namespace Signature

/-- The body of a parameter list as it is written. -/
def canonicalBody : List Param → Body
  | [] => .blank []
  | first :: others => .params (first.canonical []) (others.map (Param.canonical [' ']))

/-- The spelling that a signature is written in. -/
def canonical (sig : Signature) : Spelling where
  lead := []
  modifier := sig.modifier.map fun modifier => (modifier.toList, [' '])
  returnType := sig.returnType.toList
  gap := [' ']
  name := sig.name.toList
  beforeOpening := []
  body := canonicalBody sig.params
  trail := []

/-- A comma with every space after it on the parameter is a comma and a space between any two. -/
lemma chars_canonicalBody (params : List Param) :
    (canonicalBody params).chars = [',', ' '].intercalate (params.map Param.chars) := by
  cases params with
  | nil => rfl
  | cons first others =>
      rw [canonicalBody, Body.chars, List.map_cons, List.map_cons, intercalate_cons_eq_append,
        intercalate_cons_eq_append, Param.chars_canonical, List.map_map, List.flatMap_map,
        List.flatMap_map, List.nil_append]
      simp [Param.chars_canonical]

lemma toParams_canonicalBody (params : List Param) : (canonicalBody params).toParams = params := by
  cases params with
  | nil => rfl
  | cons first others => simp [canonicalBody, Body.toParams, Function.comp_def]

lemma canonicalBody_valid_iff {params : List Param} :
    (canonicalBody params).Valid ↔ ∀ p ∈ params, p.WellFormed := by
  cases params with
  | nil =>
      constructor
      · intro _ p hp
        exact absurd hp List.not_mem_nil
      · intro _
        rfl
  | cons first others =>
      simp only [canonicalBody, Body.Valid, List.forall_mem_cons, List.forall_mem_map]
      exact and_congr (Param.canonical_valid_iff rfl)
        (forall₂_congr fun p _ => Param.canonical_valid_iff isGap_space.2)

/-- The canonical spelling spells the canonical text. -/
lemma chars_canonical (sig : Signature) : sig.canonical.chars = sig.chars := by
  rw [Spelling.chars_eq_halves, chars, paramsChars, ← chars_canonicalBody]
  cases hm : sig.modifier with
  | none => simp [canonical, Spelling.declarationChars, Spelling.modifierChars,
      declarationChars, hm]
  | some m => simp [canonical, Spelling.declarationChars, Spelling.modifierChars,
      declarationChars, hm]

lemma signature_canonical (sig : Signature) : sig.canonical.signature = sig := by
  obtain ⟨modifier, returnType, name, params⟩ := sig
  cases modifier with
  | none => simp [canonical, Spelling.signature, toParams_canonicalBody]
  | some m => simp [canonical, Spelling.signature, toParams_canonicalBody]

/-- **Exactly the well-formed signatures are written validly.** -/
theorem canonical_valid_iff {sig : Signature} : sig.canonical.Valid ↔ sig.WellFormed := by
  constructor
  · intro h
    have hwell := h.wellFormed
    rwa [signature_canonical] at hwell
  · rintro ⟨hm, ht, hn, hp⟩
    refine ⟨rfl, ?_, ht, isGap_space, hn, rfl, canonicalBody_valid_iff.2 hp, rfl⟩
    intro m hmem
    obtain ⟨modifier, hmodifier, rfl⟩ := Option.map_eq_some_iff.1 hmem
    exact ⟨hm modifier hmodifier, isGap_space⟩

/-- A well-formed signature is read back from its text. -/
lemma WellFormed.parse_text {sig : Signature} (h : sig.WellFormed) :
    parse sig.text = .ok sig := by
  have hread := (canonical_valid_iff.2 h).read_chars
  rw [chars_canonical, signature_canonical] at hread
  rwa [parse_eq_ok_iff, toList_text]

/-- Whatever a text says is well formed. -/
lemma wellFormed_of_parse {text : String} {sig : Signature} (h : parse text = .ok sig) :
    sig.WellFormed := by
  obtain ⟨s, hs, -, rfl⟩ := Spelling.exists_of_read (parse_eq_ok_iff.1 h)
  exact hs.wellFormed

/-- A modifier that is there is not empty. -/
lemma WellFormed.modifier_ne_empty {sig : Signature} (h : sig.WellFormed) :
    sig.modifier ≠ some "" := by
  intro hm
  exact (h.1 "" hm).1.1 rfl

end Signature

/-! ## The blanks of a canonical text -/

/-- No blank but the space. -/
def SpacesOnly (cs : List Char) : Prop := ∀ c ∈ cs, isBlank c = true → c = ' '

lemma spacesOnly_nil : SpacesOnly [] := List.forall_mem_nil _

lemma spacesOnly_append {a b : List Char} :
    SpacesOnly (a ++ b) ↔ SpacesOnly a ∧ SpacesOnly b := List.forall_mem_append

lemma spacesOnly_cons {c : Char} {cs : List Char} :
    SpacesOnly (c :: cs) ↔ (isBlank c = true → c = ' ') ∧ SpacesOnly cs := List.forall_mem_cons

lemma IsWord.spacesOnly {w : List Char} (h : IsWord w) : SpacesOnly w := by
  intro c hc hblank
  rw [h.2 c hc] at hblank
  exact Bool.noConfusion hblank

lemma spacesOnly_intercalate {sep : List Char} {parts : List (List Char)} (hsep : SpacesOnly sep)
    (h : ∀ part ∈ parts, SpacesOnly part) : SpacesOnly (sep.intercalate parts) :=
  forall_mem_intercalate hsep h

lemma Param.WellFormed.spacesOnly {p : Param} (h : p.WellFormed) : SpacesOnly p.chars := by
  rw [chars, spacesOnly_append, spacesOnly_cons]
  exact ⟨h.1.1.spacesOnly, fun _ => rfl, h.2.1.spacesOnly⟩

namespace Signature

variable {sig : Signature}

lemma WellFormed.spacesOnly_declarationChars (h : sig.WellFormed) :
    SpacesOnly sig.declarationChars := by
  obtain ⟨hmodifier, htype, hname, -⟩ := h
  rw [declarationChars, spacesOnly_append, spacesOnly_append, spacesOnly_cons]
  refine ⟨⟨?_, htype.1.spacesOnly⟩, fun _ => rfl, hname.1.spacesOnly⟩
  cases hm : sig.modifier with
  | none => exact spacesOnly_nil
  | some m =>
      rw [spacesOnly_append, spacesOnly_cons]
      exact ⟨(hmodifier m hm).1.spacesOnly, fun _ => rfl, spacesOnly_nil⟩

lemma WellFormed.spacesOnly_paramsChars (h : sig.WellFormed) : SpacesOnly sig.paramsChars := by
  have hsep : SpacesOnly [',', ' '] := by
    rw [spacesOnly_cons, spacesOnly_cons]
    exact ⟨by decide, fun _ => rfl, spacesOnly_nil⟩
  refine spacesOnly_intercalate hsep ?_
  intro part hpart
  obtain ⟨p, hp, rfl⟩ := List.mem_map.1 hpart
  exact (h.2.2.2 p hp).spacesOnly

/-- **The space is the only blank in a canonical text.** -/
lemma WellFormed.spacesOnly (h : sig.WellFormed) : SpacesOnly sig.chars := by
  rw [chars, spacesOnly_append, spacesOnly_append, spacesOnly_cons, spacesOnly_cons]
  exact ⟨⟨h.spacesOnly_declarationChars, by decide, h.spacesOnly_paramsChars⟩, by decide,
    spacesOnly_nil⟩

lemma getLast?_chars (sig : Signature) : sig.chars.getLast? = some ')' := List.getLast?_concat

end Signature

/-! ## Reading and writing -/

/-- **Reading and writing meet in the well-formed signatures.**  A signature that some text says is
read back from its own text, these are exactly the well-formed ones, and none of them has an empty
modifier. -/
theorem readable_tfae (sig : Signature) :
    List.TFAE [∃ text, Signature.parse text = .ok sig, Signature.parse sig.text = .ok sig,
      sig.WellFormed] ∧
    ∀ text, Signature.parse text = .ok sig →
      Signature.parse sig.text = .ok sig ∧ sig.modifier ≠ some "" := by
  constructor
  · tfae_have 1 → 3 := fun ⟨_, h⟩ => Signature.wellFormed_of_parse h
    tfae_have 3 → 2 := Signature.WellFormed.parse_text
    tfae_have 2 → 1 := fun h => ⟨sig.text, h⟩
    tfae_finish
  · intro text h
    have hwell := Signature.wellFormed_of_parse h
    exact ⟨hwell.parse_text, hwell.modifier_ne_empty⟩

/-- A text with more blanks than needed and a second closing parenthesis is read, and so is what it
is written as. -/
theorem wide_text_is_readable :
    let sig : Signature := ⟨none, "int", "f", [⟨"a(", "b)"⟩, ⟨"c", "d)"⟩]⟩
    Signature.parse "\tint  f( a( b) ,c d)) " = .ok sig ∧
      Signature.parse sig.text = .ok sig ∧ sig.modifier ≠ some "" := by
  intro sig
  have hread : Signature.parse "\tint  f( a( b) ,c d)) " = .ok sig := by rfl
  exact ⟨hread, (readable_tfae sig).2 _ hread⟩

end Signatures
