import Signatures.Proofs.Canonical

/-!
# What edits leave behind

Edits put any text into the two fields before the name, and what a signature holds after a run of
them need not be read back from its text.  Two questions are answered here, one after the other.

**Which texts are left?**  Each field holds what the last edit of that field put there, whatever
comes before it or between.  `edit_modifier` and `edit_returnType` say so of one edit, and
`edited_modifier` and `edited_returnType` of a run.

**What are they read as?**  The words before the parenthesis are those of the modifier, those of the
return type and the name (`words_declarationChars`).  Reading sees these words and not where one
field ends and the next begins: one word is a return type, two are a modifier and a return type, and
any other number is a defect.  A modifier without words is lost in this way, and a return type of
two words becomes a modifier.

* `read_chars_of_params` — a canonical text with well-formed parameters is read as its declaration.
* **`last_edits_are_read`** — both answers together.
-/

namespace Signatures

/-! ## The last edits -/

namespace Edit

/-- What an edit of the modifier puts there. -/
def modifier? : Edit → Option (Option String)
  | modifier text => some text
  | returnType _ => none

/-- What an edit of the return type puts there. -/
def returnType? : Edit → Option String
  | modifier _ => none
  | returnType text => some text

/-- The characters that an edit brings in.  Taking the modifier away brings in none. -/
def chars : Edit → List Char
  | modifier text => (text.getD "").toList
  | returnType text => text.toList

end Edit

/-- The modifier after some edits: that of the last edit of it, and none without such an edit. -/
def lastModifier (edits : List Edit) : Option String :=
  (edits.filterMap Edit.modifier?).getLast?.getD none

/-- The return type after some edits: that of the last edit of it, and empty without such an
edit. -/
def lastReturnType (edits : List Edit) : String :=
  (edits.filterMap Edit.returnType?).getLast?.getD ""

namespace Signature

lemma edit_modifier (sig : Signature) (e : Edit) :
    (sig.edit e).modifier = e.modifier?.getD sig.modifier := by
  cases e <;> rfl

lemma edit_returnType (sig : Signature) (e : Edit) :
    (sig.edit e).returnType = e.returnType?.getD sig.returnType := by
  cases e <;> rfl

/-- The last edit of the modifier decides. -/
lemma edited_modifier (sig : Signature) (edits : List Edit) :
    (sig.edited edits).modifier =
      (edits.filterMap Edit.modifier?).getLast?.getD sig.modifier := by
  induction edits generalizing sig with
  | nil => rfl
  | cons e edits ih =>
      rw [edited_cons, ih, edit_modifier]
      cases e with
      | modifier text => simp [Edit.modifier?, List.getLast?_cons]
      | returnType text => rfl

/-- The last edit of the return type decides. -/
lemma edited_returnType (sig : Signature) (edits : List Edit) :
    (sig.edited edits).returnType =
      (edits.filterMap Edit.returnType?).getLast?.getD sig.returnType := by
  induction edits generalizing sig with
  | nil => rfl
  | cons e edits ih =>
      rw [edited_cons, ih, edit_returnType]
      cases e with
      | modifier text => rfl
      | returnType text => simp [Edit.returnType?, List.getLast?_cons]

/-- **The last edits are what is left of a run.** -/
lemma edited_bare (name : String) (params : List Param) (edits : List Edit) :
    (bare name params).edited edits =
      ⟨lastModifier edits, lastReturnType edits, name, params⟩ := by
  let sig := (bare name params).edited edits
  calc sig
      = ⟨sig.modifier, sig.returnType, sig.name, sig.params⟩ := rfl
    _ = ⟨lastModifier edits, lastReturnType edits, name, params⟩ := by
      rw [edited_modifier, edited_returnType, edited_name, edited_params]
      rfl

/-! ## A mark that no edit brings in -/

/-- Neither of the two fields that edits replace has the mark in it. -/
def Lacks (mark : Char) (sig : Signature) : Prop :=
  mark ∉ (sig.modifier.getD "").toList ∧ mark ∉ sig.returnType.toList

lemma lacks_bare (mark : Char) (name : String) (params : List Param) :
    (bare name params).Lacks mark := ⟨List.not_mem_nil, List.not_mem_nil⟩

lemma Lacks.edit {mark : Char} {sig : Signature} (h : sig.Lacks mark) {e : Edit}
    (he : mark ∉ e.chars) : (sig.edit e).Lacks mark := by
  cases e with
  | modifier text => exact ⟨he, h.2⟩
  | returnType text => exact ⟨h.1, he⟩

/-- What no edit brings in is not there after a run of them. -/
lemma Lacks.edited {mark : Char} {sig : Signature} (h : sig.Lacks mark) {edits : List Edit}
    (hedits : ∀ e ∈ edits, mark ∉ e.chars) : (sig.edited edits).Lacks mark := by
  induction edits generalizing sig with
  | nil => exact h
  | cons e edits ih =>
      obtain ⟨he, hedits⟩ := List.forall_mem_cons.1 hedits
      exact ih (h.edit he) hedits

lemma Lacks.opening_not_mem {sig : Signature} (h : sig.Lacks '(')
    (hname : '(' ∉ sig.name.toList) : '(' ∉ sig.declarationChars := by
  obtain ⟨hmodifier, hreturnType⟩ := h
  rw [declarationChars]
  cases hm : sig.modifier with
  | none => simp [hreturnType, hname]
  | some m =>
      rw [hm] at hmodifier
      simp_all

/-! ## Reading a text that was made by hand -/

/-- **Where one field ends and the next begins is not in the words.** -/
lemma words_declarationChars {sig : Signature} (hname : IsWord sig.name.toList) :
    words sig.declarationChars =
      words (sig.modifier.getD "").toList ++ words sig.returnType.toList ++ [sig.name.toList] := by
  have hspace : isBlank ' ' = true := by decide
  rw [declarationChars, words_append_blank _ _ hspace, words_of_isWord hname]
  cases sig.modifier with
  | none => rfl
  | some m =>
      simp only [Option.getD_some, List.append_assoc, List.singleton_append,
        words_append_blank _ _ hspace]

/-- Well-formed parameters are read back from their half of the text. -/
lemma readHalf_paramsChars {sig : Signature} (h : ∀ p ∈ sig.params, p.WellFormed) :
    Param.readHalf (sig.paramsChars ++ [')']) = .ok sig.params := by
  refine Param.readHalf_eq_ok_iff.2 ⟨_, Param.body?_append allBlank_nil, ?_⟩
  have hread := Body.readAll?_chars (canonicalBody_valid_iff.2 h)
  rwa [chars_canonicalBody, toParams_canonicalBody] at hread

section ByHand

variable {sig : Signature} (hopen : '(' ∉ sig.declarationChars)
  (hparams : ∀ p ∈ sig.params, p.WellFormed)

include hopen hparams

lemma read_chars_of_params :
    read sig.chars =
      (Declaration.readHalf sig.declarationChars).map fun d => d.signature sig.params := by
  rw [chars, List.append_assoc, List.cons_append, read_halves hopen, readHalf_paramsChars hparams]
  rfl

/-- A text with well-formed parameters is read when its other words are the fields of some
declaration. -/
lemma parse_text_of_words {d : Declaration} (h : words sig.declarationChars = d.fields) :
    parse sig.text = .ok (d.signature sig.params) := by
  rw [parse_eq_ok_iff, toList_text, read_chars_of_params hopen hparams,
    Declaration.readHalf_eq_ok_iff_fields.2 h]
  rfl

lemma parse_text_of_not_fits (h : ¬ Declaration.Fits sig.declarationChars) :
    parse sig.text = .error (.malformed sig.text .declarationWords) := by
  refine parse_eq_error_iff.2 ⟨.declarationWords, ?_, rfl⟩
  rw [toList_text, read_chars_of_params hopen hparams,
    Declaration.readHalf_eq_error_iff.2 ⟨h, rfl⟩]
  rfl

lemma exists_parse_text_iff :
    (∃ other, parse sig.text = .ok other) ↔ Declaration.Fits sig.declarationChars := by
  constructor
  · rintro ⟨other, hother⟩
    by_contra hfits
    rw [parse_text_of_not_fits hopen hparams hfits] at hother
    cases hother
  · intro hfits
    obtain ⟨d, hd⟩ := Declaration.exists_readHalf_iff.2 hfits
    exact ⟨_, parse_text_of_words hopen hparams (Declaration.readHalf_eq_ok_iff_fields.1 hd)⟩

end ByHand

end Signature

/-- **The last edits are left, and their words are read.**  Behind any run of edits a signature has
its name and its parameters, and in the two other fields what the last edits put there.  Its text is
read when these fields have one word or two between them: the last one is the return type, and
another one before it the modifier.  With fewer words or more, the declaration is the defect. -/
theorem last_edits_are_read {name : String} {params : List Param} {edits : List Edit}
    (hname : IsWordWithout '(' name.toList) (hparams : ∀ p ∈ params, p.WellFormed)
    (hedits : ∀ e ∈ edits, '(' ∉ e.chars) :
    let sig := (Signature.bare name params).edited edits
    let tokens :=
      words ((lastModifier edits).getD "").toList ++ words (lastReturnType edits).toList
    sig = ⟨lastModifier edits, lastReturnType edits, name, params⟩ ∧
    ((∃ other, Signature.parse sig.text = .ok other) ↔ tokens.length = 1 ∨ tokens.length = 2) ∧
    (∀ type, tokens = [type] →
      Signature.parse sig.text = .ok ⟨none, String.ofList type, name, params⟩) ∧
    (∀ modifier type, tokens = [modifier, type] → Signature.parse sig.text =
      .ok ⟨some (String.ofList modifier), String.ofList type, name, params⟩) ∧
    (¬ (tokens.length = 1 ∨ tokens.length = 2) →
      Signature.parse sig.text = .error (.malformed sig.text .declarationWords)) ∧
    Defect.declarationWords.reason = "expected 2 or 3 declaration tokens" := by
  intro sig tokens
  have hsig : sig = ⟨lastModifier edits, lastReturnType edits, name, params⟩ :=
    Signature.edited_bare name params edits
  have hsigParams : sig.params = params := Signature.edited_params _ edits
  have hsigName : sig.name = name := Signature.edited_name _ edits
  have hlacks : sig.Lacks '(' := (Signature.lacks_bare '(' name params).edited hedits
  have hopen : '(' ∉ sig.declarationChars := hlacks.opening_not_mem (hsigName ▸ hname.2)
  have hwell : ∀ p ∈ sig.params, p.WellFormed := hsigParams ▸ hparams
  have hwords : words sig.declarationChars = tokens ++ [name.toList] := by
    rw [hsig]
    exact Signature.words_declarationChars hname.1
  -- the name is one more word than the two fields have
  have hfits : Declaration.Fits sig.declarationChars ↔ tokens.length = 1 ∨ tokens.length = 2 := by
    rw [Declaration.Fits, hwords, List.length_append, List.length_singleton]
    omega
  have hread : ∀ d : Declaration, tokens ++ [name.toList] = d.fields →
      Signature.parse sig.text = .ok (d.signature params) := by
    intro d hd
    have hparse := Signature.parse_text_of_words hopen hwell (hwords.trans hd)
    rwa [hsigParams] at hparse
  refine ⟨hsig, ?_, ?_, ?_, ?_, rfl⟩
  · rw [Signature.exists_parse_text_iff hopen hwell, hfits]
  · intro type htokens
    exact hread ⟨none, String.ofList type, name⟩ (by simp [htokens, Declaration.fields])
  · intro modifier type htokens
    exact hread ⟨some (String.ofList modifier), String.ofList type, name⟩
      (by simp [htokens, Declaration.fields])
  · intro hlength
    exact Signature.parse_text_of_not_fits hopen hwell (hfits.not.2 hlength)

/-- An empty modifier is lost and its place taken by the first word of the return type; where the
return type is blank, the modifier becomes the return type; and three words are too many. -/
theorem words_of_edits_shift :
    let params : List Param := [⟨"a(", "b)"⟩]
    let run := fun edits => (Signature.bare "f)" params).edited edits
    let split : List Edit := [.modifier (some "public"), .returnType "unsigned\u3000long",
      .modifier (some "")]
    let blank : List Edit := [.returnType "int", .modifier (some " static"), .returnType "\t"]
    let crowded : List Edit := [.returnType "unsigned long", .modifier (some "public")]
    IsWordWithout '(' "f)".toList ∧ (∀ p ∈ params, p.WellFormed) ∧
    (∀ e ∈ split ++ blank ++ crowded, '(' ∉ e.chars) ∧
    run split = ⟨some "", "unsigned\u3000long", "f)", params⟩ ∧
    Signature.parse (run split).text = .ok ⟨some "unsigned", "long", "f)", params⟩ ∧
    Signature.parse (run blank).text = .ok ⟨none, "static", "f)", params⟩ ∧
    Signature.parse (run crowded).text =
      .error (.malformed (run crowded).text .declarationWords) := by
  intro params run split blank crowded
  have hname : IsWordWithout '(' "f)".toList := by decide
  have hparams : ∀ p ∈ params, p.WellFormed := by decide
  have hedits : ∀ e ∈ split ++ blank ++ crowded, '(' ∉ e.chars := by decide
  obtain ⟨hleft, hrest⟩ := List.forall_mem_append.1 hedits
  obtain ⟨hsplit, hblank⟩ := List.forall_mem_append.1 hleft
  obtain ⟨hlast, -, -, htwo, -⟩ := last_edits_are_read hname hparams hsplit
  obtain ⟨-, -, hone, -⟩ := last_edits_are_read hname hparams hblank
  obtain ⟨-, -, -, -, hmany, -⟩ := last_edits_are_read hname hparams hrest
  exact ⟨hname, hparams, hedits, hlast, htwo "unsigned".toList "long".toList (by decide),
    hone "static".toList (by decide), hmany (by decide)⟩

end Signatures
