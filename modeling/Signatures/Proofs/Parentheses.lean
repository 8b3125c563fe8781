import Signatures.Proofs.Ink

/-!
# Extra parentheses

Two parentheses of a text are marks: the first opening one and, where only blanks follow it, the
last closing one.  One might expect a text with more of them to be refused.  It is not: to the
reader any other parenthesis is a character of the word that it stands in
(`extra_parentheses_are_read`).

What can be said of such texts is therefore said in terms of words.

* `Shaped` — two or three words, and a list that is closed and has two words between any two commas.
  Nothing else is asked of a text (`exists_parse_iff_shaped`), least of all how many parentheses it
  has.
* `Signature.count_of_parse` — a mark that is no blank and no comma is found in the fields of what
  is read as often as in the text, but for the pair around the list.
* **`extra_parentheses_stand_in_words`** — so all extra parentheses are in the fields, and an
  opening one only in those of the parameters.
-/

namespace Signatures

/-! ## Texts -/

/-- More than one parenthesis of either kind. -/
def HasExtra (cs : List Char) : Prop := 1 < cs.count '(' ∨ 1 < cs.count ')'

instance (cs : List Char) : Decidable (HasExtra cs) :=
  inferInstanceAs (Decidable (1 < cs.count '(' ∨ 1 < cs.count ')'))

/-- The shape of a signature.  Before the first opening parenthesis there are two or three words,
behind a last closing one there are only blanks, and between them there are only blanks or there are
two words between any two commas. -/
def Shaped (cs : List Char) : Prop :=
  ∃ before body blanks, cs = before ++ '(' :: (body ++ ')' :: blanks) ∧ '(' ∉ before ∧
    allBlank blanks = true ∧ Declaration.Fits before ∧
    (allBlank body = true ∨ ∀ piece ∈ body.splitOn ',', (words piece).length = 2)

lemma Param.exists_readAll?_iff {body : List Char} :
    (∃ params, readAll? body = some params) ↔
      allBlank body = true ∨ ∀ piece ∈ body.splitOn ',', (words piece).length = 2 := by
  constructor
  · rintro ⟨params, h⟩
    by_contra hnot
    obtain ⟨hblank, hpieces⟩ := not_or.1 hnot
    have hnone : readAll? body = none :=
      readAll?_eq_none_iff.2 ⟨by simpa using hblank, by simpa using hpieces⟩
    rw [hnone] at h
    cases h
  · intro h
    cases hread : readAll? body with
    | some params => exact ⟨params, rfl⟩
    | none =>
        obtain ⟨hblank, piece, hpiece, hlength⟩ := readAll?_eq_none_iff.1 hread
        rcases h with h | h
        · rw [hblank] at h
          cases h
        · exact absurd (h piece hpiece) hlength

namespace Signature

/-- **A text is read when it has the shape**, and only then. -/
lemma exists_parse_iff_shaped {text : String} :
    (∃ sig, parse text = .ok sig) ↔ Shaped text.toList := by
  constructor
  · rintro ⟨sig, h⟩
    obtain ⟨before, after, d, params, htext, hopen, hd, hp, -⟩ :=
      read_eq_ok_iff.1 (parse_eq_ok_iff.1 h)
    obtain ⟨body, hbody, hparams⟩ := Param.readHalf_eq_ok_iff.1 hp
    obtain ⟨blanks, hblanks, rfl⟩ := Param.body?_eq_some_iff.1 hbody
    exact ⟨before, body, blanks, htext, hopen, hblanks, Declaration.exists_readHalf_iff.1 ⟨d, hd⟩,
      Param.exists_readAll?_iff.1 ⟨params, hparams⟩⟩
  · rintro ⟨before, body, blanks, htext, hopen, hblanks, hfits, hbody⟩
    obtain ⟨d, hd⟩ := Declaration.exists_readHalf_iff.2 hfits
    obtain ⟨params, hparams⟩ := Param.exists_readAll?_iff.2 hbody
    have hp : Param.readHalf (body ++ ')' :: blanks) = .ok params :=
      Param.readHalf_eq_ok_iff.2 ⟨body, Param.body?_append hblanks, hparams⟩
    refine ⟨d.signature params, parse_eq_ok_iff.2 ?_⟩
    rw [htext]
    exact (read_append_eq_ok_iff hopen).2 ⟨d, params, hd, hp, rfl⟩

end Signature

/-! ## Fields -/

/-- Separators do not count for what is not in them. -/
lemma count_intercalate {sep : List Char} {c : Char} (hc : c ∉ sep) (parts : List (List Char)) :
    (sep.intercalate parts).count c = parts.flatten.count c := by
  cases parts with
  | nil => rfl
  | cons first others =>
      have hothers : (others.flatMap (sep ++ ·)).count c = others.flatten.count c := by
        induction others with
        | nil => rfl
        | cons part others ih =>
            rw [List.flatMap_cons, List.count_append, List.count_append, ih,
              List.count_eq_zero_of_not_mem hc, List.flatten_cons, List.count_append, Nat.zero_add]
      rw [intercalate_cons_eq_append, List.count_append, hothers, List.flatten_cons,
        List.count_append]

namespace Signature

/-- What a signature says before its parameters. -/
def declaration (sig : Signature) : Declaration := ⟨sig.modifier, sig.returnType, sig.name⟩

/-- All fields that are there, in the order in which they are written. -/
def fields (sig : Signature) : List (List Char) :=
  sig.declaration.fields ++ sig.params.flatMap Param.fields

/-- A signature without blanks is its fields, but for the marks around its parameters. -/
lemma inkChars_eq (sig : Signature) :
    sig.inkChars = sig.declaration.fields.flatten ++
      '(' :: [','].intercalate (sig.params.map fun p => p.fields.flatten) ++ [')'] := by
  have hparams : sig.params.map Param.inkChars = sig.params.map fun p => p.fields.flatten := by
    simp [Param.inkChars, Param.fields]
  rw [inkChars, hparams, Declaration.fields, declaration]
  cases sig.modifier <;> simp

/-- **A mark is in the fields as often as in the text**, but for the pair around the list. -/
lemma count_of_parse {text : String} {sig : Signature} (h : parse text = .ok sig) {c : Char}
    (hblank : isBlank c = false) (hcomma : c ≠ ',') :
    text.toList.count c = sig.fields.flatten.count c + ['(', ')'].count c := by
  have hink : ink text.toList = sig.inkChars := by
    rw [← ink_kept h, toList_text, (wellFormed_of_parse h).ink_chars]
  have hcount : (ink text.toList).count c = text.toList.count c :=
    List.count_filter (by rw [hblank]; rfl)
  have hsep : c ∉ [','] := by simpa using hcomma
  have hparams : (sig.params.flatMap Param.fields).flatten =
      (sig.params.map fun p => p.fields.flatten).flatten := by
    rw [List.flatMap_def, List.flatten_flatten, List.map_map]
    rfl
  rw [← hcount, hink, inkChars_eq, fields, List.flatten_append, hparams]
  simp only [List.count_append, List.count_cons, count_intercalate hsep, List.count_nil]
  omega

/-- The fields before the parameters have no opening parenthesis. -/
lemma WellFormed.opening_not_mem_fields {sig : Signature} (h : sig.WellFormed) :
    ∀ field ∈ sig.declaration.fields, '(' ∉ field := by
  obtain ⟨hmodifier, hreturnType, hname, -⟩ := h
  intro field hfield
  simp only [declaration, Declaration.fields, List.mem_append, Option.mem_toList,
    Option.map_eq_some_iff, List.mem_cons, List.not_mem_nil, or_false] at hfield
  rcases hfield with ⟨m, hm, rfl⟩ | rfl | rfl
  · exact (hmodifier m hm).2
  · exact hreturnType.2
  · exact hname.2

end Signature

/-- **Extra parentheses are read.**  This text has one in its name and one in each field of its
parameter.  So neither are all such texts refused, nor are the fields of what is read free of
parentheses. -/
theorem extra_parentheses_are_read :
    let sig : Signature := ⟨none, "int", "f)", [⟨"a(", "b)"⟩]⟩
    HasExtra "int f)(a( b))".toList ∧ Signature.parse "int f)(a( b))" = .ok sig ∧
    ¬ (∀ text : String, HasExtra text.toList →
      ∃ defect, Signature.parse text = .error (.malformed text defect)) ∧
    ¬ (∀ text sig, Signature.parse text = .ok sig →
      ∀ field ∈ sig.fields, '(' ∉ field ∧ ')' ∉ field) := by
  intro sig
  have hextra : HasExtra "int f)(a( b))".toList := by decide
  have hread : Signature.parse "int f)(a( b))" = .ok sig := by rfl
  refine ⟨hextra, hread, ?_, ?_⟩
  · intro h
    obtain ⟨defect, herror⟩ := h _ hextra
    rw [hread] at herror
    cases herror
  · intro h
    exact (h _ _ hread "f)".toList (by decide)).2 (by decide)

/-- **Extra parentheses stand in words.**  A text is refused exactly when it lacks the shape of a
signature, and how many parentheses it has is no part of that.  When it is read, all of them but one
pair are in the fields, no opening one before the parameters.  So a text that is read has extra
parentheses exactly when some field has a parenthesis. -/
theorem extra_parentheses_stand_in_words (text : String) :
    ((∃ defect, Signature.parse text = .error (.malformed text defect)) ↔
      ¬ Shaped text.toList) ∧
    ∀ sig, Signature.parse text = .ok sig →
      (∀ field ∈ sig.declaration.fields, '(' ∉ field) ∧
      text.toList.count '(' = (sig.params.flatMap Param.fields).flatten.count '(' + 1 ∧
      text.toList.count ')' = sig.fields.flatten.count ')' + 1 ∧
      (HasExtra text.toList ↔ ∃ field ∈ sig.fields, '(' ∈ field ∨ ')' ∈ field) := by
  constructor
  · rw [← Signature.exists_parse_iff_shaped]
    cases hparse : Signature.parse text with
    | ok sig => simp
    | error fault =>
        obtain ⟨defect, -, rfl⟩ := Signature.parse_eq_error_iff.1 hparse
        simp
  · intro sig h
    have hleading := (Signature.wellFormed_of_parse h).opening_not_mem_fields
    have hopening : text.toList.count '(' = sig.fields.flatten.count '(' + 1 :=
      Signature.count_of_parse h (by decide) (by decide)
    have hclosing : text.toList.count ')' = sig.fields.flatten.count ')' + 1 :=
      Signature.count_of_parse h (by decide) (by decide)
    refine ⟨hleading, ?_, hclosing, ?_⟩
    · have hnone : '(' ∉ sig.declaration.fields.flatten := by
        intro hmem
        obtain ⟨field, hfield, hmem⟩ := List.mem_flatten.1 hmem
        exact hleading field hfield hmem
      rw [hopening, Signature.fields, List.flatten_append, List.count_append,
        List.count_eq_zero_of_not_mem hnone, Nat.zero_add]
    · have hextra : ∀ c, 1 < sig.fields.flatten.count c + 1 ↔ ∃ field ∈ sig.fields, c ∈ field := by
        intro c
        rw [← List.mem_flatten, ← List.count_pos_iff]
        omega
      simp only [HasExtra, hopening, hclosing, hextra, and_or_left, exists_or]

/-- All five fields of the first text have extra parentheses.  The others have some that leave no
word where one should be: a closing one behind an empty list, and an opening one too early. -/
theorem parentheses_of_five_fields :
    let sig : Signature := ⟨some "p)", "t)", "g)", [⟨"x(", "y)"⟩, ⟨"(u", "(v)"⟩]⟩
    let text := " p) t) g)( x( y) ,(u (v)) "
    Signature.parse text = .ok sig ∧ Shaped text.toList ∧
    (∀ field ∈ sig.declaration.fields, '(' ∉ field) ∧
    text.toList.count '(' = (sig.params.flatMap Param.fields).flatten.count '(' + 1 ∧
    text.toList.count ')' = sig.fields.flatten.count ')' + 1 ∧
    (HasExtra text.toList ↔ ∃ field ∈ sig.fields, '(' ∈ field ∨ ')' ∈ field) ∧
    ¬ Shaped "int f() )".toList ∧ ¬ Shaped "int (f(a b)".toList := by
  intro sig text
  have hread : Signature.parse " p) t) g)( x( y) ,(u (v)) " = .ok sig := by rfl
  obtain ⟨hrefused, hfields⟩ := extra_parentheses_stand_in_words text
  have hshaped : Shaped text.toList := by
    by_contra hnot
    obtain ⟨defect, herror⟩ := hrefused.2 hnot
    rw [hread] at herror
    cases herror
  obtain ⟨hleading, hopening, hclosing, hextra⟩ := hfields sig hread
  exact ⟨hread, hshaped, hleading, hopening, hclosing, hextra,
    (extra_parentheses_stand_in_words "int f() )").1.1 ⟨.argumentShape, by rfl⟩,
    (extra_parentheses_stand_in_words "int (f(a b)").1.1 ⟨.declarationWords, by rfl⟩⟩

end Signatures
