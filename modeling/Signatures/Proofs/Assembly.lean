import Mathlib.Data.List.Forall2
import Signatures.Proofs.Layout

/-!
# Texts put together

A text may be put together from parts that come from elsewhere: a declaration and the fragments
between the commas of a parameter list, or the halves of two other texts.  Such a text is read as
its parts are, each one as if it stood alone.

* `assembled` — a declaration with a list of fragments, and `Param.readHalf_fragments_eq_ok_iff`,
  `Param.readHalf_fragments_eq_error_iff`, what that list is read as.
* **`fragments_are_params`** — the fragments are the parameters, in their order.  One blank fragment
  is an empty list; this is the only exception.
* `crossed` — one text up to its first opening parenthesis and another one from there on.
* **`halves_do_not_mix`** — the declaration is that of the first text and the parameters are those
  of the second, and so is what is wrong with either.
-/

namespace Signatures

/-! ## A declaration and fragments -/

/-- The text of a declaration and of a parameter list with certain fragments between its commas. -/
def assembled (before : List Char) (fragments : List (List Char)) : String :=
  String.ofList (before ++ '(' :: ([','].intercalate fragments ++ [')']))

namespace Param

section Fragments

variable {fragments : List (List Char)} (hne : fragments ≠ []) (hcomma : ∀ f ∈ fragments, ',' ∉ f)

include hne hcomma

lemma pieces_intercalate : pieces ([','].intercalate fragments) = fragments.map words := by
  rw [pieces, List.splitOn_intercalate ',' hcomma hne]

/-- **Only one fragment can make a blank list**, and only if it is blank itself. -/
lemma allBlank_intercalate_iff :
    allBlank ([','].intercalate fragments) = true ↔
      ∃ f, fragments = [f] ∧ allBlank f = true := by
  rw [allBlank_iff_pieces, pieces_intercalate hne hcomma, List.map_eq_singleton_iff]
  simp only [words_eq_nil_iff]

lemma readHalf_fragments_of_blank (h : ∃ f, fragments = [f] ∧ allBlank f = true) :
    readHalf ([','].intercalate fragments ++ [')']) = .ok [] := by
  refine readHalf_eq_ok_iff.2 ⟨_, body?_append allBlank_nil, ?_⟩
  exact readAll?_of_allBlank ((allBlank_intercalate_iff hne hcomma).2 h)

variable (h : ¬ ∃ f, fragments = [f] ∧ allBlank f = true)

include h

lemma readAll?_fragments :
    readAll? ([','].intercalate fragments) = (fragments.map words).mapM ofWords? := by
  have hblank : allBlank ([','].intercalate fragments) = false := by
    rw [← Bool.not_eq_true, allBlank_intercalate_iff hne hcomma]
    exact h
  rw [readAll?_of_not_allBlank hblank, pieces_intercalate hne hcomma]

/-- The words of the fragments are the fields of the parameters. -/
lemma readHalf_fragments_eq_ok_iff {params : List Param} :
    readHalf ([','].intercalate fragments ++ [')']) = .ok params ↔
      fragments.map words = params.map fields := by
  rw [readHalf_eq_ok_iff, body?_append allBlank_nil]
  simp only [Option.some.injEq, exists_eq_left', readAll?_fragments hne hcomma h,
    mapM_ofWords?_eq_some_iff]

lemma readHalf_fragments_eq_error_iff {defect : Defect} :
    readHalf ([','].intercalate fragments ++ [')']) = .error defect ↔
      defect = .argumentShape ∧ ∃ f ∈ fragments, (words f).length ≠ 2 := by
  rw [readHalf_eq_error_iff, body?_append allBlank_nil]
  simp [readAll?_fragments hne hcomma h, mapM_eq_none_iff, ofWords?_eq_none_iff, and_comm]

/-- **Fragments are read when each of them has two words**, and only then. -/
lemma exists_readHalf_fragments_iff :
    (∃ params, readHalf ([','].intercalate fragments ++ [')']) = .ok params) ↔
      ∀ f ∈ fragments, (words f).length = 2 := by
  cases hread : readHalf ([','].intercalate fragments ++ [')']) with
  | error defect =>
      obtain ⟨-, f, hf, hlength⟩ := (readHalf_fragments_eq_error_iff hne hcomma h).1 hread
      simpa using ⟨f, hf, hlength⟩
  | ok params =>
      have hwords := (readHalf_fragments_eq_ok_iff hne hcomma h).1 hread
      refine ⟨fun _ f hf => ?_, fun _ => ⟨params, rfl⟩⟩
      obtain ⟨p, -, hp⟩ := List.mem_map.1 (hwords ▸ List.mem_map_of_mem hf)
      rw [← hp]
      rfl

end Fragments

section Places

variable {fragments : List (List Char)} {params : List Param}
  (h : fragments.map words = params.map fields)

include h

/-- A fragment with the fields of a parameter is not blank. -/
lemma not_blank_of_map_words_eq : ¬ ∃ f, fragments = [f] ∧ allBlank f = true := by
  rintro ⟨f, rfl, hf⟩
  rw [List.map_singleton, words_of_allBlank hf] at h
  cases params <;> simp [fields] at h

lemma words_eq_fields_of_mem_zip {pair : List Char × Param} (hpair : pair ∈ fragments.zip params) :
    words pair.1 = pair.2.fields := by
  have hall : List.Forall₂ (fun f p => words f = fields p) fragments params := by
    refine List.forall₂_map_left_iff.1 (List.forall₂_map_right_iff.1 ?_)
    rw [List.forall₂_eq_eq_eq]
    exact h
  exact (List.forall₂_iff_zip.1 hall).2 hpair

/-- **Where fragments change places, the parameters do so too.** -/
lemma readHalf_of_perm_zip (hne : fragments ≠ []) (hcomma : ∀ f ∈ fragments, ',' ∉ f)
    {pairs : List (List Char × Param)} (hperm : pairs.Perm (fragments.zip params)) :
    readHalf ([','].intercalate (pairs.map Prod.fst) ++ [')']) = .ok (pairs.map Prod.snd) := by
  have hwords : (pairs.map Prod.fst).map words = (pairs.map Prod.snd).map fields := by
    rw [List.map_map, List.map_map]
    exact List.map_congr_left fun pair hpair =>
      words_eq_fields_of_mem_zip h (hperm.mem_iff.1 hpair)
  have hlength : fragments.length = params.length := by simpa using congrArg List.length h
  have hne' : pairs.map Prod.fst ≠ [] := by
    rw [← List.length_pos_iff] at hne ⊢
    rw [List.length_map, hperm.length_eq, List.length_zip, ← hlength, Nat.min_self]
    exact hne
  have hcomma' : ∀ f ∈ pairs.map Prod.fst, ',' ∉ f :=
    List.forall_mem_map.2 fun pair hpair => hcomma _ (List.of_mem_zip (hperm.mem_iff.1 hpair)).1
  exact (readHalf_fragments_eq_ok_iff hne' hcomma' (not_blank_of_map_words_eq hwords)).2 hwords

end Places

end Param

namespace Signature

section Halves

variable {before after : List Char} (h : '(' ∉ before)

include h

lemma parse_append_eq_ok_iff {sig : Signature} :
    parse (String.ofList (before ++ '(' :: after)) = .ok sig ↔ ∃ d params,
      Declaration.readHalf before = .ok d ∧ Param.readHalf after = .ok params ∧
      sig = d.signature params := by
  rw [parse_eq_ok_iff, String.toList_ofList, read_append_eq_ok_iff h]

/-- A report on a text that was put together shows that text. -/
lemma parse_append_eq_malformed_iff {defect : Defect} :
    let text := String.ofList (before ++ '(' :: after)
    parse text = .error (.malformed text defect) ↔
      Declaration.readHalf before = .error defect ∨
        (∃ d, Declaration.readHalf before = .ok d) ∧ Param.readHalf after = .error defect := by
  intro text
  rw [parse_eq_error_iff, String.toList_ofList]
  simp [read_append_eq_error_iff h]

end Halves

end Signature

/-- **The fragments are the parameters.**  A single blank fragment stands for none.  In any other
case a text is read when all its fragments have two words, and these are the fields of as many
parameters, in order; so where the fragments change places, the parameters do.  A fragment with
another number of words is a defect of the whole. -/
theorem fragments_are_params {before : List Char} {fragments : List (List Char)}
    (hopen : '(' ∉ before) (hfits : Declaration.Fits before) (hne : fragments ≠ [])
    (hcomma : ∀ f ∈ fragments, ',' ∉ f) :
    let text := assembled before fragments
    let blank := ∃ f, fragments = [f] ∧ allBlank f = true
    (blank → ∃ sig, Signature.parse text = .ok sig ∧ sig.params = []) ∧
    (¬ blank →
      ((∃ sig, Signature.parse text = .ok sig) ↔ ∀ f ∈ fragments, (words f).length = 2) ∧
      (∀ sig, Signature.parse text = .ok sig →
        fragments.map words = sig.params.map Param.fields ∧
        ∀ pairs : List (List Char × Param), pairs.Perm (fragments.zip sig.params) →
          Signature.parse (assembled before (pairs.map Prod.fst)) =
            .ok { sig with params := pairs.map Prod.snd }) ∧
      ((∃ f ∈ fragments, (words f).length ≠ 2) →
        Signature.parse text = .error (.malformed text .argumentShape))) := by
  intro text blank
  obtain ⟨d, hd⟩ := Declaration.exists_readHalf_iff.2 hfits
  refine ⟨?_, ?_⟩
  · intro hblank
    refine ⟨d.signature [], ?_, rfl⟩
    exact (Signature.parse_append_eq_ok_iff hopen).2
      ⟨d, [], hd, Param.readHalf_fragments_of_blank hne hcomma hblank, rfl⟩
  · intro hblank
    refine ⟨?_, ?_, ?_⟩
    · rw [← Param.exists_readHalf_fragments_iff hne hcomma hblank]
      simp only [text, assembled, Signature.parse_append_eq_ok_iff hopen, hd]
      simp
    · intro sig hsig
      obtain ⟨d, params, hd, hparams, rfl⟩ := (Signature.parse_append_eq_ok_iff hopen).1 hsig
      have hwords := (Param.readHalf_fragments_eq_ok_iff hne hcomma hblank).1 hparams
      refine ⟨hwords, fun pairs hperm => ?_⟩
      exact (Signature.parse_append_eq_ok_iff hopen).2
        ⟨d, _, hd, Param.readHalf_of_perm_zip hwords hne hcomma hperm, rfl⟩
    · intro hbad
      refine (Signature.parse_append_eq_malformed_iff hopen).2 (Or.inr ⟨⟨d, hd⟩, ?_⟩)
      exact (Param.readHalf_fragments_eq_error_iff hne hcomma hblank).2 ⟨rfl, hbad⟩

/-- Parentheses in the fragments count for nothing, and a blank fragment among others does. -/
theorem fragments_change_places :
    let before := " int\tf,)".toList
    let fragments := [" a( b) ".toList, "c\td)(".toList]
    '(' ∉ before ∧ Declaration.Fits before ∧ (∀ f ∈ fragments, ',' ∉ f) ∧
      Signature.parse (assembled before fragments) =
        .ok ⟨none, "int", "f,)", [⟨"a(", "b)"⟩, ⟨"c", "d)("⟩]⟩ ∧
      Signature.parse (assembled before fragments.reverse) =
        .ok ⟨none, "int", "f,)", [⟨"c", "d)("⟩, ⟨"a(", "b)"⟩]⟩ ∧
      Signature.parse (assembled before ([' '] :: fragments)) =
        .error (.malformed (assembled before ([' '] :: fragments)) .argumentShape) ∧
      ∃ sig, Signature.parse (assembled before [[' ']]) = .ok sig ∧ sig.params = [] := by
  intro before fragments
  have hopen : '(' ∉ before := by decide
  have hfits : Declaration.Fits before := by decide
  have hcomma : ∀ f ∈ fragments, ',' ∉ f := by decide
  have hread : Signature.parse (assembled before fragments) =
      .ok ⟨none, "int", "f,)", [⟨"a(", "b)"⟩, ⟨"c", "d)("⟩]⟩ := by
    rw [Signature.parse_eq_ok_iff, assembled, String.toList_ofList]
    rfl
  obtain ⟨-, hfragments⟩ := fragments_are_params hopen hfits (by decide) hcomma
  obtain ⟨-, hplaces, -⟩ := hfragments (by simp [fragments])
  obtain ⟨-, hbad⟩ := @fragments_are_params before ([' '] :: fragments) hopen hfits (by decide)
    (by decide)
  obtain ⟨-, -, hshape⟩ := hbad (by simp [fragments])
  obtain ⟨hempty, -⟩ := @fragments_are_params before [[' ']] hopen hfits (by decide) (by decide)
  refine ⟨hopen, hfits, hcomma, hread, ?_, ?_, ?_⟩
  · exact (hplaces _ hread).2 [(_, ⟨"c", "d)("⟩), (_, ⟨"a(", "b)"⟩)] (.swap ..)
  · exact hshape ⟨[' '], List.mem_cons_self, by decide⟩
  · exact hempty ⟨[' '], rfl, by decide⟩

/-! ## Two texts -/

/-- The first text up to its first opening parenthesis, and the second one from there on. -/
def crossed (first second : List Char) : List Char :=
  first.takeWhile (· != '(') ++ second.dropWhile (· != '(')

lemma crossed_append {before before' : List Char} (h : '(' ∉ before) (h' : '(' ∉ before')
    (after after' : List Char) :
    crossed (before ++ '(' :: after) (before' ++ '(' :: after') = before ++ '(' :: after' := by
  have hpos : ∀ {cs : List Char}, '(' ∉ cs → ∀ c ∈ cs, (c != '(') = true := by
    rintro cs hcs c hc
    simp only [bne_iff_ne]
    rintro rfl
    exact hcs hc
  rw [crossed, List.takeWhile_append_of_pos (hpos h), List.dropWhile_append_of_pos (hpos h')]
  simp

/-- **The halves of a signature do not mix.**  A text that has the first half of one text and the
second half of another is read as the declaration of the one with the parameters of the other.  A
defect of the first half is its defect whatever stands behind it, and one of the second half is if
the first half has none. -/
theorem halves_do_not_mix {text₁ text₂ : String} (h₁ : '(' ∈ text₁.toList)
    (h₂ : '(' ∈ text₂.toList) :
    let text := String.ofList (crossed text₁.toList text₂.toList)
    (∀ sig₁ sig₂, Signature.parse text₁ = .ok sig₁ → Signature.parse text₂ = .ok sig₂ →
      Signature.parse text = .ok { sig₁ with params := sig₂.params }) ∧
    (Signature.parse text₁ = .error (.malformed text₁ .declarationWords) →
      Signature.parse text = .error (.malformed text .declarationWords)) ∧
    ∀ sig₁ defect, Signature.parse text₁ = .ok sig₁ →
      defect = .noClosing ∨ defect = .argumentShape →
      Signature.parse text₂ = .error (.malformed text₂ defect) →
      Signature.parse text = .error (.malformed text defect) := by
  obtain ⟨before₁, after₁, htext₁, hb₁⟩ := List.eq_append_cons_of_mem h₁
  obtain ⟨before₂, after₂, htext₂, hb₂⟩ := List.eq_append_cons_of_mem h₂
  obtain rfl : text₁ = String.ofList (before₁ ++ '(' :: after₁) := by
    rw [← htext₁, String.ofList_toList]
  obtain rfl : text₂ = String.ofList (before₂ ++ '(' :: after₂) := by
    rw [← htext₂, String.ofList_toList]
  intro text
  have htext : text = String.ofList (before₁ ++ '(' :: after₂) := by
    simp only [text, String.toList_ofList, crossed_append hb₁ hb₂]
  rw [htext]
  refine ⟨?_, ?_, ?_⟩
  · intro sig₁ sig₂ hread₁ hread₂
    obtain ⟨d₁, params₁, hd₁, -, rfl⟩ := (Signature.parse_append_eq_ok_iff hb₁).1 hread₁
    obtain ⟨d₂, params₂, -, hp₂, rfl⟩ := (Signature.parse_append_eq_ok_iff hb₂).1 hread₂
    exact (Signature.parse_append_eq_ok_iff hb₁).2 ⟨d₁, params₂, hd₁, hp₂, rfl⟩
  · intro hread₁
    refine (Signature.parse_append_eq_malformed_iff hb₁).2 (Or.inl ?_)
    rcases (Signature.parse_append_eq_malformed_iff hb₁).1 hread₁ with hd₁ | ⟨-, hp₁⟩
    · exact hd₁
    · -- the second half has no such defect
      rcases Param.readHalf_eq_error_iff.1 hp₁ with ⟨-, hdefect⟩ | ⟨_, -, -, hdefect⟩
      · cases hdefect
      · cases hdefect
  · intro sig₁ defect hread₁ hdefect hread₂
    obtain ⟨d₁, params₁, hd₁, -, -⟩ := (Signature.parse_append_eq_ok_iff hb₁).1 hread₁
    refine (Signature.parse_append_eq_malformed_iff hb₁).2 (Or.inr ⟨⟨d₁, hd₁⟩, ?_⟩)
    rcases (Signature.parse_append_eq_malformed_iff hb₂).1 hread₂ with hd₂ | ⟨-, hp₂⟩
    · -- nor has the first one any other
      obtain ⟨-, rfl⟩ := Declaration.readHalf_eq_error_iff.1 hd₂
      rcases hdefect with hdefect | hdefect <;> cases hdefect
    · exact hp₂

/-- The first text has parentheses and a comma before its list, the second one more of them in it.
Then the first half has too many words, or the second one does not end where its list does. -/
theorem halves_change_hands :
    Signature.parse "public a,b f)((u v)" = .ok ⟨some "public", "a,b", "f)", [⟨"(u", "v"⟩]⟩ ∧
      Signature.parse "int g(p( q), r s))" =
        .ok ⟨none, "int", "g", [⟨"p(", "q)"⟩, ⟨"r", "s)"⟩]⟩ ∧
      Signature.parse "public a,b f)(p( q), r s))" =
        .ok ⟨some "public", "a,b", "f)", [⟨"p(", "q)"⟩, ⟨"r", "s)"⟩]⟩ ∧
      Signature.parse "one two three four(p q) ;" =
        .error (.malformed "one two three four(p q) ;" .declarationWords) ∧
      Signature.parse "public a,b f)(p q) ;" =
        .error (.malformed "public a,b f)(p q) ;" .noClosing) := by
  have hfirst : Signature.parse "public a,b f)((u v)" =
      .ok ⟨some "public", "a,b", "f)", [⟨"(u", "v"⟩]⟩ := by rfl
  have hsecond : Signature.parse "int g(p( q), r s))" =
      .ok ⟨none, "int", "g", [⟨"p(", "q)"⟩, ⟨"r", "s)"⟩]⟩ := by rfl
  have hwords : Signature.parse "one two three four(u v)" =
      .error (.malformed "one two three four(u v)" .declarationWords) := by rfl
  have hend : Signature.parse "int g(p q) ;" = .error (.malformed "int g(p q) ;" .noClosing) := by
    rfl
  obtain ⟨hok, -, -⟩ := @halves_do_not_mix "public a,b f)((u v)" "int g(p( q), r s))"
    (by decide) (by decide)
  obtain ⟨-, hdeclaration, -⟩ := @halves_do_not_mix "one two three four(u v)" "int g(p q) ;"
    (by decide) (by decide)
  obtain ⟨-, -, hparams⟩ := @halves_do_not_mix "public a,b f)((u v)" "int g(p q) ;"
    (by decide) (by decide)
  exact ⟨hfirst, hsecond, hok _ _ hfirst hsecond, hdeclaration hwords,
    hparams _ _ hfirst (Or.inl rfl) hend⟩

end Signatures
