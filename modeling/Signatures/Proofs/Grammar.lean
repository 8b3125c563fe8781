import Mathlib.Data.List.Forall2
import Mathlib.Tactic.Lemma
import Signatures.Proofs.Halves

/-!
# Reading and the grammar of signatures

A `Spelling` writes a signature down piece by piece; `Signature.read` cuts and searches.  The two
agree, in three steps that are proved first for parameters, then for bodies, then for whole texts.

* `Spelling.Valid.read_chars` — what is spelled validly is read as what it spells.
* `Spelling.exists_of_read` — whatever is read has a valid spelling.
* `Spelling.Valid.eq_of_chars_eq` — no text has two valid spellings.

Together they say that the reader is sound, complete and unambiguous: `parse_eq_ok_iff_spelled`.
Nothing else about the order of cutting is needed, because every mark that is cut at (the first
opening parenthesis, the last closing one, the commas between) is found from the outside in, and a
valid piece lacks exactly the mark that would have been found too early.
-/

namespace Signatures

/-- Lists with equal images correspond, if any two members with equal images do. -/
lemma forall₂_of_map_eq {α β : Type} {f : α → β} {p : α → Prop} {r : α → α → Prop}
    (hr : ∀ a b, p a → p b → f a = f b → r a b) {as bs : List α} (ha : ∀ a ∈ as, p a)
    (hb : ∀ b ∈ bs, p b) (h : as.map f = bs.map f) : List.Forall₂ r as bs := by
  induction as generalizing bs with
  | nil =>
      cases bs with
      | nil => exact .nil
      | cons b bs => cases h
  | cons a as ih =>
      cases bs with
      | nil => cases h
      | cons b bs =>
          simp only [List.map_cons, List.cons.injEq] at h
          obtain ⟨ha, has⟩ := List.forall_mem_cons.1 ha
          obtain ⟨hb, hbs⟩ := List.forall_mem_cons.1 hb
          exact .cons (hr a b ha hb h.1) (ih has hbs h.2)

/-! ## Parameters -/

namespace Param.Spelling

variable {p q : Param.Spelling}

lemma Valid.words_chars (h : p.Valid) : words p.chars = [p.type, p.name] := by
  refine words_eq_pair_iff.2 ⟨p.lead, p.gap, p.trail, ?_, h.lead, h.type.1, h.gap, h.name.1,
    h.trail⟩
  simp only [chars, List.append_assoc]

lemma Valid.read?_chars (h : p.Valid) : Param.read? p.chars = some p.param := by
  rw [Param.read?, h.words_chars]
  rfl

lemma Valid.comma_not_mem (h : p.Valid) : ',' ∉ p.chars := by
  simp only [chars, List.mem_append, not_or]
  exact ⟨⟨⟨⟨comma_not_mem_of_allBlank h.lead, h.type.2⟩, comma_not_mem_of_allBlank h.gap.2⟩,
    h.name.2⟩, comma_not_mem_of_allBlank h.trail⟩

lemma Valid.not_allBlank (h : p.Valid) : allBlank p.chars = false := by
  cases hb : allBlank p.chars with
  | false => rfl
  | true =>
      have hw := h.words_chars
      rw [words_of_allBlank hb] at hw
      cases hw

/-- A text without commas that reads as a parameter spells it. -/
lemma exists_of_read? {cs : List Char} {r : Param} (h : Param.read? cs = some r)
    (hc : ',' ∉ cs) : ∃ p : Param.Spelling, p.Valid ∧ p.chars = cs ∧ p.param = r := by
  obtain ⟨t, n, hw, rfl⟩ := ofWords?_eq_some_iff.1 h
  obtain ⟨lead, gap, trail, rfl, hlead, ht, hgap, hn, htrail⟩ := words_eq_pair_iff.1 hw
  simp only [List.mem_append, not_or] at hc
  obtain ⟨-, hct, -, hcn, -⟩ := hc
  refine ⟨⟨lead, t, gap, n, trail⟩, ⟨hlead, ⟨ht, hct⟩, hgap, ⟨hn, hcn⟩, htrail⟩, ?_, rfl⟩
  simp only [chars, List.append_assoc]

lemma Valid.eq_of_chars_eq (hp : p.Valid) (hq : q.Valid) (h : p.chars = q.chars) : p = q := by
  simp only [chars, List.append_assoc] at h
  obtain ⟨h₁, h₂, h₃, h₄, h₅⟩ := pair_inj hp.lead hq.lead hp.type.1 hq.type.1 hp.gap hq.gap
    hp.name.1 hq.name.1 hp.trail hq.trail h
  cases p
  cases q
  simp_all only

/-- Several texts without commas that read as parameters spell them, one by one. -/
lemma exists_of_map_read? {css : List (List Char)} {rs : List Param}
    (h : css.map Param.read? = rs.map some) (hc : ∀ cs ∈ css, ',' ∉ cs) :
    ∃ ps : List Param.Spelling, (∀ p ∈ ps, p.Valid) ∧ ps.map (·.chars) = css ∧
      ps.map (·.param) = rs := by
  induction css generalizing rs with
  | nil =>
      cases rs with
      | nil => exact ⟨[], fun p hp => absurd hp List.not_mem_nil, rfl, rfl⟩
      | cons r rs => cases h
  | cons cs css ih =>
      cases rs with
      | nil => cases h
      | cons r rs =>
          simp only [List.map_cons, List.cons.injEq] at h
          obtain ⟨p, hp, rfl, rfl⟩ := exists_of_read? h.1 (hc cs List.mem_cons_self)
          obtain ⟨ps, hps, rfl, rfl⟩ := ih h.2 fun cs hcs => hc cs (List.mem_cons_of_mem _ hcs)
          exact ⟨p :: ps, List.forall_mem_cons.2 ⟨hp, hps⟩, rfl, rfl⟩

lemma eq_of_map_chars_eq {ps qs : List Param.Spelling} (hp : ∀ p ∈ ps, p.Valid)
    (hq : ∀ q ∈ qs, q.Valid) (h : ps.map (·.chars) = qs.map (·.chars)) : ps = qs := by
  rw [← List.forall₂_eq_eq_eq]
  exact forall₂_of_map_eq (fun _ _ hp hq => hp.eq_of_chars_eq hq) hp hq h

end Param.Spelling

/-! ## Bodies -/

namespace Body

variable {first : Param.Spelling} {others : List Param.Spelling} {a b : Body}

/-- The commas of a valid body are those between its parameters. -/
lemma splitOn_chars (h : (params first others).Valid) :
    (params first others).chars.splitOn ',' = (first :: others).map (·.chars) := by
  refine List.splitOn_intercalate ',' ?_ (List.cons_ne_nil _ _)
  intro cs hcs
  obtain ⟨p, hp, rfl⟩ := List.mem_map.1 hcs
  exact (h p hp).comma_not_mem

lemma not_allBlank_chars (h : (params first others).Valid) :
    allBlank (params first others).chars = false := by
  have hfirst : allBlank first.chars = false := (h first List.mem_cons_self).not_allBlank
  cases others with
  | nil => simpa [chars] using hfirst
  | cons p others => simp [chars, List.intercalate_cons_cons, hfirst]

lemma readAll?_chars (h : b.Valid) : Param.readAll? b.chars = some b.toParams := by
  cases b with
  | blank blanks => exact Param.readAll?_of_allBlank h
  | params first others =>
      rw [Param.readAll?_of_not_allBlank (not_allBlank_chars h), mapM_eq_some_iff, Param.pieces,
        splitOn_chars h, toParams, List.map_map, List.map_map, List.map_map]
      exact List.map_congr_left fun p hp => (h p hp).read?_chars

lemma exists_of_readAll? {cs : List Char} {rs : List Param}
    (h : Param.readAll? cs = some rs) : ∃ b : Body, b.Valid ∧ b.chars = cs ∧ b.toParams = rs := by
  cases hcs : allBlank cs with
  | true =>
      rw [Param.readAll?_of_allBlank hcs] at h
      cases h
      exact ⟨blank cs, hcs, rfl, rfl⟩
  | false =>
      rw [Param.readAll?_of_not_allBlank hcs, mapM_eq_some_iff, Param.pieces, List.map_map] at h
      obtain ⟨ps, hps, hchars, rfl⟩ :=
        Param.Spelling.exists_of_map_read? h fun piece => not_mem_of_mem_splitOn
      cases ps with
      | nil => exact absurd hchars.symm (List.splitOn_ne_nil _ _)
      | cons first others =>
          refine ⟨params first others, hps, ?_, rfl⟩
          rw [chars, hchars, List.intercalate_splitOn]

lemma Valid.eq_of_chars_eq (ha : a.Valid) (hb : b.Valid) (h : a.chars = b.chars) : a = b := by
  cases a with
  | blank blanks =>
      cases b with
      | blank blanks' => exact congrArg blank h
      | params first others =>
          have hno := not_allBlank_chars hb
          rw [← h, chars, show allBlank blanks = true from ha] at hno
          cases hno
  | params first others =>
      cases b with
      | blank blanks =>
          have hno := not_allBlank_chars ha
          rw [h, chars, show allBlank blanks = true from hb] at hno
          cases hno
      | params first' others' =>
          have hsplit := congrArg (List.splitOn ',') h
          rw [splitOn_chars ha, splitOn_chars hb] at hsplit
          obtain ⟨rfl, rfl⟩ := List.cons.inj (Param.Spelling.eq_of_map_chars_eq ha hb hsplit)
          rfl

end Body

/-! ## Whole texts -/

namespace Spelling

variable {s t : Spelling}

/-- The declaration half of what a spelling spells. -/
def declaration (s : Spelling) : Declaration :=
  ⟨s.modifier.map fun (word, _) => String.ofList word, String.ofList s.returnType,
    String.ofList s.name⟩

lemma chars_eq_halves (s : Spelling) :
    s.chars = s.declarationChars ++ '(' :: (s.body.chars ++ ')' :: s.trail) := by
  simp only [chars, List.append_assoc, List.cons_append]

lemma Valid.opening_not_mem (h : s.Valid) : '(' ∉ s.declarationChars := by
  have hmodifier : '(' ∉ s.modifierChars := by
    rw [modifierChars]
    cases hm : s.modifier with
    | none => exact List.not_mem_nil
    | some m =>
        obtain ⟨hword, hgap⟩ := h.modifier m hm
        exact List.not_mem_append hword.2 (opening_not_mem_of_allBlank hgap.2)
  simp only [declarationChars, List.mem_append, not_or]
  exact ⟨⟨⟨⟨⟨opening_not_mem_of_allBlank h.lead, hmodifier⟩, h.returnType.2⟩,
    opening_not_mem_of_allBlank h.gap.2⟩, h.name.2⟩, opening_not_mem_of_allBlank h.beforeOpening⟩

/-- The words of a valid declaration: the modifier, if any, the return type and the name. -/
lemma Valid.words_declarationChars (h : s.Valid) :
    words s.declarationChars = (s.modifier.map Prod.fst).toList ++ [s.returnType, s.name] := by
  simp only [declarationChars, modifierChars, List.append_assoc]
  cases hm : s.modifier with
  | none =>
      exact words_eq_pair_iff.2 ⟨s.lead, s.gap, s.beforeOpening, rfl, h.lead, h.returnType.1,
        h.gap, h.name.1, h.beforeOpening⟩
  | some m =>
      obtain ⟨hword, hgap⟩ := h.modifier m hm
      simp only [List.append_assoc]
      rw [words_peel h.lead hword.1 (hgap.endsWord_append _)]
      refine congrArg (m.1 :: ·) (words_eq_pair_iff.2 ?_)
      exact ⟨m.2, s.gap, s.beforeOpening, rfl, hgap.2, h.returnType.1, h.gap, h.name.1,
        h.beforeOpening⟩

lemma Valid.readHalf_declarationChars (h : s.Valid) :
    Declaration.readHalf s.declarationChars = .ok s.declaration := by
  refine Declaration.readHalf_eq_ok_iff.2 ?_
  rw [h.words_declarationChars, declaration]
  cases s.modifier with
  | none => exact Or.inr ⟨s.returnType, s.name, rfl, rfl⟩
  | some m => exact Or.inl ⟨m.1, s.returnType, s.name, rfl, rfl⟩

/-- **Completeness**: what is spelled validly is read as what it spells. -/
theorem Valid.read_chars (h : s.Valid) : Signature.read s.chars = .ok s.signature := by
  refine Signature.read_eq_ok_iff.2 ⟨_, _, s.declaration, s.body.toParams, s.chars_eq_halves,
    h.opening_not_mem, h.readHalf_declarationChars, ?_, rfl⟩
  exact Param.readHalf_eq_ok_iff.2 ⟨_, Param.body?_append h.trail, Body.readAll?_chars h.body⟩

/-- A declaration that is read is spelled, here with nothing between the parentheses. -/
lemma exists_of_readHalf {before : List Char} {d : Declaration}
    (h : Declaration.readHalf before = .ok d) (hopen : '(' ∉ before) :
    ∃ s : Spelling, s.Valid ∧ s.declarationChars = before ∧ s.declaration = d := by
  rcases Declaration.readHalf_eq_ok_iff.1 h with ⟨m, t, n, hw, rfl⟩ | ⟨t, n, hw, rfl⟩
  · obtain ⟨lead, rest, rfl, hlead, hm, hrest, hw⟩ := words_eq_cons_iff.1 hw
    obtain ⟨wide, gap, behind, rfl, hwide, ht, hgap, hn, hbehind⟩ := words_eq_pair_iff.1 hw
    simp only [List.mem_append, not_or] at hopen
    obtain ⟨-, hom, -, hot, -, hon, -⟩ := hopen
    refine ⟨⟨lead, some (m, wide), t, gap, n, behind, .blank [], []⟩,
      ⟨hlead, ?_, ⟨ht, hot⟩, hgap, ⟨hn, hon⟩, hbehind, rfl, rfl⟩, ?_, rfl⟩
    · intro m' hm'
      cases hm'
      exact ⟨⟨hm, hom⟩, isGap_of_endsWord hwide ht hrest⟩
    · simp only [declarationChars, modifierChars, List.append_assoc]
  · obtain ⟨lead, gap, behind, rfl, hlead, ht, hgap, hn, hbehind⟩ := words_eq_pair_iff.1 hw
    simp only [List.mem_append, not_or] at hopen
    obtain ⟨-, hot, -, hon, -⟩ := hopen
    refine ⟨⟨lead, none, t, gap, n, behind, .blank [], []⟩,
      ⟨hlead, ?_, ⟨ht, hot⟩, hgap, ⟨hn, hon⟩, hbehind, rfl, rfl⟩, ?_, rfl⟩
    · intro m' hm'
      cases hm'
    · simp only [declarationChars, modifierChars, List.append_assoc, List.nil_append]

/-- **Soundness**: whatever is read has a valid spelling. -/
theorem exists_of_read {cs : List Char} {sig : Signature} (h : Signature.read cs = .ok sig) :
    ∃ s : Spelling, s.Valid ∧ s.chars = cs ∧ s.signature = sig := by
  obtain ⟨before, after, d, params, rfl, hopen, hd, hp, rfl⟩ := Signature.read_eq_ok_iff.1 h
  obtain ⟨body, hbody, hparams⟩ := Param.readHalf_eq_ok_iff.1 hp
  obtain ⟨trail, htrail, rfl⟩ := Param.body?_eq_some_iff.1 hbody
  obtain ⟨b, hb, rfl, rfl⟩ := Body.exists_of_readAll? hparams
  obtain ⟨s, hs, rfl, rfl⟩ := exists_of_readHalf hd hopen
  -- the two halves are spelled apart from each other
  have hvalid : { s with body := b, trail := trail }.Valid :=
    ⟨hs.lead, hs.modifier, hs.returnType, hs.gap, hs.name, hs.beforeOpening, hb, htrail⟩
  exact ⟨_, hvalid, chars_eq_halves _, rfl⟩

/-- The blanks and words of a declaration are determined by its text. -/
lemma Valid.eq_of_declarationChars_eq (hs : s.Valid) (ht : t.Valid)
    (h : s.declarationChars = t.declarationChars) :
    s.lead = t.lead ∧ s.modifier = t.modifier ∧ s.returnType = t.returnType ∧ s.gap = t.gap ∧
      s.name = t.name ∧ s.beforeOpening = t.beforeOpening := by
  have hwords := congrArg words h
  rw [hs.words_declarationChars, ht.words_declarationChars] at hwords
  simp only [declarationChars, modifierChars, List.append_assoc] at h
  cases hm : s.modifier with
  | none =>
      cases hm' : t.modifier with
      | none =>
          rw [hm, hm'] at h
          obtain ⟨h₁, h₂, h₃, h₄, h₅⟩ := pair_inj hs.lead ht.lead hs.returnType.1
            ht.returnType.1 hs.gap ht.gap hs.name.1 ht.name.1 hs.beforeOpening ht.beforeOpening h
          exact ⟨h₁, rfl, h₂, h₃, h₄, h₅⟩
      | some m =>
          -- two words are not three
          rw [hm, hm'] at hwords
          simpa using congrArg List.length hwords
  | some m =>
      cases hm' : t.modifier with
      | none =>
          rw [hm, hm'] at hwords
          simpa using congrArg List.length hwords
      | some m' =>
          obtain ⟨hword, hgap⟩ := hs.modifier m hm
          obtain ⟨hword', hgap'⟩ := ht.modifier m' hm'
          rw [hm, hm'] at h
          simp only [List.append_assoc] at h
          obtain ⟨h₁, hfst, hrest⟩ := peel_inj hs.lead ht.lead hword.1 hword'.1
            (hgap.endsWord_append _) (hgap'.endsWord_append _) h
          obtain ⟨hsnd, h₂, h₃, h₄, h₅⟩ := pair_inj hgap.2 hgap'.2 hs.returnType.1
            ht.returnType.1 hs.gap ht.gap hs.name.1 ht.name.1 hs.beforeOpening ht.beforeOpening
            hrest
          exact ⟨h₁, congrArg some (Prod.ext hfst hsnd), h₂, h₃, h₄, h₅⟩

/-- **Unambiguity**: no text has two valid spellings. -/
theorem Valid.eq_of_chars_eq (hs : s.Valid) (ht : t.Valid) (h : s.chars = t.chars) : s = t := by
  -- both marks are found again from the outside, the opening one first
  have hcut := congrArg (cutAt? '(') h
  rw [chars_eq_halves, chars_eq_halves, cutAt?_append hs.opening_not_mem,
    cutAt?_append ht.opening_not_mem] at hcut
  simp only [Option.some.injEq, Prod.mk.injEq] at hcut
  obtain ⟨hdeclaration, hafter⟩ := hcut
  have hchars := congrArg Param.body? hafter
  rw [Param.body?_append hs.trail, Param.body?_append ht.trail, Option.some.injEq] at hchars
  have hbody := Body.Valid.eq_of_chars_eq hs.body ht.body hchars
  rw [hbody, List.append_cancel_left_eq, List.cons.injEq] at hafter
  obtain ⟨h₁, h₂, h₃, h₄, h₅, h₆⟩ := hs.eq_of_declarationChars_eq ht hdeclaration
  cases s
  cases t
  simp_all only

end Spelling

/-- **The reader is sound, complete and unambiguous.**  A text is read as a signature exactly when
it is a valid spelling of it, and it is a valid spelling in one way at most. -/
theorem parse_eq_ok_iff_spelled (text : String) :
    (∀ sig, Signature.parse text = .ok sig ↔
      ∃ s : Spelling, s.Valid ∧ s.chars = text.toList ∧ s.signature = sig) ∧
    ∀ s t : Spelling, s.Valid → t.Valid → s.chars = text.toList → t.chars = text.toList →
      s = t := by
  constructor
  · intro sig
    rw [Signature.parse_eq_ok_iff]
    constructor
    · exact Spelling.exists_of_read
    · rintro ⟨s, hs, hchars, rfl⟩
      rw [← hchars]
      exact hs.read_chars
  · intro s t hs ht hst htt
    exact hs.eq_of_chars_eq ht (hst.trans htt.symm)

/-- A text with parentheses in its words and a comma in its declaration, spelled out. -/
theorem crowded_spelling_is_read :
    let s : Spelling :=
      { lead := [' '], modifier := some ("p)".toList, "\t ".toList), returnType := "a,b".toList,
        gap := ['\u3000'], name := ['f'], beforeOpening := [],
        body := .params ⟨[], "T(".toList, [' '], "x)".toList, [' ']⟩
          [⟨['\n'], ['U'], "  ".toList, ['y'], []⟩],
        trail := ['\r'] }
    s.Valid ∧ s.chars = " p)\t a,b\u3000f(T( x) ,\nU  y)\r".toList ∧
      Signature.parse " p)\t a,b\u3000f(T( x) ,\nU  y)\r" =
        .ok ⟨some "p)", "a,b", "f", [⟨"T(", "x)"⟩, ⟨"U", "y"⟩]⟩ := by
  intro s
  have hvalid : s.Valid := by decide
  exact ⟨hvalid, by decide, ((parse_eq_ok_iff_spelled _).1 _).2 ⟨s, hvalid, by decide, by decide⟩⟩

end Signatures
