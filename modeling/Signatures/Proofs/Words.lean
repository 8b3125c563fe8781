import Mathlib.Data.List.TakeWhile
import Mathlib.Tactic.Lemma
import Signatures.Signature.Spelling

/-!
# Where the words of a text lie

`words` is defined by cutting and filtering; what every statement about reading needs is the
opposite view, in which a text is put together from blanks and words.  This file supplies it, in
three groups.

**Blanks leave no trace.**  Blanks at either end change nothing (`words_blanks_append`,
`words_append_blanks`), and a gap keeps the words on its two sides apart (`words_append_gap`).

**Peeling.**  `words_eq_cons_iff` takes the first word off a text together with the blanks before
it.  What is left must begin with a blank or be empty, `EndsWord`: otherwise the word would go on.
Peeling twice gives `words_eq_pair_iff`, the shape of a parameter.

**There is one way to peel.**  `peel_inj` says that blanks, first word and remainder are determined
by the text.
-/

namespace Signatures

/-! ## Blanks -/

@[simp] lemma allBlank_nil : allBlank [] = true := rfl

@[simp] lemma allBlank_cons (c : Char) (cs : List Char) :
    allBlank (c :: cs) = (isBlank c && allBlank cs) := rfl

@[simp] lemma allBlank_append (a b : List Char) :
    allBlank (a ++ b) = (allBlank a && allBlank b) := by
  simp [allBlank]

lemma allBlank_reverse (cs : List Char) : allBlank cs.reverse = allBlank cs := by
  simp [allBlank]

/-- A character that is not blank does not occur among blanks. -/
lemma not_mem_of_allBlank {c : Char} {cs : List Char} (hc : isBlank c = false)
    (h : allBlank cs = true) : c ∉ cs := by
  intro hm
  rw [allBlank_iff.1 h c hm] at hc
  exact Bool.noConfusion hc

lemma not_allBlank_of_mem {c : Char} {cs : List Char} (hc : isBlank c = false) (h : c ∈ cs) :
    allBlank cs = false := by
  cases hcs : allBlank cs
  · rfl
  · exact absurd h (not_mem_of_allBlank hc hcs)

lemma comma_not_mem_of_allBlank {b : List Char} (hb : allBlank b = true) : ',' ∉ b :=
  not_mem_of_allBlank (by decide) hb

lemma opening_not_mem_of_allBlank {b : List Char} (hb : allBlank b = true) : '(' ∉ b :=
  not_mem_of_allBlank (by decide) hb

/-! ## Blanks leave no trace -/

lemma words_blanks_append {b : List Char} (hb : allBlank b = true) (cs : List Char) :
    words (b ++ cs) = words cs := by
  induction b with
  | nil => rfl
  | cons c b ih =>
      simp only [allBlank_cons, Bool.and_eq_true] at hb
      rw [List.cons_append, words_cons_blank hb.1, ih hb.2]

lemma words_of_allBlank {b : List Char} (hb : allBlank b = true) : words b = [] := by
  have h := words_blanks_append hb []
  rwa [List.append_nil, words_nil] at h

/-- **A gap keeps words apart.** -/
lemma words_append_gap {g : List Char} (hg : IsGap g) (left right : List Char) :
    words (left ++ (g ++ right)) = words left ++ words right := by
  obtain ⟨hne, hb⟩ := hg
  cases g with
  | nil => exact absurd rfl hne
  | cons c g =>
      simp only [allBlank_cons, Bool.and_eq_true] at hb
      rw [List.cons_append, words_append_blank _ _ hb.1, words_blanks_append hb.2]

lemma words_append_blanks {b : List Char} (hb : allBlank b = true) (cs : List Char) :
    words (cs ++ b) = words cs := by
  by_cases hne : b = []
  · rw [hne, List.append_nil]
  · have h := words_append_gap ⟨hne, hb⟩ cs []
    rwa [List.append_nil, words_nil, List.append_nil] at h

/-! ## Peeling -/

/-- A text that no word runs into: its first character, if any, is blank. -/
def EndsWord (cs : List Char) : Prop := ∀ c ∈ cs.head?, isBlank c = true

lemma endsWord_of_allBlank {cs : List Char} (h : allBlank cs = true) : EndsWord cs := by
  intro c hc
  exact allBlank_iff.1 h c (List.mem_of_mem_head? hc)

lemma IsGap.endsWord_append {g : List Char} (hg : IsGap g) (cs : List Char) :
    EndsWord (g ++ cs) := by
  obtain ⟨hne, hb⟩ := hg
  cases g with
  | nil => exact absurd rfl hne
  | cons b g =>
      intro c hc
      simp only [List.cons_append, List.head?_cons, Option.mem_def, Option.some.injEq] at hc
      subst hc
      simp only [allBlank_cons, Bool.and_eq_true] at hb
      exact hb.1

/-- A blank is in no word. -/
lemma IsWord.not_mem_of_isBlank {w : List Char} (hw : IsWord w) {c : Char}
    (hc : isBlank c = true) : c ∉ w := by
  intro hmem
  rw [hw.2 c hmem] at hc
  cases hc

/-- The first character of a word is not blank. -/
lemma IsWord.head_not_blank {w : List Char} (hw : IsWord w) (cs : List Char) :
    ∀ c ∈ (w ++ cs).head?, isBlank c = false := by
  obtain ⟨hne, hb⟩ := hw
  cases w with
  | nil => exact absurd rfl hne
  | cons d w =>
      intro c hc
      simp only [List.cons_append, List.head?_cons, Option.mem_def, Option.some.injEq] at hc
      subst hc
      exact hb d List.mem_cons_self

/-- If no word runs into some blanks with a word behind them, the blanks are a gap. -/
lemma isGap_of_endsWord {b w cs : List Char} (hb : allBlank b = true) (hw : IsWord w)
    (h : EndsWord (b ++ (w ++ cs))) : IsGap b := by
  refine ⟨?_, hb⟩
  rintro rfl
  obtain ⟨c, v, rfl⟩ := List.exists_cons_of_ne_nil hw.1
  have hblank : isBlank c = true := h c rfl
  have hnot : isBlank c = false := hw.head_not_blank cs c rfl
  rw [hblank] at hnot
  exact Bool.noConfusion hnot

/-- A word behind blanks is the first word when nothing prolongs it. -/
lemma words_peel {b w cs : List Char} (hb : allBlank b = true) (hw : IsWord w)
    (hcs : EndsWord cs) : words (b ++ (w ++ cs)) = w :: words cs := by
  rw [words_blanks_append hb]
  cases cs with
  | nil => rw [List.append_nil, words_nil, words_of_isWord hw]
  | cons c cs =>
      have hc : isBlank c = true := hcs c rfl
      rw [words_append_blank w cs hc, words_cons_blank hc, words_of_isWord hw]
      rfl

/-- A text that is not blank can be peeled. -/
lemma exists_peel_of_not_allBlank {cs : List Char} (h : allBlank cs = false) :
    ∃ b w rest, cs = b ++ (w ++ rest) ∧ allBlank b = true ∧ IsWord w ∧ EndsWord rest := by
  induction cs with
  | nil => exact Bool.noConfusion h
  | cons c cs ih =>
      cases hc : isBlank c with
      | true =>
          rw [allBlank_cons, hc, Bool.true_and] at h
          obtain ⟨b, w, rest, rfl, hb, hw, hrest⟩ := ih h
          exact ⟨c :: b, w, rest, rfl, by rw [allBlank_cons, hc, hb]; rfl, hw, hrest⟩
      | false =>
          -- the word begins here and goes on as long as nothing is blank
          refine ⟨[], c :: cs.takeWhile (!isBlank ·), cs.dropWhile (!isBlank ·), ?_, rfl, ?_, ?_⟩
          · rw [List.nil_append, List.cons_append, List.takeWhile_append_dropWhile]
          · refine ⟨List.cons_ne_nil _ _, ?_⟩
            intro d hd
            rcases List.mem_cons.1 hd with rfl | hd
            · exact hc
            · simpa using List.mem_takeWhile_imp hd
          · intro d hd
            have hnot := List.head?_dropWhile_not (!isBlank ·) cs
            rw [Option.mem_def.1 hd] at hnot
            simpa using hnot

lemma words_eq_nil_iff {cs : List Char} : words cs = [] ↔ allBlank cs = true := by
  constructor
  · intro h
    cases hcs : allBlank cs with
    | true => rfl
    | false =>
        obtain ⟨b, w, rest, rfl, hb, hw, hrest⟩ := exists_peel_of_not_allBlank hcs
        rw [words_peel hb hw hrest] at h
        exact absurd h (List.cons_ne_nil _ _)
  · exact words_of_allBlank

/-- **The first word of a text**, with what lies before and after it. -/
lemma words_eq_cons_iff {cs w : List Char} {ws : List (List Char)} :
    words cs = w :: ws ↔ ∃ b rest, cs = b ++ (w ++ rest) ∧
      allBlank b = true ∧ IsWord w ∧ EndsWord rest ∧ words rest = ws := by
  constructor
  · intro h
    have hcs : allBlank cs = false := by
      cases hcs : allBlank cs with
      | true => rw [words_of_allBlank hcs] at h; exact absurd h.symm (List.cons_ne_nil _ _)
      | false => rfl
    obtain ⟨b, v, rest, rfl, hb, hv, hrest⟩ := exists_peel_of_not_allBlank hcs
    rw [words_peel hb hv hrest, List.cons.injEq] at h
    obtain ⟨rfl, hws⟩ := h
    exact ⟨b, rest, rfl, hb, hv, hrest, hws⟩
  · rintro ⟨b, rest, rfl, hb, hw, hrest, rfl⟩
    exact words_peel hb hw hrest

/-- **A text of two words.** -/
lemma words_eq_pair_iff {cs v w : List Char} :
    words cs = [v, w] ↔ ∃ lead gap trail, cs = lead ++ (v ++ (gap ++ (w ++ trail))) ∧
      allBlank lead = true ∧ IsWord v ∧ IsGap gap ∧ IsWord w ∧ allBlank trail = true := by
  constructor
  · intro h
    obtain ⟨lead, rest, rfl, hlead, hv, hrest, h⟩ := words_eq_cons_iff.1 h
    obtain ⟨gap, trail, rfl, hgap, hw, -, h⟩ := words_eq_cons_iff.1 h
    exact ⟨lead, gap, trail, rfl, hlead, hv, isGap_of_endsWord hgap hw hrest, hw,
      words_eq_nil_iff.1 h⟩
  · rintro ⟨lead, gap, trail, rfl, hlead, hv, hgap, hw, htrail⟩
    rw [words_peel hlead hv (hgap.endsWord_append _),
      words_peel hgap.2 hw (endsWord_of_allBlank htrail), words_of_allBlank htrail]

/-- Words are taken from the text. -/
lemma mem_of_mem_words {cs w : List Char} (hw : w ∈ words cs) {c : Char} (hc : c ∈ w) : c ∈ cs := by
  induction hws : words cs generalizing cs with
  | nil =>
      rw [hws] at hw
      cases hw
  | cons v ws ih =>
      rw [hws] at hw
      obtain ⟨b, rest, rfl, -, -, -, rfl⟩ := words_eq_cons_iff.1 hws
      rcases List.mem_cons.1 hw with rfl | hw
      · exact List.mem_append_right b (List.mem_append_left rest hc)
      · exact List.mem_append_right b (List.mem_append_right v (ih hw rfl))

/-! ## There is one way to peel -/

/-- A run of characters with a property is determined by a text that it begins, when what follows
begins without the property. -/
lemma span_inj {p : Char → Bool} {xs ys r s : List Char} (hxs : ∀ c ∈ xs, p c = true)
    (hys : ∀ c ∈ ys, p c = true) (hr : ∀ c ∈ r.head?, p c = false)
    (hs : ∀ c ∈ s.head?, p c = false) (h : xs ++ r = ys ++ s) : xs = ys ∧ r = s := by
  have hstop : ∀ {t : List Char}, (∀ c ∈ t.head?, p c = false) → t.takeWhile p = [] := by
    intro t ht
    cases t with
    | nil => rfl
    | cons c t => rw [List.takeWhile_cons, ht c rfl]; rfl
  have hxy : xs = ys := by
    have htake := congrArg (List.takeWhile p) h
    rwa [List.takeWhile_append_of_pos hxs, List.takeWhile_append_of_pos hys, hstop hr, hstop hs,
      List.append_nil, List.append_nil] at htake
  subst hxy
  exact ⟨rfl, List.append_cancel_left h⟩

/-- **A text is peeled in one way only.** -/
lemma peel_inj {b b' w w' r r' : List Char} (hb : allBlank b = true) (hb' : allBlank b' = true)
    (hw : IsWord w) (hw' : IsWord w') (hr : EndsWord r) (hr' : EndsWord r')
    (h : b ++ (w ++ r) = b' ++ (w' ++ r')) : b = b' ∧ w = w' ∧ r = r' := by
  obtain ⟨rfl, hword⟩ := span_inj (allBlank_iff.1 hb) (allBlank_iff.1 hb')
    (hw.head_not_blank r) (hw'.head_not_blank r') h
  have hnot : ∀ {v : List Char}, IsWord v → ∀ c ∈ v, (!isBlank c) = true := by
    intro v hv c hc
    rw [hv.2 c hc]
    rfl
  have hstop : ∀ {t : List Char}, EndsWord t → ∀ c ∈ t.head?, (!isBlank c) = false := by
    intro t ht c hc
    rw [ht c hc]
    rfl
  exact ⟨rfl, span_inj (hnot hw) (hnot hw') (hstop hr) (hstop hr') hword⟩

/-- The blanks around two words are determined too. -/
lemma pair_inj {lead lead' v v' gap gap' w w' trail trail' : List Char}
    (hlead : allBlank lead = true) (hlead' : allBlank lead' = true) (hv : IsWord v)
    (hv' : IsWord v') (hgap : IsGap gap) (hgap' : IsGap gap') (hw : IsWord w) (hw' : IsWord w')
    (htrail : allBlank trail = true) (htrail' : allBlank trail' = true)
    (h : lead ++ (v ++ (gap ++ (w ++ trail))) = lead' ++ (v' ++ (gap' ++ (w' ++ trail')))) :
    lead = lead' ∧ v = v' ∧ gap = gap' ∧ w = w' ∧ trail = trail' := by
  obtain ⟨h₁, h₂, hrest⟩ := peel_inj hlead hlead' hv hv' (hgap.endsWord_append _)
    (hgap'.endsWord_append _) h
  obtain ⟨h₃, h₄, h₅⟩ := peel_inj hgap.2 hgap'.2 hw hw' (endsWord_of_allBlank htrail)
    (endsWord_of_allBlank htrail') hrest
  exact ⟨h₁, h₂, h₃, h₄, h₅⟩

end Signatures
