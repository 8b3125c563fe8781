import Mathlib.Data.List.Chain
import Signatures.Proofs.Canonical

/-!
# Tidy texts

The canonical text of a signature has blanks where it needs them and nowhere else.  `Tidy` says the
same of a text without writing or reading anything: it goes by the blanks and by their neighbours.
For a text that is read as a signature the two come to the same, so that one can see whether
normalizing would change it.

Both sides are taken apart at the parentheses and at the commas.

* `squeeze_eq_iff` — without commas, a text is `SingleSpaced` when it is its words with one space
  between any two.
* `spacedList_iff` — a parameter list is `SpacedList` when each of its pieces is such a text, behind
  a space but for the first.
* `tidy_halves_iff` — a tidy text has two halves of these kinds.
* **`canonical_iff_tidy`** — a text that is read is canonical exactly when it is tidy.
-/

namespace Signatures

/-- No blank at the front. -/
def FlushLeft (cs : List Char) : Prop := ∀ c ∈ cs.head?, isBlank c = false

/-- No blank at the end. -/
def FlushRight (cs : List Char) : Prop := ∀ c ∈ cs.getLast?, isBlank c = false

/-- Two neighbours of which at least one is not blank. -/
def Apart (a b : Char) : Prop := isBlank a = true → isBlank b = false

/-- Two neighbours in a parameter list.  What stands before a comma is not blank, and what stands
behind one is a space. -/
def CommaSpaced (a b : Char) : Prop := (b = ',' → isBlank a = false) ∧ (a = ',' → b = ' ')

/-- Nothing but single spaces for blanks, and none at the ends. -/
structure SingleSpaced (cs : List Char) : Prop where
  left : FlushLeft cs
  right : FlushRight cs
  spaces : SpacesOnly cs
  apart : cs.IsChain Apart

/-- A single-spaced text that has no blank beside its first opening parenthesis, none before the
closing one at its end, none before a comma of the parameter list, and a space behind each. -/
structure Tidy (cs : List Char) : Prop extends SingleSpaced cs where
  opening : ∀ before after, cs = before ++ '(' :: after → '(' ∉ before →
    FlushRight before ∧ FlushLeft after
  closing : ∀ front, cs = front ++ [')'] → FlushRight front
  commas : ∀ before after, cs = before ++ '(' :: after → '(' ∉ before → after.IsChain CommaSpaced

/-! ## Neighbours -/

section Neighbours

variable {a b : List Char} {c : Char}

lemma isBlank_space : isBlank ' ' = true := by decide

lemma flushLeft_append (h : a ≠ []) : FlushLeft (a ++ b) ↔ FlushLeft a := by
  rw [FlushLeft, FlushLeft, List.head?_append_of_ne_nil a h]

lemma flushRight_append (h : b ≠ []) : FlushRight (a ++ b) ↔ FlushRight b := by
  rw [FlushRight, FlushRight, List.getLast?_append_of_ne_nil a h]

lemma flushLeft_append_cons (hc : isBlank c = false) : FlushLeft (a ++ c :: b) ↔ FlushLeft a := by
  cases a with
  | nil => simp [FlushLeft, hc]
  | cons d a => exact flushLeft_append (List.cons_ne_nil d a)

lemma flushRight_append_cons (hc : isBlank c = false) :
    FlushRight (a ++ c :: b) ↔ FlushRight b := by
  rw [← List.singleton_append, ← List.append_assoc]
  cases b with
  | nil => simp [FlushRight, hc]
  | cons d b => exact flushRight_append (List.cons_ne_nil d b)

/-- Blanks at the front of a text that has none there are no blanks at all. -/
lemma eq_nil_of_flushLeft (ha : allBlank a = true) (h : FlushLeft (a ++ b)) : a = [] := by
  cases a with
  | nil => rfl
  | cons d a =>
      have hd : isBlank d = false := h d rfl
      rw [allBlank_cons, hd] at ha
      cases ha

lemma eq_nil_of_flushRight (hb : allBlank b = true) (h : FlushRight (a ++ b)) : b = [] := by
  rcases List.eq_nil_or_concat b with rfl | ⟨front, d, rfl⟩
  · rfl
  · have hd : isBlank d = false := h d (by simp)
    simp [hd] at hb

lemma isChain_apart_append_cons (hc : isBlank c = false) :
    (a ++ c :: b).IsChain Apart ↔ a.IsChain Apart ∧ b.IsChain Apart := by
  simp [List.isChain_append, List.isChain_cons, Apart, hc]

lemma isChain_apart_append_space :
    (a ++ ' ' :: b).IsChain Apart ↔
      (a.IsChain Apart ∧ FlushRight a) ∧ b.IsChain Apart ∧ FlushLeft b := by
  simp only [List.isChain_append, List.isChain_cons, Apart, FlushRight, FlushLeft,
    List.head?_cons, Option.mem_def, Option.some.injEq, forall_eq', isBlank_space]
  simp only [forall_const, Bool.true_eq_false, imp_false, Bool.not_eq_true]
  constructor
  · rintro ⟨ha, ⟨hfront, hb⟩, hend⟩
    exact ⟨⟨ha, hend⟩, hb, hfront⟩
  · rintro ⟨⟨ha, hend⟩, hb, hfront⟩
    exact ⟨ha, ⟨hfront, hb⟩, hend⟩

/-- A space stands between two parts that are not empty and have no blanks of their own at it. -/
lemma singleSpaced_append_space :
    SingleSpaced (a ++ ' ' :: b) ↔ a ≠ [] ∧ b ≠ [] ∧ SingleSpaced a ∧ SingleSpaced b := by
  have hassoc : a ++ ' ' :: b = (a ++ [' ']) ++ b := by simp
  constructor
  · intro h
    have ha : a ≠ [] := by
      rintro rfl
      exact absurd (h.left ' ' rfl) (by decide)
    have hb : b ≠ [] := by
      rintro rfl
      exact absurd (h.right ' ' List.getLast?_concat) (by decide)
    obtain ⟨⟨hchain, hend⟩, hchain', hfront⟩ := isChain_apart_append_space.1 h.apart
    obtain ⟨hspaces, hspaces'⟩ := spacesOnly_append.1 h.spaces
    have hright : FlushRight b := (flushRight_append hb).1 (hassoc ▸ h.right)
    exact ⟨ha, hb, ⟨(flushLeft_append ha).1 h.left, hend, hspaces, hchain⟩,
      ⟨hfront, hright, (spacesOnly_cons.1 hspaces').2, hchain'⟩⟩
  · rintro ⟨ha, hb, h, h'⟩
    refine ⟨(flushLeft_append ha).2 h.left, ?_, ?_, ?_⟩
    · rw [hassoc]
      exact (flushRight_append hb).2 h'.right
    · exact spacesOnly_append.2 ⟨h.spaces, spacesOnly_cons.2 ⟨fun _ => rfl, h'.spaces⟩⟩
    · exact isChain_apart_append_space.2 ⟨⟨h.apart, h.right⟩, h'.apart, h'.left⟩

/-- A mark that is no blank adds nothing to the spacing, except that the text ends with it. -/
lemma singleSpaced_append_mark (hc : isBlank c = false) :
    SingleSpaced (a ++ [c]) ∧ FlushRight a ↔ SingleSpaced a := by
  have hspaces : SpacesOnly (a ++ [c]) ↔ SpacesOnly a := by
    rw [spacesOnly_append, spacesOnly_cons, hc]
    simp [spacesOnly_nil]
  constructor
  · rintro ⟨h, hend⟩
    exact ⟨(flushLeft_append_cons hc).1 h.left, hend, hspaces.1 h.spaces,
      ((isChain_apart_append_cons hc).1 h.apart).1⟩
  · intro h
    have hend : FlushRight (a ++ [c]) := (flushRight_append_cons hc).2 (by simp [FlushRight])
    exact ⟨⟨(flushLeft_append_cons hc).2 h.left, hend, hspaces.2 h.spaces,
      (isChain_apart_append_cons hc).2 ⟨h.apart, .nil⟩⟩, h.right⟩

end Neighbours

/-! ## Without commas -/

lemma singleSpaced_nil : SingleSpaced [] := by
  refine ⟨?_, ?_, spacesOnly_nil, .nil⟩ <;> simp [FlushLeft, FlushRight]

/-- A word has no blanks to be spaced. -/
lemma IsWord.singleSpaced {w : List Char} (h : IsWord w) : SingleSpaced w := by
  refine ⟨fun c hc => h.2 c (List.mem_of_mem_head? hc),
    fun c hc => h.2 c (List.mem_of_getLast? hc), h.spacesOnly, ?_⟩
  refine List.isChain_iff_forall_rel_of_append_cons_cons.2 ?_
  rintro a b front rest rfl _
  exact h.2 b (by simp)

/-- The words of a text with one space between any two. -/
def squeeze (cs : List Char) : List Char := [' '].intercalate (words cs)

lemma singleSpaced_intercalate {ws : List (List Char)} (h : ∀ w ∈ ws, IsWord w) :
    SingleSpaced ([' '].intercalate ws) := by
  induction ws with
  | nil => exact singleSpaced_nil
  | cons w ws ih =>
      obtain ⟨hw, hws⟩ := List.forall_mem_cons.1 h
      cases ws with
      | nil =>
          rw [List.intercalate_singleton]
          exact hw.singleSpaced
      | cons v ws =>
          have hne : [' '].intercalate (v :: ws) ≠ [] := by
            rw [intercalate_cons_eq_append]
            exact List.append_ne_nil_of_left_ne_nil (hws v List.mem_cons_self).1 _
          rw [List.intercalate_cons_cons, List.append_assoc, List.singleton_append]
          exact singleSpaced_append_space.2 ⟨hw.1, hne, hw.singleSpaced, ih hws⟩

/-- The words of a single-spaced text, with one space between any two, are the text. -/
lemma SingleSpaced.intercalate_words {cs : List Char} {ws : List (List Char)}
    (h : SingleSpaced cs) (hw : words cs = ws) : [' '].intercalate ws = cs := by
  induction ws generalizing cs with
  | nil =>
      obtain rfl : cs = [] :=
        eq_nil_of_flushLeft (b := []) (words_eq_nil_iff.1 hw) (by simpa using h.left)
      rw [List.intercalate_nil]
  | cons w ws ih =>
      obtain ⟨b, rest, rfl, hb, hword, hrest, rfl⟩ := words_eq_cons_iff.1 hw
      obtain rfl : b = [] := eq_nil_of_flushLeft hb h.left
      rw [List.nil_append] at h ⊢
      cases rest with
      | nil => rw [words_nil, List.intercalate_singleton, List.append_nil]
      | cons c rest =>
          -- one space follows the word, and then the next word
          obtain rfl : c = ' ' := h.spaces c (by simp) (hrest c rfl)
          obtain ⟨-, hne, -, hspaced⟩ := singleSpaced_append_space.1 h
          have ih := ih hspaced (words_cons_blank isBlank_space rest).symm
          rw [words_cons_blank isBlank_space] at ih ⊢
          cases hws : words rest with
          | nil =>
              rw [hws, List.intercalate_nil] at ih
              exact absurd ih.symm hne
          | cons v vs =>
              rw [List.intercalate_cons_cons, ← hws, ih, List.append_assoc, List.singleton_append]

/-- **A text is single spaced when it is squeezed already**, and only then. -/
lemma squeeze_eq_iff {cs : List Char} : squeeze cs = cs ↔ SingleSpaced cs := by
  constructor
  · intro h
    rw [← h]
    exact singleSpaced_intercalate fun w => isWord_of_mem_words
  · intro h
    exact h.intercalate_words rfl

/-- Marks other than the space are found in a squeezed text where they were before. -/
lemma not_mem_squeeze {c : Char} (hc : c ≠ ' ') {cs : List Char} (h : c ∉ cs) : c ∉ squeeze cs := by
  have hall : ∀ d ∈ squeeze cs, d ≠ c := by
    refine forall_mem_intercalate ?_ ?_
    · simpa using hc.symm
    · rintro w hw d hd rfl
      exact h (mem_of_mem_words hw hd)
  intro hmem
  exact hall c hmem rfl

/-! ## With commas -/

/-- The spacing of what stands between the parentheses. -/
structure SpacedList (cs : List Char) : Prop extends SingleSpaced cs where
  commas : (cs ++ [')']).IsChain CommaSpaced

section Commas

variable {p u v : List Char}

lemma isChain_commaSpaced_of_not_mem (h : ',' ∉ u) : u.IsChain CommaSpaced := by
  refine List.isChain_iff_forall_rel_of_append_cons_cons.2 ?_
  rintro a b front rest rfl
  simp only [List.mem_append, List.mem_cons, not_or] at h
  exact ⟨fun hb => absurd hb.symm h.2.2.1, fun ha => absurd ha.symm h.2.1⟩

lemma isChain_commaSpaced_append_comma (hp : ',' ∉ p) :
    (p ++ ',' :: u).IsChain CommaSpaced ↔
      FlushRight p ∧ (∀ c ∈ u.head?, c = ' ') ∧ u.IsChain CommaSpaced := by
  have hend : (∀ c ∈ p.getLast?, CommaSpaced c ',') ↔ FlushRight p := by
    refine forall₂_congr fun c hc => ?_
    have hne : c ≠ ',' := by
      rintro rfl
      exact hp (List.mem_of_getLast? hc)
    simp [CommaSpaced, hne]
  have hclosed : ∀ c, CommaSpaced ',' c ↔ c = ' ' := by
    intro c
    have hcomma : isBlank ',' = false := by decide
    simp [CommaSpaced, hcomma]
  rw [List.isChain_append, List.isChain_cons]
  simp only [List.head?_cons, Option.mem_def, Option.some.injEq, forall_eq', hclosed]
  simp only [Option.mem_def] at hend
  rw [hend]
  have hfree := isChain_commaSpaced_of_not_mem hp
  constructor
  · rintro ⟨-, ⟨hspace, hu⟩, hclose⟩
    exact ⟨hclose, hspace, hu⟩
  · rintro ⟨hclose, hspace, hu⟩
    exact ⟨hfree, ⟨hspace, hu⟩, hclose⟩

lemma isChain_commaSpaced_cons_space :
    (' ' :: v).IsChain CommaSpaced ↔ v.head? ≠ some ',' ∧ v.IsChain CommaSpaced := by
  rw [List.isChain_cons]
  refine and_congr_left fun _ => ?_
  cases v with
  | nil => simp
  | cons c v => simp [CommaSpaced, isBlank_space]

/-- A comma stands right behind a piece, and one space behind the comma. -/
lemma spacedList_append_comma (hp : ',' ∉ p) :
    SpacedList (p ++ ',' :: u) ↔ SingleSpaced p ∧
      ∃ v, u = ' ' :: v ∧ v ≠ [] ∧ v.head? ≠ some ',' ∧ SpacedList v := by
  have hcomma : isBlank ',' = false := by decide
  have hassoc : ∀ v, p ++ ',' :: ' ' :: v = (p ++ [',']) ++ ' ' :: v := by simp
  constructor
  · rintro ⟨hsingle, hcommas⟩
    rw [List.append_assoc, List.cons_append, isChain_commaSpaced_append_comma hp] at hcommas
    obtain ⟨hend, hspace, hcommas⟩ := hcommas
    cases u with
    | nil => exact absurd (hspace ')' rfl) (by decide)
    | cons c v =>
        obtain rfl : c = ' ' := hspace c rfl
        rw [hassoc, singleSpaced_append_space] at hsingle
        obtain ⟨-, hne, hp', hv⟩ := hsingle
        rw [List.cons_append, isChain_commaSpaced_cons_space,
          List.head?_append_of_ne_nil v hne] at hcommas
        exact ⟨(singleSpaced_append_mark hcomma).1 ⟨hp', hend⟩, v, rfl, hne, hcommas.1, hv,
          hcommas.2⟩
  · rintro ⟨hsingle, v, rfl, hne, hhead, hv, hcommas⟩
    obtain ⟨hp', hend⟩ := (singleSpaced_append_mark hcomma).2 hsingle
    refine ⟨?_, ?_⟩
    · rw [hassoc]
      exact singleSpaced_append_space.2 ⟨by simp, hne, hp', hv⟩
    · rw [List.append_assoc, List.cons_append, isChain_commaSpaced_append_comma hp,
        List.cons_append, isChain_commaSpaced_cons_space, List.head?_append_of_ne_nil v hne]
      exact ⟨hend, by simp, hhead, hcommas⟩

end Commas

lemma spacedList_iff_of_not_mem {cs : List Char} (h : ',' ∉ cs) :
    SpacedList cs ↔ SingleSpaced cs := by
  constructor
  · exact SpacedList.toSingleSpaced
  · intro hsingle
    exact ⟨hsingle, isChain_commaSpaced_of_not_mem (by simpa using h)⟩

/-- A piece with something on it is what a joined text begins with. -/
lemma exists_intercalate_eq_cons {q : List Char} (hq : allBlank q = false) (ps : List (List Char)) :
    ∃ c r, q = c :: r ∧ [','].intercalate (q :: ps) = c :: [','].intercalate (r :: ps) := by
  cases q with
  | nil => cases hq
  | cons c r =>
      refine ⟨c, r, rfl, ?_⟩
      rw [intercalate_cons_eq_append, intercalate_cons_eq_append, List.cons_append]

/-- **A parameter list is spaced when each of its pieces is squeezed**, the first one as it stands
and the others behind a space. -/
lemma spacedList_iff {p : List Char} {ps : List (List Char)} (hcomma : ∀ q ∈ p :: ps, ',' ∉ q)
    (hink : ∀ q ∈ p :: ps, allBlank q = false) :
    [',', ' '].intercalate ((p :: ps).map squeeze) = [','].intercalate (p :: ps) ↔
      SpacedList ([','].intercalate (p :: ps)) := by
  induction ps generalizing p with
  | nil =>
      obtain ⟨hp, -⟩ := List.forall_mem_cons.1 hcomma
      simp [squeeze_eq_iff, spacedList_iff_of_not_mem hp]
  | cons q ps ih =>
      obtain ⟨hp, hcomma⟩ := List.forall_mem_cons.1 hcomma
      obtain ⟨-, hink⟩ := List.forall_mem_cons.1 hink
      obtain ⟨c, r, rfl, hjoin⟩ := exists_intercalate_eq_cons (hink q List.mem_cons_self) ps
      rw [List.map_cons, List.map_cons, List.intercalate_cons_cons, List.intercalate_cons_cons,
        hjoin, ← List.map_cons, List.append_assoc, List.append_assoc, List.cons_append,
        List.cons_append, List.cons_append, List.nil_append, List.nil_append,
        append_cons_inj (not_mem_squeeze (by decide) hp) hp, squeeze_eq_iff,
        spacedList_append_comma hp]
      refine and_congr_right fun _ => ?_
      rcases Decidable.em (c = ' ') with rfl | hc
      · -- the first space of the next piece belongs to the comma
        have hr : allBlank r = false := by simpa [isBlank_space] using hink (' ' :: r) (by simp)
        have hcomma' : ∀ q ∈ r :: ps, ',' ∉ q := by simpa using hcomma
        have hink' : ∀ q ∈ r :: ps, allBlank q = false := by simpa [isBlank_space] using hink
        have hsqueeze : squeeze (' ' :: r) = squeeze r := by
          rw [squeeze, squeeze, words_cons_blank isBlank_space]
        obtain ⟨d, t, rfl, hjoin'⟩ := exists_intercalate_eq_cons hr ps
        have hd : d ≠ ',' := by
          rintro rfl
          exact hcomma' (',' :: t) (by simp) (by simp)
        rw [List.map_cons, hsqueeze, ← List.map_cons, List.cons.injEq, ih hcomma' hink']
        simp [hjoin', hd]
      · simp [hc, eq_comm]

/-! ## Both halves -/

/-- **A tidy text has tidy halves.** -/
lemma tidy_halves_iff {before body : List Char} (h : '(' ∉ before) :
    Tidy (before ++ '(' :: (body ++ [')'])) ↔ SingleSpaced before ∧ SpacedList body := by
  have hopen : isBlank '(' = false := by decide
  have hclose : isBlank ')' = false := by decide
  have hassoc : before ++ '(' :: (body ++ [')']) = (before ++ '(' :: body) ++ [')'] := by simp
  constructor
  · intro ht
    obtain ⟨hend, hfront⟩ := ht.opening before _ rfl h
    obtain ⟨hspaces, hspaces'⟩ := spacesOnly_append.1 ht.spaces
    obtain ⟨happart, happart'⟩ := (isChain_apart_append_cons hopen).1 ht.apart
    refine ⟨⟨(flushLeft_append_cons hopen).1 ht.left, hend, hspaces, happart⟩, ⟨?_, ?_, ?_, ?_⟩, ?_⟩
    · exact (flushLeft_append_cons hclose).1 hfront
    · exact (flushRight_append_cons hopen).1 (ht.closing _ hassoc)
    · exact (spacesOnly_append.1 (spacesOnly_cons.1 hspaces').2).1
    · exact ((isChain_apart_append_cons hclose).1 happart').1
    · exact ht.commas before _ rfl h
  · rintro ⟨hbefore, hbody⟩
    have hcut : ∀ before' after, before ++ '(' :: (body ++ [')']) = before' ++ '(' :: after →
        '(' ∉ before' → before = before' ∧ body ++ [')'] = after :=
      fun before' after heq h' => (append_cons_inj h h').1 heq
    refine ⟨⟨?_, ?_, ?_, ?_⟩, ?_, ?_, ?_⟩
    · exact (flushLeft_append_cons hopen).2 hbefore.left
    · rw [hassoc]
      exact (flushRight_append_cons hclose).2 (by simp [FlushRight])
    · rw [spacesOnly_append, spacesOnly_cons, spacesOnly_append, spacesOnly_cons, hopen, hclose]
      exact ⟨hbefore.spaces, by simp, hbody.spaces, by simp, spacesOnly_nil⟩
    · exact (isChain_apart_append_cons hopen).2 ⟨hbefore.apart,
        (isChain_apart_append_cons hclose).2 ⟨hbody.apart, .nil⟩⟩
    · intro before' after heq h'
      obtain ⟨rfl, rfl⟩ := hcut before' after heq h'
      exact ⟨hbefore.right, (flushLeft_append_cons hclose).2 hbody.left⟩
    · intro front heq
      obtain rfl : before ++ '(' :: body = front := by
        rw [hassoc] at heq
        exact List.append_cancel_right heq
      exact (flushRight_append_cons hopen).2 hbody.right
    · intro before' after heq h'
      obtain ⟨rfl, rfl⟩ := hcut before' after heq h'
      exact hbody.commas

lemma Declaration.declarationChars_signature (d : Declaration) (params : List Param) :
    (d.signature params).declarationChars = [' '].intercalate d.fields := by
  obtain ⟨modifier, returnType, name⟩ := d
  cases modifier <;> simp [signature, Signature.declarationChars, fields]

lemma Param.intercalate_fields (p : Param) : [' '].intercalate p.fields = p.chars := by
  simp [fields, chars]

/-- What is read from a body is written as that body exactly when the body is spaced. -/
lemma Param.intercalate_eq_iff_spacedList {body : List Char} {params : List Param}
    (h : readAll? body = some params) :
    [',', ' '].intercalate (params.map chars) = body ↔ SpacedList body := by
  cases hbody : allBlank body with
  | true =>
      rw [readAll?_of_allBlank hbody, Option.some.injEq] at h
      subst h
      rw [List.map_nil, List.intercalate_nil]
      constructor
      · rintro rfl
        exact ⟨singleSpaced_nil, .singleton _⟩
      · intro hspaced
        exact (eq_nil_of_flushLeft (b := []) hbody (by simpa using hspaced.left)).symm
  | false =>
      rw [readAll?_of_not_allBlank hbody, mapM_ofWords?_eq_some_iff, pieces] at h
      have hchars : params.map chars = (body.splitOn ',').map squeeze := by
        have hmap := congrArg (List.map [' '].intercalate) h
        simp only [List.map_map, Function.comp_def, intercalate_fields] at hmap
        exact hmap.symm
      have hcomma : ∀ q ∈ body.splitOn ',', ',' ∉ q := fun q => not_mem_of_mem_splitOn
      have hink : ∀ q ∈ body.splitOn ',', allBlank q = false := by
        intro q hq
        have hwords : words q ∈ params.map fields := h ▸ List.mem_map_of_mem hq
        obtain ⟨p, -, hp⟩ := List.mem_map.1 hwords
        rw [← Bool.not_eq_true, ← words_eq_nil_iff, ← hp]
        exact List.cons_ne_nil _ _
      obtain ⟨p, ps, hsplit⟩ := List.exists_cons_of_ne_nil (List.splitOn_ne_nil ',' body)
      have hjoin : [','].intercalate (p :: ps) = body := hsplit ▸ List.intercalate_splitOn ..
      rw [hsplit] at hchars hcomma hink
      have hspaced := spacedList_iff hcomma hink
      rwa [hjoin, ← hchars] at hspaced

/-- **What is read is written as it was exactly when the text is tidy.** -/
lemma Signature.chars_eq_iff_tidy {cs : List Char} {sig : Signature} (h : read cs = .ok sig) :
    sig.chars = cs ↔ Tidy cs := by
  obtain ⟨before, after, d, params, rfl, hopen, hd, hp, rfl⟩ := read_eq_ok_iff.1 h
  obtain ⟨body, hbody, hparams⟩ := Param.readHalf_eq_ok_iff.1 hp
  obtain ⟨blanks, hblanks, rfl⟩ := Param.body?_eq_some_iff.1 hbody
  have hchars : (d.signature params).chars = squeeze before ++
      '(' :: ([',', ' '].intercalate (params.map Param.chars) ++ [')']) := by
    rw [chars, d.declarationChars_signature, ← Declaration.readHalf_eq_ok_iff_fields.1 hd,
      List.append_assoc]
    rfl
  have hlist := Param.intercalate_eq_iff_spacedList hparams
  constructor
  · intro heq
    rw [hchars, append_cons_inj (not_mem_squeeze (by decide) hopen) hopen] at heq
    obtain ⟨hbefore, hafter⟩ := heq
    -- the last parenthesis closes both lists, so that nothing stands behind it
    have hcut := congrArg Param.body? hafter
    rw [Param.body?_append hblanks, Param.body?_append allBlank_nil, Option.some.injEq] at hcut
    rw [hcut, List.append_cancel_left_eq] at hafter
    rw [← hafter]
    exact (tidy_halves_iff hopen).2 ⟨squeeze_eq_iff.1 hbefore, hlist.1 hcut⟩
  · intro ht
    have hassoc : before ++ '(' :: (body ++ ')' :: blanks) =
        (before ++ '(' :: (body ++ [')'])) ++ blanks := by simp
    obtain rfl : blanks = [] := eq_nil_of_flushRight hblanks (hassoc ▸ ht.right)
    obtain ⟨hbefore, hbody⟩ := (tidy_halves_iff hopen).1 ht
    rw [hchars, squeeze_eq_iff.2 hbefore, hlist.2 hbody]

/-- **Canonical texts are the tidy ones.**  A text that is read is the canonical text of its
signature exactly when it is tidy; and every canonical text of something that was read is. -/
theorem canonical_iff_tidy {text : String} {sig : Signature} (h : Signature.parse text = .ok sig) :
    (sig.text = text ↔ Tidy text.toList) ∧ Tidy sig.text.toList := by
  have hagain : Signature.read sig.text.toList = .ok sig :=
    Signature.parse_eq_ok_iff.1 (Signature.wellFormed_of_parse h).parse_text
  refine ⟨?_, ?_⟩
  · rw [← String.toList_inj, Signature.toList_text]
    exact Signature.chars_eq_iff_tidy (Signature.parse_eq_ok_iff.1 h)
  · exact (Signature.chars_eq_iff_tidy hagain).1 (Signature.toList_text sig).symm

/-- A comma in a name needs no space behind it and parentheses inside of words need none around
them.  The other text lacks a space behind a comma and has one before the parenthesis too many. -/
theorem commas_of_a_list_are_spaced :
    let sig : Signature := ⟨none, "int", "f,)", [⟨"a(", "b)"⟩, ⟨"c", "d)"⟩]⟩
    Signature.parse "int f,)(a( b), c d))" = .ok sig ∧ Tidy "int f,)(a( b), c d))".toList ∧
      Signature.parse "int f,) (a( b),c d))" = .ok sig ∧ ¬ Tidy "int f,) (a( b),c d))".toList := by
  intro sig
  have htidy : Signature.parse "int f,)(a( b), c d))" = .ok sig := by rfl
  have hloose : Signature.parse "int f,) (a( b),c d))" = .ok sig := by rfl
  have htext : sig.text = "int f,)(a( b), c d))" := by
    rw [← String.toList_inj]
    decide
  refine ⟨htidy, (canonical_iff_tidy htidy).1.1 htext, hloose, ?_⟩
  intro h
  have heq : sig.text = "int f,) (a( b),c d))" := (canonical_iff_tidy hloose).1.2 h
  rw [htext] at heq
  exact absurd heq (by decide)

end Signatures
