import Mathlib.Logic.Relation
import Signatures.Proofs.Halves

/-!
# Layout does not matter

Blanks may be put in, taken out and exchanged in many places of a text without changing what it is
read as, and that holds for texts with a defect too.  The places are of two kinds.  Between two
words there must be blanks, and any will do; that is `Respaced.exchange`.  At a *seam* there may be
blanks or none: at the ends of the text, beside the first opening parenthesis, beside a comma after
it, and beside the parenthesis that closes the list.

The proof climbs from the words to the whole text.

* `Param.pieces_exchange`, `Param.pieces_blanks_append`, `Param.pieces_append_blanks` — the words
  between commas do not change.
* `Param.readAll?_congr` — nothing but those words counts in a body, not even whether it is blank.
* `Param.readHalf_congr` — the closing parenthesis stays where it is.
* `Seam.read_eq`, `Respaced.read_eq` — one edit, wherever it falls.
* **`parse_respaced`** — any number of edits.
-/

namespace Signatures

/-! ## Words between commas -/

namespace Param

lemma pieces_of_not_mem {cs : List Char} (h : ',' ∉ cs) : pieces cs = [words cs] := by
  rw [pieces, List.splitOn_eq_singleton h]
  rfl

lemma pieces_ne_nil (cs : List Char) : pieces cs ≠ [] := by
  intro h
  exact List.splitOn_ne_nil ',' cs (List.map_eq_nil_iff.1 h)

/-- What is put before a text without commas joins its first piece only. -/
lemma exists_first_piece (cs : List Char) :
    ∃ first rest, ∀ b, ',' ∉ b → pieces (b ++ cs) = words (b ++ first) :: rest := by
  rcases Decidable.em (',' ∈ cs) with hm | hm
  · obtain ⟨first, rest, rfl, hfirst⟩ := List.eq_append_cons_of_mem hm
    refine ⟨first, pieces rest, ?_⟩
    intro b hb
    have hcomma : ',' ∉ b ++ first := List.not_mem_append hb hfirst
    rw [← List.append_assoc, pieces_append_comma, pieces_of_not_mem hcomma]
    rfl
  · refine ⟨cs, [], ?_⟩
    intro b hb
    exact pieces_of_not_mem (List.not_mem_append hb hm)

/-- What is put after a text joins its last piece, which has no comma. -/
lemma exists_last_piece (cs : List Char) :
    ∃ front last, ',' ∉ last ∧ ∀ b, pieces (cs ++ b) = front ++ pieces (last ++ b) := by
  rcases Decidable.em (',' ∈ cs) with hm | hm
  · obtain ⟨r, f, hr, hlast⟩ := List.eq_append_cons_of_mem (List.mem_reverse.2 hm)
    have hcs : cs = f.reverse ++ ',' :: r.reverse := by
      have h := congrArg List.reverse hr
      simpa using h
    refine ⟨pieces f.reverse, r.reverse, ?_, ?_⟩
    · intro h
      exact hlast (List.mem_reverse.1 h)
    · intro b
      rw [hcs, List.append_assoc, List.cons_append, pieces_append_comma]
  · refine ⟨[], cs, hm, ?_⟩
    intro b
    rfl

lemma pieces_blanks_append {b : List Char} (hb : allBlank b = true) (cs : List Char) :
    pieces (b ++ cs) = pieces cs := by
  obtain ⟨first, rest, h⟩ := exists_first_piece cs
  have hcs : pieces cs = words first :: rest := h [] List.not_mem_nil
  rw [h b (comma_not_mem_of_allBlank hb), words_blanks_append hb, hcs]

lemma pieces_append_blanks {b : List Char} (hb : allBlank b = true) (cs : List Char) :
    pieces (cs ++ b) = pieces cs := by
  obtain ⟨front, last, hlast, h⟩ := exists_last_piece cs
  have hcs : pieces cs = front ++ pieces last := by
    have hnil := h []
    rwa [List.append_nil, List.append_nil] at hnil
  have hcomma : ',' ∉ last ++ b := List.not_mem_append hlast (comma_not_mem_of_allBlank hb)
  rw [h b, hcs, pieces_of_not_mem hlast, pieces_of_not_mem hcomma, words_append_blanks hb]

/-- **One gap is as good as another.** -/
lemma pieces_exchange {g g' : List Char} (hg : IsGap g) (hg' : IsGap g') (u v : List Char) :
    pieces (u ++ (g ++ v)) = pieces (u ++ (g' ++ v)) := by
  obtain ⟨front, last, hlast, hu⟩ := exists_last_piece u
  obtain ⟨first, rest, hv⟩ := exists_first_piece v
  have hwords : ∀ {b : List Char}, IsGap b →
      pieces (u ++ (b ++ v)) = front ++ (words last ++ words first) :: rest := by
    intro b hb
    have hcomma : ',' ∉ last ++ b := List.not_mem_append hlast (comma_not_mem_of_allBlank hb.2)
    rw [hu, ← List.append_assoc, hv _ hcomma, List.append_assoc, words_append_gap hb]
  rw [hwords hg, hwords hg']

/-- A body is blank exactly when all that it has is one piece without words. -/
lemma allBlank_iff_pieces {cs : List Char} : allBlank cs = true ↔ pieces cs = [[]] := by
  constructor
  · intro h
    rw [pieces_of_not_mem (comma_not_mem_of_allBlank h), words_of_allBlank h]
  · intro h
    rcases Decidable.em (',' ∈ cs) with hm | hm
    · -- a comma makes two pieces at least
      obtain ⟨a, b, rfl, -⟩ := List.eq_append_cons_of_mem hm
      rw [pieces_append_comma, List.append_eq_singleton_iff] at h
      rcases h with ⟨ha, -⟩ | ⟨-, hb⟩
      · exact absurd ha (pieces_ne_nil a)
      · exact absurd hb (pieces_ne_nil b)
    · rw [pieces_of_not_mem hm, List.cons.injEq] at h
      exact words_eq_nil_iff.1 h.1

/-- **Only the words between commas count in a body.** -/
lemma readAll?_congr {a b : List Char} (h : pieces a = pieces b) : readAll? a = readAll? b := by
  cases ha : allBlank a with
  | true =>
      have hb : allBlank b = true := allBlank_iff_pieces.2 (h ▸ allBlank_iff_pieces.1 ha)
      rw [readAll?_of_allBlank ha, readAll?_of_allBlank hb]
  | false =>
      have hb : allBlank b = false := by
        cases hb : allBlank b with
        | false => rfl
        | true =>
            rw [allBlank_iff_pieces.2 (h.trans (allBlank_iff_pieces.1 hb))] at ha
            cases ha
      rw [readAll?_of_not_allBlank ha, readAll?_of_not_allBlank hb, h]

/-- Two fillings of blanks are read alike when they make no difference to the words between commas,
up to where the list is closed. -/
lemma readHalf_congr {u v a b : List Char} (ha : allBlank a = true) (hb : allBlank b = true)
    (h : ∀ w ∈ body? v, pieces (u ++ (a ++ w)) = pieces (u ++ (b ++ w))) :
    readHalf (u ++ (a ++ v)) = readHalf (u ++ (b ++ v)) := by
  cases hv : allBlank v with
  | true =>
      -- the list is closed before the filling, or not at all
      have hend : ∀ {c : List Char}, allBlank c = true → body? (u ++ (c ++ v)) = body? u := by
        intro c hc
        exact body?_append_blanks (by rw [allBlank_append, hc, hv]; rfl) u
      rw [readHalf, readHalf, hend ha, hend hb]
  | false =>
      have hin : ∀ c, body? (u ++ (c ++ v)) = (body? v).map (u ++ c ++ ·) := by
        intro c
        rw [← List.append_assoc, body?_append_left hv]
      rw [readHalf, readHalf, hin, hin]
      cases hw : body? v with
      | none => rfl
      | some w =>
          have hread := readAll?_congr (h w hw)
          simp only [Option.map_some, List.append_assoc, hread]

end Param

/-! ## Places for blanks -/

/-- The places between two parts of a text where there may be blanks or none. -/
inductive Seam : List Char → List Char → Prop
  | start (v : List Char) : Seam [] v
  | stop (u : List Char) : Seam u []
  /-- Before the first opening parenthesis. -/
  | beforeOpening {u : List Char} (h : '(' ∉ u) (v : List Char) : Seam u ('(' :: v)
  /-- After the first opening parenthesis. -/
  | afterOpening {u : List Char} (h : '(' ∉ u) (v : List Char) : Seam (u ++ ['(']) v
  /-- Before a comma that follows an opening parenthesis. -/
  | beforeComma {u : List Char} (h : '(' ∈ u) (v : List Char) : Seam u (',' :: v)
  /-- After a comma that follows an opening parenthesis. -/
  | afterComma {u : List Char} (h : '(' ∈ u) (v : List Char) : Seam (u ++ [',']) v
  /-- Before a closing parenthesis that is the last character but for blanks. -/
  | beforeClosing {u v : List Char} (h : '(' ∈ u) (hv : allBlank v = true) : Seam u (')' :: v)
  /-- After a closing parenthesis that is the last character but for blanks. -/
  | afterClosing {u v : List Char} (h : '(' ∈ u) (hv : allBlank v = true) : Seam (u ++ [')']) v

/-- One edit of the blanks in a text. -/
inductive Respaced : List Char → List Char → Prop
  /-- A gap takes the place of another. -/
  | exchange {g g' : List Char} (u v : List Char) (hg : IsGap g) (hg' : IsGap g') :
      Respaced (u ++ (g ++ v)) (u ++ (g' ++ v))
  /-- Blanks are put in at a seam. -/
  | insert {u v b : List Char} (h : Seam u v) (hb : allBlank b = true) :
      Respaced (u ++ v) (u ++ (b ++ v))
  /-- Blanks are taken out at a seam. -/
  | delete {u v b : List Char} (h : Seam u v) (hb : allBlank b = true) :
      Respaced (u ++ (b ++ v)) (u ++ v)

namespace Signature

/-- Before the first opening parenthesis only the words count. -/
lemma read_congr_before {a b : List Char} (ha : '(' ∉ a) (hb : '(' ∉ b) (h : words a = words b)
    (after : List Char) : read (a ++ '(' :: after) = read (b ++ '(' :: after) := by
  rw [read_halves ha, read_halves hb, Declaration.readHalf_congr h]

/-- After it, only the words between commas do. -/
lemma read_congr_after {before : List Char} (hbefore : '(' ∉ before) {u v a b : List Char}
    (ha : allBlank a = true) (hb : allBlank b = true)
    (h : ∀ w ∈ Param.body? v, Param.pieces (u ++ (a ++ w)) = Param.pieces (u ++ (b ++ w))) :
    read (before ++ '(' :: (u ++ (a ++ v))) = read (before ++ '(' :: (u ++ (b ++ v))) := by
  rw [read_halves hbefore, read_halves hbefore, Param.readHalf_congr ha hb h]

/-- Without an opening parenthesis nothing counts. -/
lemma read_congr_none {a b : List Char} (ha : '(' ∉ a) (hb : '(' ∉ b) : read a = read b := by
  rw [read_of_not_mem ha, read_of_not_mem hb]

end Signature

section Edits

open Signature Param

variable {b : List Char}

lemma read_blanks_append (hb : allBlank b = true) (cs : List Char) : read (b ++ cs) = read cs := by
  have hopen : '(' ∉ b := opening_not_mem_of_allBlank hb
  rcases Decidable.em ('(' ∈ cs) with hm | hm
  · obtain ⟨before, after, rfl, hbefore⟩ := List.eq_append_cons_of_mem hm
    rw [← List.append_assoc]
    exact read_congr_before (List.not_mem_append hopen hbefore) hbefore
      (words_blanks_append hb before) after
  · exact read_congr_none (List.not_mem_append hopen hm) hm

lemma read_append_blanks (hb : allBlank b = true) (cs : List Char) : read (cs ++ b) = read cs := by
  rcases Decidable.em ('(' ∈ cs) with hm | hm
  · obtain ⟨before, after, rfl, hbefore⟩ := List.eq_append_cons_of_mem hm
    rw [List.append_assoc, List.cons_append, read_halves hbefore, read_halves hbefore,
      Param.readHalf, Param.readHalf, body?_append_blanks hb]
  · exact read_congr_none (List.not_mem_append hm (opening_not_mem_of_allBlank hb)) hm

/-- **Blanks at a seam count for nothing.** -/
theorem Seam.read_eq {u v : List Char} (h : Seam u v) (hb : allBlank b = true) :
    read (u ++ (b ++ v)) = read (u ++ v) := by
  cases h with
  | start v =>
      rw [List.nil_append, List.nil_append]
      exact read_blanks_append hb v
  | stop u =>
      rw [List.append_nil, List.append_nil]
      exact read_append_blanks hb u
  | beforeOpening hu v =>
      rw [← List.append_assoc]
      exact read_congr_before (List.not_mem_append hu (opening_not_mem_of_allBlank hb)) hu
        (words_append_blanks hb u) v
  | afterOpening hu v =>
      have hread := read_congr_after hu (u := []) (v := v) hb allBlank_nil
        fun w _ => pieces_blanks_append hb w
      simpa only [List.append_assoc, List.cons_append, List.nil_append] using hread
  | beforeComma hu v =>
      obtain ⟨before, u, rfl, hbefore⟩ := List.eq_append_cons_of_mem hu
      have hpieces : ∀ w ∈ body? (',' :: v), pieces (u ++ (b ++ w)) = pieces (u ++ ([] ++ w)) := by
        intro w hw
        -- the body goes on with the comma, since a comma closes no list
        obtain ⟨blanks, -, hv⟩ := body?_eq_some_iff.1 hw
        cases w with
        | nil => cases hv
        | cons c w =>
            obtain rfl : ',' = c := (List.cons.inj hv).1
            rw [← List.append_assoc, pieces_append_comma, pieces_append_blanks hb, List.nil_append,
              pieces_append_comma]
      have hread := read_congr_after hbefore hb allBlank_nil hpieces
      simpa only [List.append_assoc, List.cons_append, List.nil_append] using hread
  | afterComma hu v =>
      obtain ⟨before, u, rfl, hbefore⟩ := List.eq_append_cons_of_mem hu
      have hpieces : ∀ w,
          pieces ((u ++ [',']) ++ (b ++ w)) = pieces ((u ++ [',']) ++ ([] ++ w)) := by
        intro w
        simp only [List.append_assoc, List.cons_append, List.nil_append]
        rw [pieces_append_comma, pieces_blanks_append hb, pieces_append_comma]
      have hread := read_congr_after hbefore (v := v) hb allBlank_nil fun w _ => hpieces w
      simpa only [List.append_assoc, List.cons_append, List.nil_append] using hread
  | @beforeClosing _ v hu hv =>
      obtain ⟨before, u, rfl, hbefore⟩ := List.eq_append_cons_of_mem hu
      have hpieces : ∀ w ∈ body? (')' :: v), pieces (u ++ (b ++ w)) = pieces (u ++ ([] ++ w)) := by
        intro w hw
        obtain rfl : [] = w := Option.some.inj ((body?_append hv).symm.trans hw)
        rw [List.append_nil, pieces_append_blanks hb, List.append_nil, List.append_nil]
      have hread := read_congr_after hbefore hb allBlank_nil hpieces
      simpa only [List.append_assoc, List.cons_append, List.nil_append] using hread
  | afterClosing hu hv =>
      rw [read_append_blanks (by rw [allBlank_append, hb, hv]; rfl), read_append_blanks hv]

/-- **One edit leaves the reading as it is**, be it a signature or a defect. -/
theorem Respaced.read_eq {cs cs' : List Char} (h : Respaced cs cs') : read cs = read cs' := by
  cases h with
  | insert h hb => exact (h.read_eq hb).symm
  | delete h hb => exact h.read_eq hb
  | @exchange g g' u v hg hg' =>
      have hopen : '(' ∉ g := opening_not_mem_of_allBlank hg.2
      have hopen' : '(' ∉ g' := opening_not_mem_of_allBlank hg'.2
      rcases Decidable.em ('(' ∈ u) with hu | hu
      · obtain ⟨before, u, rfl, hbefore⟩ := List.eq_append_cons_of_mem hu
        have hread := read_congr_after hbefore (v := v) hg.2 hg'.2
          fun w _ => pieces_exchange hg hg' u w
        simpa only [List.append_assoc, List.cons_append] using hread
      rcases Decidable.em ('(' ∈ v) with hv | hv
      · obtain ⟨before, after, rfl, hbefore⟩ := List.eq_append_cons_of_mem hv
        have hwords : words (u ++ (g ++ before)) = words (u ++ (g' ++ before)) := by
          rw [words_append_gap hg, words_append_gap hg']
        have hread := read_congr_before
          (List.not_mem_append hu (List.not_mem_append hopen hbefore))
          (List.not_mem_append hu (List.not_mem_append hopen' hbefore)) hwords after
        simpa only [List.append_assoc] using hread
      · exact read_congr_none (List.not_mem_append hu (List.not_mem_append hopen hv))
          (List.not_mem_append hu (List.not_mem_append hopen' hv))

/-- Any number of edits does so too. -/
lemma read_eq_of_respaced {cs cs' : List Char} (h : Relation.ReflTransGen Respaced cs cs') :
    read cs = read cs' := by
  induction h with
  | refl => rfl
  | tail _ hstep ih => rw [ih, hstep.read_eq]

end Edits

/-- **Layout does not matter.**  Texts that differ by edits of their blanks are both read, as the
same signature, or both have the same defect. -/
theorem parse_respaced {text text' : String}
    (h : Relation.ReflTransGen Respaced text.toList text'.toList) :
    (∃ sig, Signature.parse text = .ok sig ∧ Signature.parse text' = .ok sig) ∨
    ∃ defect, Signature.parse text = .error (.malformed text defect) ∧
      Signature.parse text' = .error (.malformed text' defect) := by
  have hread := read_eq_of_respaced h
  cases hcs : Signature.read text.toList with
  | ok sig =>
      rw [hcs] at hread
      exact Or.inl ⟨sig, Signature.parse_eq_ok_iff.2 hcs, Signature.parse_eq_ok_iff.2 hread.symm⟩
  | error defect =>
      rw [hcs] at hread
      exact Or.inr ⟨defect, Signature.parse_eq_error_iff.2 ⟨defect, hcs, rfl⟩,
        Signature.parse_eq_error_iff.2 ⟨defect, hread.symm, rfl⟩⟩

/-- A blank is taken out at the start, the gap after a parenthesis that closes nothing is exchanged,
and blanks are put in behind the comma and on both sides of the last parenthesis. -/
theorem respaced_text_is_read_alike :
    Relation.ReflTransGen Respaced " int f(a) b,c d)".toList
        "int f(a)\t\nb, c d\u00a0)\r".toList ∧
      ((∃ sig, Signature.parse " int f(a) b,c d)" = .ok sig ∧
          Signature.parse "int f(a)\t\nb, c d\u00a0)\r" = .ok sig) ∨
        ∃ defect,
          Signature.parse " int f(a) b,c d)" = .error (.malformed " int f(a) b,c d)" defect) ∧
          Signature.parse "int f(a)\t\nb, c d\u00a0)\r" =
            .error (.malformed "int f(a)\t\nb, c d\u00a0)\r" defect)) := by
  have hstart : Respaced " int f(a) b,c d)".toList "int f(a) b,c d)".toList :=
    .delete (b := [' ']) (.start "int f(a) b,c d)".toList) (by decide)
  have hgap : Respaced "int f(a) b,c d)".toList "int f(a)\t\nb,c d)".toList :=
    @Respaced.exchange [' '] ['\t', '\n'] "int f(a)".toList "b,c d)".toList (by decide) (by decide)
  have hcomma : Respaced "int f(a)\t\nb,c d)".toList "int f(a)\t\nb, c d)".toList :=
    .insert (b := [' ']) (.afterComma (u := "int f(a)\t\nb".toList) (by decide) "c d)".toList)
      (by decide)
  have hbefore : Respaced "int f(a)\t\nb, c d)".toList "int f(a)\t\nb, c d\u00a0)".toList :=
    .insert (b := ['\u00a0']) (.beforeClosing (u := "int f(a)\t\nb, c d".toList) (v := [])
      (by decide) rfl) (by decide)
  have hafter : Respaced "int f(a)\t\nb, c d\u00a0)".toList "int f(a)\t\nb, c d\u00a0)\r".toList :=
    .insert (b := ['\r']) (.afterClosing (u := "int f(a)\t\nb, c d\u00a0".toList) (v := [])
      (by decide) rfl) (by decide)
  have hall : Relation.ReflTransGen Respaced " int f(a) b,c d)".toList
      "int f(a)\t\nb, c d\u00a0)\r".toList :=
    ((((Relation.ReflTransGen.single hstart).tail hgap).tail hcomma).tail hbefore).tail hafter
  exact ⟨hall, parse_respaced hall⟩

end Signatures
