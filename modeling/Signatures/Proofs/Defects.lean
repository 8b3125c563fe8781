import Mathlib.Tactic.Lemma
import Signatures.Proofs.Halves

/-!
# Which defect is reported

A text may break several rules at once; the report names one.  `Defect.ShownBy` says of the text
alone, without reading it, when each defect is the one that is named: every condition includes that
the rules before it are kept.

* `Defect.ShownBy` — the four conditions.
* `read_eq_error_iff_shownBy` — reading fails with a defect exactly on the texts that show it.
* **`parse_classified`** — so the conditions are disjoint, what none of them covers is read, and a
  report always carries the text as it was given.
-/

namespace Signatures

/-- A text shows a defect when it keeps all rules before it and breaks that one. -/
def Defect.ShownBy (cs : List Char) : Defect → Prop
  | noOpening => '(' ∉ cs
  | declarationWords =>
      ∃ before after, cs = before ++ '(' :: after ∧ '(' ∉ before ∧ ¬ Declaration.Fits before
  | noClosing =>
      ∃ before after, cs = before ++ '(' :: after ∧ '(' ∉ before ∧ Declaration.Fits before ∧
        (allBlank after = true ∨ ∃ front c blanks, after = front ++ c :: blanks ∧
          isBlank c = false ∧ allBlank blanks = true ∧ c ≠ ')')
  | argumentShape =>
      ∃ before body blanks, cs = before ++ '(' :: (body ++ ')' :: blanks) ∧ '(' ∉ before ∧
        Declaration.Fits before ∧ allBlank blanks = true ∧ allBlank body = false ∧
        ∃ piece ∈ body.splitOn ',', (words piece).length ≠ 2

namespace Signature

/-- **A text fails by the defect that it shows.** -/
theorem read_eq_error_iff_shownBy {cs : List Char} {defect : Defect} :
    read cs = .error defect ↔ defect.ShownBy cs := by
  rw [read_eq_error_iff]
  simp only [Declaration.exists_readHalf_iff, Declaration.readHalf_eq_error_iff,
    Param.readHalf_eq_error_iff, Param.readAll?_eq_none_iff]
  cases defect with
  | noOpening => simp [Defect.ShownBy]
  | declarationWords => simp [Defect.ShownBy]
  | noClosing => simp [Defect.ShownBy, Param.body?_eq_none_iff]
  | argumentShape =>
      simp only [reduceCtorEq, and_false, and_true, false_or, Defect.ShownBy]
      constructor
      · rintro ⟨before, after, rfl, hb, hfits, body, hbody, hpieces⟩
        obtain ⟨blanks, hblanks, rfl⟩ := Param.body?_eq_some_iff.1 hbody
        exact ⟨before, body, blanks, rfl, hb, hfits, hblanks, hpieces⟩
      · rintro ⟨before, body, blanks, rfl, hb, hfits, hblanks, hpieces⟩
        exact ⟨before, _, rfl, hb, hfits, body, Param.body?_append hblanks, hpieces⟩

/-- A text that shows no defect is read, and only such a text. -/
lemma exists_parse_iff {text : String} :
    (∃ sig, parse text = .ok sig) ↔ ∀ defect : Defect, ¬ defect.ShownBy text.toList := by
  constructor
  · rintro ⟨sig, h⟩ defect hd
    rw [parse_eq_ok_iff, read_eq_error_iff_shownBy.2 hd] at h
    cases h
  · intro h
    cases hread : read text.toList with
    | ok sig => exact ⟨sig, parse_eq_ok_iff.2 hread⟩
    | error defect => exact absurd (read_eq_error_iff_shownBy.1 hread) (h defect)

end Signature

/-- No text shows two defects. -/
lemma Defect.ShownBy.unique {cs : List Char} {d e : Defect} (hd : d.ShownBy cs)
    (he : e.ShownBy cs) : d = e := by
  have h := (Signature.read_eq_error_iff_shownBy.2 hd).symm.trans
    (Signature.read_eq_error_iff_shownBy.2 he)
  exact Except.error.inj h

/-- **Every text is read or shows one defect.**  The report names that defect, in these words, and
repeats the text unchanged. -/
theorem parse_classified (text : String) :
    (∀ fault, Signature.parse text = .error fault ↔
      ∃ defect : Defect, defect.ShownBy text.toList ∧ fault = .malformed text defect) ∧
    ((∃ sig, Signature.parse text = .ok sig) ↔ ∀ defect : Defect, ¬ defect.ShownBy text.toList) ∧
    (∀ d e : Defect, d.ShownBy text.toList → e.ShownBy text.toList → d = e) ∧
    Defect.noOpening.reason = "missing '('" ∧
    Defect.declarationWords.reason = "expected 2 or 3 declaration tokens" ∧
    Defect.noClosing.reason = "missing ')'" ∧
    Defect.argumentShape.reason = "argument must be 'type name'" := by
  refine ⟨?_, Signature.exists_parse_iff, ?_, rfl, rfl, rfl, rfl⟩
  · intro fault
    rw [Signature.parse_eq_error_iff]
    simp only [Signature.read_eq_error_iff_shownBy]
  · intro d e hd he
    exact hd.unique he

/-- Four texts with more than one thing wrong.  The first has one word before the parenthesis and
the second has four, which is reported before all that is wrong behind it.  In the third a parameter
has three words and another one none.  In the fourth the closing parenthesis is not where it should
be, which comes before the empty piece.  A last text breaks no rule: a blank body has no pieces. -/
theorem first_broken_rule_is_reported :
    Defect.declarationWords.ShownBy "f(int".toList ∧
      Signature.parse "f(int" = .error (.malformed "f(int" .declarationWords) ∧
    Defect.declarationWords.ShownBy "final static\u3000int\tf(a)".toList ∧
      Signature.parse "final static\u3000int\tf(a)" =
        .error (.malformed "final static\u3000int\tf(a)" .declarationWords) ∧
    Defect.argumentShape.ShownBy "int f(int a, final int b,) ".toList ∧
      Signature.parse "int f(int a, final int b,) " =
        .error (.malformed "int f(int a, final int b,) " .argumentShape) ∧
    Defect.noClosing.ShownBy "int f(int a,) ;".toList ∧
      Signature.parse "int f(int a,) ;" = .error (.malformed "int f(int a,) ;" .noClosing) ∧
    (¬ ∃ sig, Signature.parse "int f(int a,) ;" = .ok sig) ∧
    ∀ defect : Defect, ¬ defect.ShownBy "int f(\u2003)".toList := by
  have hreport : ∀ text : String, ∀ defect : Defect, defect.ShownBy text.toList →
      Signature.parse text = .error (.malformed text defect) := by
    intro text defect hshown
    obtain ⟨herror, -⟩ := parse_classified text
    exact (herror _).2 ⟨defect, hshown, rfl⟩
  have hfew : Defect.declarationWords.ShownBy "f(int".toList :=
    ⟨"f".toList, "int".toList, by decide, by decide, by decide⟩
  have hmany : Defect.declarationWords.ShownBy "final static\u3000int\tf(a)".toList :=
    ⟨"final static\u3000int\tf".toList, "a)".toList, by decide, by decide, by decide⟩
  have hpiece : Defect.argumentShape.ShownBy "int f(int a, final int b,) ".toList :=
    ⟨"int f".toList, "int a, final int b,".toList, " ".toList, by decide, by decide, by decide,
      by decide, by decide, " final int b".toList, by decide, by decide⟩
  have hclosing : Defect.noClosing.ShownBy "int f(int a,) ;".toList :=
    ⟨"int f".toList, "int a,) ;".toList, by decide, by decide, by decide,
      Or.inr ⟨"int a,) ".toList, ';', [], by decide, by decide, by decide, by decide⟩⟩
  obtain ⟨-, hnot, -⟩ := parse_classified "int f(int a,) ;"
  obtain ⟨-, hok, -⟩ := parse_classified "int f(\u2003)"
  refine ⟨hfew, hreport _ _ hfew, hmany, hreport _ _ hmany, hpiece, hreport _ _ hpiece, hclosing,
    hreport _ _ hclosing, ?_, hok.1 ⟨⟨none, "int", "f", []⟩, by rfl⟩⟩
  intro h
  exact hnot.1 h _ hclosing

end Signatures
