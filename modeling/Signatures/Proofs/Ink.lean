import Signatures.Proofs.Canonical

/-!
# The ink of a text

What is left of a text without its blanks is its ink.  Reading throws three kinds of marks away, the
two parentheses and the commas between parameters, and writing puts its own in their places.  Words
may hold such marks as well, and those are neither thrown away nor put back.  So it is worth saying
that the ink of a text and of what it is read as are the same: nothing is lost, nothing is added and
nothing changes places but blanks.

* `ink_append`, `ink_intercalate`, `IsWord.ink_eq` — how the ink of a text comes from its parts.
* `Spelling.Valid.ink_chars` — the ink of a spelling is that of its signature, which
  `Signature.inkChars` writes down: blanks are all that sets two spellings of a signature apart.
* **`ink_kept`** — a text that is read has the ink of its canonical text.
-/

namespace Signatures

/-- The characters of a text that are not blank, in order. -/
def ink (cs : List Char) : List Char := cs.filter fun c => !isBlank c

@[simp] lemma ink_nil : ink [] = [] := rfl

@[simp] lemma ink_append (a b : List Char) : ink (a ++ b) = ink a ++ ink b := List.filter_append ..

lemma ink_cons_of_not_blank {c : Char} (hc : isBlank c = false) (cs : List Char) :
    ink (c :: cs) = c :: ink cs := by
  simp [ink, hc]

@[simp] lemma ink_opening (cs : List Char) : ink ('(' :: cs) = '(' :: ink cs :=
  ink_cons_of_not_blank (by decide) cs

@[simp] lemma ink_closing (cs : List Char) : ink (')' :: cs) = ')' :: ink cs :=
  ink_cons_of_not_blank (by decide) cs

/-- Blanks have no ink. -/
lemma ink_of_allBlank {cs : List Char} (h : allBlank cs = true) : ink cs = [] := by
  simpa [ink, List.filter_eq_nil_iff] using allBlank_iff.1 h

/-- A word is all ink. -/
lemma IsWord.ink_eq {w : List Char} (h : IsWord w) : ink w = w := by
  simpa [ink, List.filter_eq_self] using h.2

lemma ink_intercalate (sep : List Char) (parts : List (List Char)) :
    ink (sep.intercalate parts) = (ink sep).intercalate (parts.map ink) := by
  cases parts with
  | nil => simp
  | cons first others =>
      simp [intercalate_cons_eq_append, ink, List.filter_flatMap, List.flatMap_map]

/-- A parameter without blanks. -/
def Param.inkChars (p : Param) : List Char := p.type.toList ++ p.name.toList

/-- A signature without blanks: the fields in order, one pair of parentheses, and a comma between
any two parameters. -/
def Signature.inkChars (sig : Signature) : List Char :=
  (sig.modifier.getD "").toList ++ sig.returnType.toList ++ sig.name.toList ++
    '(' :: [','].intercalate (sig.params.map Param.inkChars) ++ [')']

lemma Param.Spelling.Valid.ink_chars {p : Param.Spelling} (h : p.Valid) :
    ink p.chars = p.param.inkChars := by
  simp [Param.Spelling.chars, Param.Spelling.param, Param.inkChars, ink_of_allBlank h.lead,
    ink_of_allBlank h.gap.2, ink_of_allBlank h.trail, h.type.1.ink_eq, h.name.1.ink_eq]

lemma Body.Valid.ink_chars {b : Body} (h : b.Valid) :
    ink b.chars = [','].intercalate (b.toParams.map Param.inkChars) := by
  cases b with
  | blank blanks => exact ink_of_allBlank h
  | params first others =>
      have hcomma : ink [','] = [','] := by decide
      rw [Body.chars, ink_intercalate, hcomma, Body.toParams, List.map_map, List.map_map]
      exact congrArg _ (List.map_congr_left fun p hp => (h p hp).ink_chars)

namespace Spelling

variable {s : Spelling}

lemma Valid.ink_modifierChars (h : s.Valid) :
    ink s.modifierChars = (s.signature.modifier.getD "").toList := by
  rw [modifierChars, signature]
  cases hm : s.modifier with
  | none => rfl
  | some m =>
      obtain ⟨hword, hgap⟩ := h.modifier m hm
      simp [hword.1.ink_eq, ink_of_allBlank hgap.2]

lemma Valid.ink_declarationChars (h : s.Valid) :
    ink s.declarationChars = (s.signature.modifier.getD "").toList ++
      s.signature.returnType.toList ++ s.signature.name.toList := by
  have htype := h.returnType.1.ink_eq
  have hname := h.name.1.ink_eq
  simp [declarationChars, h.ink_modifierChars, ink_of_allBlank h.lead, htype,
    ink_of_allBlank h.gap.2, hname, ink_of_allBlank h.beforeOpening, signature]

/-- **The ink of a spelling is the ink of its signature.** -/
lemma Valid.ink_chars (h : s.Valid) : ink s.chars = s.signature.inkChars := by
  simp [chars_eq_halves, h.ink_declarationChars, h.body.ink_chars, ink_of_allBlank h.trail,
    Signature.inkChars, signature]

end Spelling

lemma Signature.WellFormed.ink_chars {sig : Signature} (h : sig.WellFormed) :
    ink sig.chars = sig.inkChars := by
  have hink := (canonical_valid_iff.2 h).ink_chars
  rwa [chars_canonical, signature_canonical] at hink

/-- **No character is lost, added or moved, blanks apart.**  The canonical text of what a text is
read as has the same characters that are not blank, in the same order. -/
theorem ink_kept {text : String} {sig : Signature} (h : Signature.parse text = .ok sig) :
    ink sig.text.toList = ink text.toList := by
  obtain ⟨s, hs, hchars, hsig⟩ := Spelling.exists_of_read (Signature.parse_eq_ok_iff.1 h)
  -- both texts spell the same signature, one of them canonically
  calc ink sig.text.toList
      = ink sig.chars := by rw [Signature.toList_text]
    _ = sig.inkChars := (Signature.wellFormed_of_parse h).ink_chars
    _ = ink s.chars := by rw [hs.ink_chars, hsig]
    _ = ink text.toList := by rw [hchars]

/-- Marks inside of words stay where they are: a comma and a closing parenthesis in the name, an
opening one in a type, and a closing one at the end of the last parameter. -/
theorem marks_in_words_are_kept :
    let sig : Signature := ⟨none, "int", "f,)", [⟨"a(", "b)"⟩, ⟨"c", "d)"⟩]⟩
    Signature.parse "\tint\u3000f,)( a( b) ,c d)) " = .ok sig ∧
      ink sig.text.toList = ink "\tint\u3000f,)( a( b) ,c d)) ".toList ∧
      ink sig.text.toList = "intf,)(a(b),cd))".toList := by
  intro sig
  have hread : Signature.parse "\tint\u3000f,)( a( b) ,c d)) " = .ok sig := by rfl
  exact ⟨hread, ink_kept hread, by decide⟩

end Signatures
