import Mathlib.Data.List.Forall2
import Mathlib.Tactic.Lemma
import Signatures.Proofs.Json.Documents

/-!
# Two layouts of one document

What the indented layout adds to the compact one are spaces and line feeds between tokens.  `tight`
takes them away again, by a pass from left to right that knows whether it is inside a string and
whether a backslash came before; nothing else of JSON is known to it.

`Tightens` follows such a pass over a piece of text, from one place to another, so that pieces are
put together by `Tightens.append`.  The text of a string goes through unchanged, whatever it holds:
its spaces are inside, its quotation marks come behind a backslash, and its line feeds are not there
at all.  By recursion on the value the indented text becomes the compact one.

* `tightens_quoted` — a string is left as it is.
* `tightens_write` — **the indented text of a value is tightened to the compact one**, in which no
  character is below the space.
* **`layouts_are_one_document`** — the same for signatures and for printed documents.
-/

namespace Signatures

namespace Json

/-! ## Tight texts -/

/-- Where a pass over a text is. -/
inductive Place where
  | outside
  /-- Between the quotation marks of a string. -/
  | inside
  /-- Behind a backslash in a string. -/
  | escaped
  deriving DecidableEq, Repr

/-- The place behind one more character. -/
def Place.next : Place → Char → Place
  | outside, c => if c = '"' then inside else outside
  | inside, c => if c = '"' then outside else if c = '\\' then escaped else inside
  | escaped, _ => inside

/-- The rest of a text without the spaces and line feeds outside its strings. -/
def tightFrom : Place → List Char → List Char
  | _, [] => []
  | place, c :: cs =>
    if place = .outside ∧ (c = ' ' ∨ c = '\n') then tightFrom place cs
    else c :: tightFrom (place.next c) cs

/-- A text without the spaces and line feeds outside its strings. -/
def tight (cs : List Char) : List Char := tightFrom .outside cs

example : tight "[ 1, \"a \\\" b\" ]\n".toList = "[1,\"a \\\" b\"]".toList := by decide

lemma tightFrom_append (place : Place) (a b : List Char) :
    tightFrom place (a ++ b) = tightFrom place a ++ tightFrom (a.foldl Place.next place) b := by
  induction a generalizing place with
  | nil => rfl
  | cons c a ih =>
      rw [List.cons_append, tightFrom, tightFrom, List.foldl_cons]
      split
      · next h =>
        -- a character that is dropped leaves the pass where it is
        obtain ⟨rfl, hc⟩ := h
        have hnext : Place.next .outside c = .outside := by
          rcases hc with rfl | rfl <;> rfl
        rw [ih, hnext]
      · rw [ih, List.cons_append]

/-- A pass over the first text goes from one place to the other and leaves the second text, which
has no control character below the space. -/
structure Tightens (place place' : Place) (w w' : List Char) : Prop where
  tight : tightFrom place w = w'
  place : w.foldl Place.next place = place'
  visible : (w'.all fun c => 0x20 ≤ c.toNat) = true

/-- Whether a character is above the space and no quotation mark.  Outside of strings such a
character is no gap and begins no string. -/
def isSolid (c : Char) : Bool := 0x20 < c.toNat && c != '"'

section Pieces

variable {p q r : Place} {a a' b b' : List Char}

lemma Tightens.nil : Tightens p p [] [] := ⟨rfl, rfl, rfl⟩

lemma Tightens.append (h : Tightens p q a a') (h' : Tightens q r b b') :
    Tightens p r (a ++ b) (a' ++ b') where
  tight := by rw [tightFrom_append, h.tight, h.place, h'.tight]
  place := by rw [List.foldl_append, h.place, h'.place]
  visible := by rw [List.all_append, h.visible, h'.visible, Bool.and_true]

/-- What stands behind a character that is left. -/
lemma Tightens.cons {c : Char} (hc : Tightens p q [c] [c]) (h : Tightens q r a a') :
    Tightens p r (c :: a) (c :: a') :=
  hc.append h

/-- Gaps between tokens are dropped. -/
lemma tightens_gap {w : List Char} (h : ∀ c ∈ w, c = ' ' ∨ c = '\n') :
    Tightens .outside .outside w [] := by
  induction w with
  | nil => exact .nil
  | cons c w ih =>
      obtain ⟨hc, hw⟩ := List.forall_mem_cons.1 h
      have hfirst : Tightens .outside .outside [c] [] := by
        rcases hc with rfl | rfl <;> exact ⟨rfl, rfl, rfl⟩
      exact hfirst.append (ih hw)

/-- Outside of strings all else is left. -/
lemma tightens_solid {w : List Char} (h : w.all isSolid = true) :
    Tightens .outside .outside w w := by
  induction w with
  | nil => exact .nil
  | cons c w ih =>
      rw [List.all_cons, Bool.and_eq_true] at h
      obtain ⟨hc, hw⟩ := h
      simp only [isSolid, Bool.and_eq_true, decide_eq_true_eq, bne_iff_ne] at hc
      obtain ⟨hlow, hquote⟩ := hc
      have hdrop : ¬ (c = ' ' ∨ c = '\n') := by
        rintro (rfl | rfl)
        · exact absurd hlow (by decide)
        · exact absurd hlow (by decide)
      refine Tightens.cons ⟨?_, ?_, ?_⟩ (ih hw)
      · simp [tightFrom, hdrop]
      · simp [Place.next, hquote]
      · simpa using hlow.le

end Pieces

/-! ## Strings -/

/-- An escaped character is left and does not end the string. -/
lemma tightens_escape (c : Char) : Tightens .inside .inside (escape c) (escape c) := by
  have hcontrol : ∀ n < 0x20,
      let w := ['\\', 'u', '0', '0', Nat.digitChar (n / 16), Nat.digitChar (n % 16)]
      tightFrom .inside w = w ∧ w.foldl Place.next .inside = .inside ∧
        (w.all fun c => 0x20 ≤ c.toNat) = true := by
    decide
  unfold escape
  split
  -- the mark, the backslash and the five controls with a letter of their own
  iterate 7 exact ⟨rfl, rfl, rfl⟩
  · next hquote hbackslash _ _ _ _ _ =>
    split
    · next hlow =>
      obtain ⟨htight, hplace, hvisible⟩ := hcontrol c.toNat hlow
      exact ⟨htight, hplace, hvisible⟩
    · next hlow =>
      refine ⟨rfl, (if_neg hquote).trans (if_neg hbackslash), ?_⟩
      simpa using hlow

/-- **A string is left as it is**, and what follows is outside again. -/
lemma tightens_quoted (s : String) : Tightens .outside .outside (quoted s) (quoted s) := by
  have hbody : ∀ cs : List Char,
      Tightens .inside .inside (cs.flatMap escape) (cs.flatMap escape) := by
    intro cs
    induction cs with
    | nil => exact .nil
    | cons c cs ih => exact (tightens_escape c).append ih
  have hopening : Tightens .outside .inside ['"'] ['"'] := ⟨rfl, rfl, rfl⟩
  have hclosing : Tightens .inside .outside ['"'] ['"'] := ⟨rfl, rfl, rfl⟩
  exact hopening.cons ((hbody s.toList).append hclosing)

/-! ## Values -/

lemma tightens_newline (depth : Nat) :
    Tightens .outside .outside (Layout.indented.newline depth) [] := by
  refine tightens_gap (List.forall_mem_cons.2 ⟨.inr rfl, fun c hc => ?_⟩)
  exact .inl (List.eq_of_mem_replicate hc)

/-- Items with commas between them are tightened one by one. -/
lemma tightens_intercalate {gap : List Char} (hgap : Tightens .outside .outside gap [])
    {items items' : List (List Char)}
    (h : List.Forall₂ (Tightens .outside .outside) items items') :
    Tightens .outside .outside ((',' :: gap).intercalate items) ([','].intercalate items') := by
  have hcomma : Tightens .outside .outside [','] [','] := tightens_solid (by decide)
  induction h with
  | nil => exact .nil
  | cons hitem hitems ih =>
      cases hitems with
      | nil => simpa using hitem
      | cons =>
          rw [List.intercalate_cons_cons, List.intercalate_cons_cons]
          exact (hitem.append (hcomma.cons hgap)).append ih

/-- **Brackets around items** are left, and all that the layout puts between goes. -/
lemma tightens_enclosed {depth depth' : Nat} {opening closing : Char}
    (hopening : Tightens .outside .outside [opening] [opening])
    (hclosing : Tightens .outside .outside [closing] [closing]) {items items' : List (List Char)}
    (h : List.Forall₂ (Tightens .outside .outside) items items') :
    Tightens .outside .outside (enclosed .indented depth opening closing items)
      (enclosed .compact depth' opening closing items') := by
  cases h with
  | nil => exact hopening.cons hclosing
  | cons hitem hitems =>
      have hnewline := tightens_newline (depth + 1)
      have hitems := tightens_intercalate hnewline (.cons hitem hitems)
      have hinner := (hopening.append hnewline).append hitems
      simpa [enclosed, Layout.compact] using
        (hinner.append (tightens_newline depth)).append hclosing

lemma tightens_member (key : String) {w w' : List Char} (h : Tightens .outside .outside w w') :
    Tightens .outside .outside (quoted key ++ Layout.indented.colon ++ w)
      (quoted key ++ Layout.compact.colon ++ w') := by
  have hcolon : Tightens .outside .outside Layout.indented.colon Layout.compact.colon :=
    ⟨rfl, rfl, rfl⟩
  exact ((tightens_quoted key).append hcolon).append h

/-- What a number is written with is solid. -/
lemma isSolid_of_isNumeric {c : Char} (h : isNumeric c = true) : isSolid c = true := by
  simp only [isNumeric, Bool.or_eq_true, decide_eq_true_eq] at h
  rcases h with ((((hdigit | rfl) | rfl) | rfl) | rfl) | rfl
  · have hzero : '0'.toNat = 48 := rfl
    obtain ⟨hlow, -⟩ := Char.isDigit_iff_toNat.1 hdigit
    have hquote : c ≠ '"' := by
      rintro rfl
      exact absurd hdigit (by decide)
    simp only [isSolid, Bool.and_eq_true, decide_eq_true_eq, bne_iff_ne]
    exact ⟨by omega, hquote⟩
  all_goals rfl

lemma tightens_numeral (value : Numeral) :
    Tightens .outside .outside value.chars value.chars :=
  tightens_solid (List.all_eq_true.2 fun c hc =>
    isSolid_of_isNumeric (isNumeric_of_mem_chars value c hc))

mutual

/-- **The indented text of a value is tightened to the compact one**, at whatever depth. -/
lemma tightens_write : ∀ (value : Json) (depth depth' : Nat),
    Tightens .outside .outside (value.write .indented depth) (value.write .compact depth')
  | .null, _, _ => tightens_solid (w := "null".toList) (by decide)
  | .bool true, _, _ => tightens_solid (w := "true".toList) (by decide)
  | .bool false, _, _ => tightens_solid (w := "false".toList) (by decide)
  | .number value, _, _ => tightens_numeral value
  | .string s, _, _ => tightens_quoted s
  | .array elements, depth, depth' =>
      tightens_enclosed (tightens_solid (by decide)) (tightens_solid (by decide))
        (tightens_writeElements elements (depth + 1) (depth' + 1))
  | .object members, depth, depth' =>
      tightens_enclosed (tightens_solid (by decide)) (tightens_solid (by decide))
        (tightens_writeMembers members (depth + 1) (depth' + 1))
termination_by structural value => value

lemma tightens_writeElements : ∀ (values : List Json) (depth depth' : Nat),
    List.Forall₂ (Tightens .outside .outside) (writeElements .indented depth values)
      (writeElements .compact depth' values)
  | [], _, _ => .nil
  | value :: rest, depth, depth' =>
      .cons (tightens_write value depth depth') (tightens_writeElements rest depth depth')
termination_by structural values => values

lemma tightens_writeMembers : ∀ (members : List (String × Json)) (depth depth' : Nat),
    List.Forall₂ (Tightens .outside .outside) (writeMembers .indented depth members)
      (writeMembers .compact depth' members)
  | [], _, _ => .nil
  | (key, value) :: rest, depth, depth' =>
      .cons (tightens_member key (tightens_write value depth depth'))
        (tightens_writeMembers rest depth depth')
termination_by structural members => members

end

/-- **Tightened, the text laid out for reading is the text without blanks.** -/
lemma tight_pretty (value : Json) : tight value.pretty.toList = value.compact.toList := by
  rw [pretty, compact, String.toList_ofList, String.toList_ofList]
  exact (tightens_write value 0 0).tight

lemma visible_of_mem_compact (value : Json) : ∀ c ∈ value.compact.toList, 0x20 ≤ c.toNat := by
  rw [compact, String.toList_ofList]
  simpa using (tightens_write value 0 0).visible

/-- A text without controls is one line. -/
lemma feed_not_mem_compact (value : Json) : '\n' ∉ value.compact.toList := by
  intro hmem
  exact absurd (visible_of_mem_compact value '\n' hmem) (by decide)

end Json

/-- **The two layouts are one document.**  The spaces and line feeds outside of strings are all that
the indented text of a signature has and the compact one has not.  The compact text has no character
below the space, so that it is one line.  The same holds of the document that is printed for some
signatures, less the line feed that ends it, and the compact text of that document. -/
theorem layouts_are_one_document :
    (∀ sig : Signature,
      Json.tight sig.json.pretty.toList = sig.json.compact.toList ∧
      (∀ c ∈ sig.json.compact.toList, 0x20 ≤ c.toNat) ∧ '\n' ∉ sig.json.compact.toList) ∧
    ∀ sigs : List Signature,
      Form.document.print sigs = (Signature.document sigs).pretty.toList ++ ['\n'] ∧
      Json.tight (Form.document.print sigs).dropLast =
        (Signature.document sigs).compact.toList ∧
      (∀ c ∈ (Signature.document sigs).compact.toList, 0x20 ≤ c.toNat) ∧
      '\n' ∉ (Signature.document sigs).compact.toList := by
  constructor
  · intro sig
    exact ⟨sig.json.tight_pretty, sig.json.visible_of_mem_compact, sig.json.feed_not_mem_compact⟩
  · intro sigs
    have hprint : Form.document.print sigs =
        (Signature.document sigs).pretty.toList ++ ['\n'] := by
      rw [Json.pretty, String.toList_ofList]
      rfl
    refine ⟨hprint, ?_, Json.visible_of_mem_compact _, Json.feed_not_mem_compact _⟩
    rw [hprint, List.dropLast_concat, Json.tight_pretty]

/-- Strings with quotation marks, backslashes, blanks and what looks like a member. -/
theorem blanks_of_strings_are_left :
    let sig : Signature := ⟨some " \\", "\", \n\"", "\x7b \"a\": []\x7d", [⟨"\t ", ""⟩]⟩
    Json.tight sig.json.pretty.toList = sig.json.compact.toList ∧
    ('"' ∈ sig.json.compact.toList ∧ 0x20 ≤ '"'.toNat) ∧ '\n' ∉ sig.json.compact.toList ∧
    Json.tight (Form.document.print [sig, .bare " " []]).dropLast =
      (Signature.document [sig, .bare " " []]).compact.toList := by
  intro sig
  obtain ⟨hsig, hsigs⟩ := layouts_are_one_document
  obtain ⟨htight, hvisible, hline⟩ := hsig sig
  obtain ⟨-, hdocument, -, -⟩ := hsigs [sig, .bare " " []]
  have hmem : '"' ∈ sig.json.compact.toList := by
    unfold sig
    decide +kernel
  exact ⟨htight, ⟨hmem, hvisible '"' hmem⟩, hline, hdocument⟩

end Signatures
