import Mathlib.Data.List.Forall2
import Mathlib.Tactic.Lemma
import Signatures.Json.Printer
import Signatures.Json.Spelling
import Signatures.Proofs.Json.Reading

/-!
# What is written is spelled

The printer meets the spellings of `Signatures.Json.Spelling` in every layout that puts nothing but
blanks between tokens, `Layout.Blank`; both layouts in use are of that kind.

**Strings.**  An escaped character is one of the spellings of that character (`escape_append`),
whichever of the four forms it takes.

**Rows.**  `Writes row w` says that `w` is a spelling of `row` in any place where a number may end.
That proviso is what makes it a property of pieces: what stands behind a written value is a comma, a
bracket, a blank or nothing, and none of them can be part of a number.

**Values.**  Commas, brackets and keys are laid around written items (`writes_enclosed`,
`writes_member`), so that by recursion on the value all that is written is spelled.

* `spelling_write` — **a written value is a spelling of it**.
* `parse?_write` — **what is written is read back**.
-/

namespace Signatures.Json

open Token

/-- A layout puts nothing but blanks between tokens. -/
structure Layout.Blank (layout : Layout) : Prop where
  newline (depth : Nat) : IsGaps (layout.newline depth)
  colon : ∃ before after, IsGaps before ∧ IsGaps after ∧ layout.colon = before ++ ':' :: after

lemma IsGaps.append {w w' : List Char} (h : IsGaps w) (h' : IsGaps w') : IsGaps (w ++ w') :=
  List.forall_mem_append.mpr ⟨h, h'⟩

lemma isGaps_nil : IsGaps [] := fun _ h => absurd h List.not_mem_nil

lemma Layout.blank_compact : Layout.compact.Blank where
  newline _ := isGaps_nil
  colon := ⟨[], [], isGaps_nil, isGaps_nil, rfl⟩

lemma Layout.blank_indented : Layout.indented.Blank where
  newline depth := by
    refine List.forall_mem_cons.mpr ⟨rfl, fun c hc => ?_⟩
    rw [List.eq_of_mem_replicate hc]
    rfl
  colon := ⟨[], [' '], isGaps_nil, by simp [IsGaps, isGap], rfl⟩

/-! ## Strings -/

lemma ofHex?_control : ∀ n < 0x20,
    ofHex? ['0', '0', Nat.digitChar (n / 16), Nat.digitChar (n % 16)] = some n := by
  decide

/-- **An escaped character is a spelling of it.** -/
lemma StringSpelling.escape_append (c : Char) {w s : List Char} (h : StringSpelling w s) :
    StringSpelling (escape c ++ w) (c :: s) := by
  unfold escape
  split
  -- the mark, the backslash and the five controls with a letter of their own
  iterate 7 exact .named rfl h
  · next hquote hbackslash _ _ _ _ _ =>
    split
    · next hcontrol => exact .unit rfl (ofHex?_control _ hcontrol) h
    · next hcontrol => exact .plain (by omega) hquote hbackslash h

lemma stringSpelling_flatMap (cs : List Char) : StringSpelling (cs.flatMap escape) cs := by
  induction cs with
  | nil => exact .nil
  | cons c cs ih => exact .escape_append c ih

lemma spelling_quoted (s : String) : (Token.string s).Spelling (quoted s) := by
  have := Token.Spelling.string (stringSpelling_flatMap s.toList)
  rwa [String.ofList_toList] at this

/-! ## Rows -/

lemma RowSpelling.gaps {gaps cs : List Char} {row : List Token} (hgaps : IsGaps gaps)
    (h : RowSpelling row cs) : RowSpelling row (gaps ++ cs) := by
  cases h with
  | done h => exact .done (hgaps.append h)
  | token h htoken hend hrow =>
      rw [← List.append_assoc]
      exact .token (hgaps.append h) htoken hend hrow

lemma spelling_of_mark? {c : Char} {token : Token} (h : mark? c = some token) :
    token.Spelling [c] ∧ ∀ value, token ≠ .number value := by
  unfold mark? at h
  split at h <;> cases h <;> exact ⟨by constructor, fun _ => Token.noConfusion⟩

lemma RowSpelling.mark {c : Char} {cs : List Char} {token : Token} {row : List Token}
    (hc : mark? c = some token) (h : RowSpelling row cs) :
    RowSpelling (token :: row) (c :: cs) := by
  obtain ⟨htoken, hnumber⟩ := spelling_of_mark? hc
  exact .token isGaps_nil htoken (fun ⟨value, hvalue⟩ => absurd hvalue (hnumber value)) h

/-- The text is a spelling of the row, wherever it stands and a number may end. -/
def Writes (row : List Token) (w : List Char) : Prop :=
  ∀ rest cs, EndsNumeral cs → RowSpelling rest cs → RowSpelling (row ++ rest) (w ++ cs)

lemma endsNumeral_of_mark? {c : Char} {token : Token} (hc : mark? c = some token)
    (cs : List Char) : EndsNumeral (c :: cs) := by
  rintro _ ⟨⟩
  exact not_isNumeric_of_mark? hc

lemma IsGaps.endsNumeral_append {gaps cs : List Char} (hgaps : IsGaps gaps)
    (hcs : EndsNumeral cs) : EndsNumeral (gaps ++ cs) := by
  cases gaps with
  | nil => exact hcs
  | cons c gaps =>
      rintro _ ⟨⟩
      exact not_isNumeric_of_isGap (hgaps c List.mem_cons_self)

/-! ## Values -/

/-- Written items with commas between them are the rows with commas between them. -/
lemma writes_intercalate {newline : List Char} (hnewline : IsGaps newline)
    {rows : List (List Token)} {items : List (List Char)} (h : List.Forall₂ Writes rows items) :
    Writes ([comma].intercalate rows) ((',' :: newline).intercalate items) := by
  induction h with
  | nil => exact fun _ _ _ h => h
  | @cons row w _ _ hrow hitems ih =>
      cases hitems with
      | nil => rwa [List.intercalate_singleton, List.intercalate_singleton]
      | cons =>
          intro rest cs hcs hrest
          -- the comma ends a number that may stand before it
          have htail := RowSpelling.mark (c := ',') rfl ((ih rest cs hcs hrest).gaps hnewline)
          simpa using hrow _ _ (endsNumeral_of_mark? rfl _) htail

/-- **Brackets around written items** enclose the rows of the items. -/
lemma writes_enclosed {layout : Layout} (hlayout : layout.Blank) (depth : Nat)
    {opening closing : Char} {first last : Token} (hopening : mark? opening = some first)
    (hclosing : mark? closing = some last) {rows : List (List Token)} {items : List (List Char)}
    (h : List.Forall₂ Writes rows items) :
    Writes (first :: [comma].intercalate rows ++ [last])
      (enclosed layout depth opening closing items) := by
  intro rest cs hcs hrest
  have hend : RowSpelling (last :: rest) (closing :: cs) := .mark hclosing hrest
  cases h with
  | nil => exact .mark hopening hend
  | @cons row w rows items hrow hitems =>
      have hdepth := hlayout.newline depth
      have hinner := writes_intercalate (hlayout.newline (depth + 1)) (.cons hrow hitems) _ _
        (hdepth.endsNumeral_append (endsNumeral_of_mark? hclosing cs)) (hend.gaps hdepth)
      simpa [enclosed] using RowSpelling.mark hopening (hinner.gaps (hlayout.newline (depth + 1)))

lemma writes_token {token : Token} {w : List Char} (h : token.Spelling w) : Writes [token] w :=
  fun _ _ hcs hrest => .token isGaps_nil h (fun _ => hcs) hrest

lemma writes_member {layout : Layout} (hlayout : layout.Blank) (key : String) {row : List Token}
    {w : List Char} (h : Writes row w) :
    Writes (.string key :: colon :: row) (quoted key ++ layout.colon ++ w) := by
  intro rest cs hcs hrest
  obtain ⟨before, after, hbefore, hafter, hcolon⟩ := hlayout.colon
  have hvalue : RowSpelling (colon :: (row ++ rest)) (':' :: (after ++ (w ++ cs))) :=
    .mark rfl ((h rest cs hcs hrest).gaps hafter)
  have hend : EndsNumeral (before ++ ':' :: (after ++ (w ++ cs))) :=
    hbefore.endsNumeral_append (endsNumeral_of_mark? rfl _)
  have hkey := writes_token (spelling_quoted key) _ _ hend (hvalue.gaps hbefore)
  simpa [hcolon] using hkey

mutual

/-- **What is written for a value is its row**, in a layout of blanks and at every depth. -/
lemma writes_write {layout : Layout} (h : layout.Blank) :
    ∀ (value : Json) (depth : Nat), Writes value.tokens (value.write layout depth)
  | .null, _ => writes_token .null
  | .bool true, _ => writes_token .true
  | .bool false, _ => writes_token .false
  | .number value, _ => writes_token (.number value)
  | .string s, _ => writes_token (spelling_quoted s)
  | .array elements, depth =>
      writes_enclosed h depth rfl rfl (writes_elements h elements (depth + 1))
  | .object members, depth =>
      writes_enclosed h depth rfl rfl (writes_members h members (depth + 1))
termination_by structural value => value

lemma writes_elements {layout : Layout} (h : layout.Blank) :
    ∀ (values : List Json) (depth : Nat),
      List.Forall₂ Writes (elementRows values) (writeElements layout depth values)
  | [], _ => .nil
  | value :: rest, depth => .cons (writes_write h value depth) (writes_elements h rest depth)
termination_by structural values => values

lemma writes_members {layout : Layout} (h : layout.Blank) :
    ∀ (members : List (String × Json)) (depth : Nat),
      List.Forall₂ Writes (memberRows members) (writeMembers layout depth members)
  | [], _ => .nil
  | (key, value) :: rest, depth =>
      .cons (writes_member h key (writes_write h value depth)) (writes_members h rest depth)
termination_by structural members => members

end

/-- **A written value is a spelling of it**, and so it is with blanks after it. -/
theorem spelling_write {layout : Layout} (h : layout.Blank) (value : Json) (depth : Nat)
    {gaps : List Char} (hgaps : IsGaps gaps) :
    Spelling value (value.write layout depth ++ gaps) := by
  have hend : EndsNumeral (gaps ++ []) := hgaps.endsNumeral_append fun _ h => nomatch h
  rw [List.append_nil] at hend
  have hrow := writes_write h value depth [] gaps hend (.done hgaps)
  rwa [List.append_nil] at hrow

/-- **What is written is read back**, in every layout of blanks. -/
theorem parse?_write {layout : Layout} (h : layout.Blank) (value : Json) (depth : Nat) :
    parse? (value.write layout depth) = some value := by
  have := parse?_of_spelling (spelling_write h value depth isGaps_nil)
  rwa [List.append_nil] at this

end Signatures.Json
