import Mathlib.Data.List.Forall2
import Signatures.Proofs.Layout
import Signatures.Proofs.Parts

/-!
# Line ends and blank lines

The same lines may be ended by feeds or by returns and feeds, the last one may be ended or not, and
there may be blank lines between them.  A stream is read alike in all these forms.  It is not read
in the same way, though: a return is dropped only before a feed, and so a line may keep in one form
a return that it loses in the other.  That return is blank, which is why nothing but the text shown
in a report can tell the two apart.

The proof compares a stream with its pieces between feeds.  What is read are these pieces in every
form, each with or without the return at its end (`IsLineOf`).

* `Alike` — equal answers, up to one return at the end of a reported text.
* `alike_readLine_append_return` — one return more on a line.
* `Relined` — the three edits, and `Relined.exists_lines`, the lines that are read before and after.
* **`relined_streams_read_alike`** — the answers are alike, and equal where no piece ends in a
  return.
-/

namespace Signatures

/-! ## Answers -/

/-- Equal texts, or one of them has one more return at its end. -/
def EqUpToReturn (a b : String) : Prop := a = b ∨ a = b ++ "\r" ∨ b = a ++ "\r"

/-- Answers that differ in nothing but a return at the end of the text in a report. -/
inductive Alike {α : Type} : Except Fault α → Except Fault α → Prop
  | ok (a : α) : Alike (.ok a) (.ok a)
  | undecodable : Alike (.error .undecodable) (.error .undecodable)
  | malformed {text text' : String} (h : EqUpToReturn text text') (defect : Defect) :
      Alike (.error (.malformed text defect)) (.error (.malformed text' defect))

lemma EqUpToReturn.symm {a b : String} (h : EqUpToReturn a b) : EqUpToReturn b a := by
  rcases h with h | h | h
  · exact Or.inl h.symm
  · exact Or.inr (Or.inr h)
  · exact Or.inr (Or.inl h)

namespace Alike

variable {α β : Type} {x y : Except Fault α}

lemma refl (x : Except Fault α) : Alike x x := by
  cases x with
  | ok a => exact .ok a
  | error fault =>
      cases fault with
      | undecodable => exact .undecodable
      | malformed text defect => exact .malformed (Or.inl rfl) defect

lemma symm (h : Alike x y) : Alike y x := by
  cases h with
  | ok a => exact .ok a
  | undecodable => exact .undecodable
  | malformed h defect => exact .malformed h.symm defect

/-- What goes on alike from alike answers has alike answers. -/
lemma bind (h : Alike x y) {f g : α → Except Fault β} (hfg : ∀ a, Alike (f a) (g a)) :
    Alike (x.bind f) (y.bind g) := by
  cases h with
  | ok a => exact hfg a
  | undecodable => exact .undecodable
  | malformed h defect => exact .malformed h defect

lemma map (h : Alike x y) (f : α → β) : Alike (x.map f) (y.map f) := by
  cases h with
  | ok a => exact .ok (f a)
  | undecodable => exact .undecodable
  | malformed h defect => exact .malformed h defect

end Alike

/-! ## One line -/

lemma dropReturn_append_return (line : List UInt8) :
    dropReturn carriageReturn (line ++ [carriageReturn]) = line := by
  simp [dropReturn]

/-- A text and the text with one more return are read alike. -/
lemma alike_parse_append_return (cs : List Char) :
    Alike (Signature.parse (String.ofList cs))
      (Signature.parse (String.ofList (cs ++ ['\r']))) := by
  have hread : Signature.read (cs ++ ['\r']) = Signature.read cs :=
    read_append_blanks (by decide) cs
  rw [Signature.parse, Signature.parse, String.toList_ofList, String.toList_ofList, hread]
  cases Signature.read cs with
  | ok sig => exact .ok sig
  | error defect => exact .malformed (Or.inr (Or.inr (by simp))) defect

/-- **A return at the end of a line makes no difference** but to the text in a report. -/
lemma alike_readLine_append_return (line : List UInt8) :
    Alike (readLine line) (readLine (line ++ [carriageReturn])) := by
  rcases exists_text_or_undecodable line with ⟨text, rfl⟩ | hbad
  · have hreturn : utf8 text.toList ++ [carriageReturn] = utf8 (text.toList ++ ['\r']) := by
      rw [utf8_append]
      rfl
    have hblank : allBlank (text.toList ++ ['\r']) = allBlank text.toList := by
      have hr : allBlank ['\r'] = true := by decide
      rw [allBlank_append, hr, Bool.and_true]
    rw [hreturn, readLine_utf8, readLine_utf8, hblank]
    split
    · exact .ok none
    · exact (alike_parse_append_return _).map some
  · have hbad' : Fault.undecodable.OnLine (line ++ [carriageReturn]) := by
      intro hvalid
      obtain ⟨cs, hcs⟩ := isValidUTF8_iff_exists.1 hvalid
      refine hbad (isValidUTF8_iff_exists.2 ⟨dropReturn '\r' cs, ?_⟩)
      rw [← dropReturn_utf8, ← hcs, dropReturn_append_return]
    rw [readLine_eq_error_iff.2 hbad, readLine_eq_error_iff.2 hbad']
    exact .undecodable

/-- A piece of a stream, perhaps without the return at its end. -/
def IsLineOf (piece line : List UInt8) : Prop :=
  line = piece ∨ line = dropReturn carriageReturn piece

lemma alike_readLine_dropReturn (piece : List UInt8) :
    Alike (readLine (dropReturn carriageReturn piece)) (readLine piece) := by
  rcases Decidable.em (piece.getLast? = some carriageReturn) with h | h
  · obtain ⟨line, rfl⟩ := List.getLast?_eq_some_iff.1 h
    rw [dropReturn_append_return]
    exact alike_readLine_append_return line
  · rw [dropReturn, if_neg h]
    exact .refl _

lemma IsLineOf.alike_readLine {piece line line' : List UInt8} (h : IsLineOf piece line)
    (h' : IsLineOf piece line') : Alike (readLine line) (readLine line') := by
  rcases h with rfl | rfl <;> rcases h' with rfl | rfl
  · exact .refl _
  · exact (alike_readLine_dropReturn _).symm
  · exact alike_readLine_dropReturn _
  · exact .refl _

/-! ## All lines -/

section Pieces

variable {pieces lines lines' : List (List UInt8)}

/-- **Lines of the same pieces are read alike.** -/
lemma alike_readLines (h : List.Forall₂ IsLineOf pieces lines)
    (h' : List.Forall₂ IsLineOf pieces lines') : Alike (readLines lines) (readLines lines') := by
  rw [readLines_eq_readEach, readLines_eq_readEach]
  induction h generalizing lines' with
  | nil =>
      cases h'
      exact .ok []
  | cons hline hlines ih =>
      cases h' with
      | cons hline' hlines' =>
          exact (hline.alike_readLine hline').bind fun sig? => (ih hlines').map _

/-- Pieces that do not end in a return are the lines. -/
lemma eq_of_forall₂_isLineOf (h : List.Forall₂ IsLineOf pieces lines)
    (hreturn : ∀ piece ∈ pieces, piece.getLast? ≠ some carriageReturn) : lines = pieces := by
  induction h with
  | nil => rfl
  | cons hline hlines ih =>
      obtain ⟨hpiece, hpieces⟩ := List.forall_mem_cons.1 hreturn
      rw [ih hpieces]
      rcases hline with rfl | rfl
      · rfl
      · rw [dropReturn, if_neg hpiece]

end Pieces

/-! ## Streams -/

/-- The stream with a return put before every feed. -/
def withReturns (stream : List UInt8) : List UInt8 :=
  stream.flatMap fun byte => if byte = lineFeed then [carriageReturn, lineFeed] else [byte]

/-- One edit of the line ends or of the blank lines of a stream. -/
inductive Relined : List UInt8 → List UInt8 → Prop
  /-- A return is put before every feed. -/
  | returns (stream : List UInt8) : Relined stream (withReturns stream)
  /-- A blank line is put in where a line begins. -/
  | blankLine {front : List UInt8} {blank : List Char} (h : EndsLine front)
      (hblank : allBlank blank = true) (hfeed : '\n' ∉ blank) (rest : List UInt8) :
      Relined (front ++ rest) (front ++ (utf8 blank ++ lineFeed :: rest))
  /-- A feed is put at the end. -/
  | feed (stream : List UInt8) : Relined stream (stream ++ [lineFeed])

lemma withReturns_of_not_mem {line : List UInt8} (h : lineFeed ∉ line) :
    withReturns line = line := by
  induction line with
  | nil => rfl
  | cons byte line ih =>
      simp only [List.mem_cons, not_or] at h
      have ih := ih h.2
      rw [withReturns] at ih ⊢
      rw [List.flatMap_cons, if_neg (Ne.symm h.1), ih]
      rfl

lemma withReturns_append (a b : List UInt8) :
    withReturns (a ++ b) = withReturns a ++ withReturns b := List.flatMap_append

/-- The pieces of a stream with returns are those of the stream, each but the last with one more
return. -/
lemma splitOn_withReturns (stream : List UInt8) :
    (withReturns stream).splitOn lineFeed =
      (stream.splitOn lineFeed).dropLast.map (· ++ [carriageReturn]) ++
        (stream.splitOn lineFeed).getLast?.toList := by
  induction stream using line_induction lineFeed with
  | last line h => simp [withReturns_of_not_mem h, List.splitOn_eq_singleton h]
  | cut line rest h ih =>
      obtain ⟨piece, pieces, hpieces⟩ :=
        List.exists_cons_of_ne_nil (List.splitOn_ne_nil lineFeed rest)
      have hreturn : lineFeed ∉ line ++ [carriageReturn] := by
        simpa [carriageReturn, lineFeed] using h
      have hbytes : withReturns (line ++ lineFeed :: rest) =
          (line ++ [carriageReturn]) ++ lineFeed :: withReturns rest := by
        rw [withReturns_append, withReturns_of_not_mem h]
        simp [withReturns]
      rw [hbytes, List.splitOn_append_cons_self_of_not_mem hreturn, ih,
        List.splitOn_append_cons_self_of_not_mem h, hpieces]
      simp [List.getLast?_cons]

/-- A blank line holds nothing. -/
lemma readLines_append_nil (lines : List (List UInt8)) :
    readLines (lines ++ [[]]) = readLines lines := by
  have hnil : readLines [[]] = .ok [] := by rfl
  rw [readLines_append, hnil]
  cases readLines lines <;> simp [Except.bind, Except.map]

/-- **A stream is read as its pieces**, each but the last without the return that may end it. -/
lemma readStream_of_splitOn {stream last : List UInt8} {pieces : List (List UInt8)}
    (h : stream.splitOn lineFeed = pieces ++ [last]) :
    readStream stream = readLines (pieces.map (dropReturn carriageReturn) ++ [last]) := by
  have hlines : streamLines stream =
      pieces.map (dropReturn carriageReturn) ++ (if last = [] then [] else [last]) := by
    rw [streamLines, linesOf, h, List.dropLast_concat, List.getLast?_concat]
    by_cases hlast : last = [] <;> simp [hlast, Option.filter]
  rw [readStream_eq_readLines, hlines]
  split
  · next hlast => rw [hlast, List.append_nil, readLines_append_nil]
  · rfl

lemma allBlank_dropReturn {cs : List Char} (h : allBlank cs = true) :
    allBlank (dropReturn '\r' cs) = true := by
  rw [dropReturn]
  split
  · rw [allBlank_iff] at h ⊢
    exact fun c hc => h c ((List.dropLast_sublist cs).subset hc)
  · exact h

/-- A blank line may stand wherever a line begins. -/
lemma readStream_append_blankLine {front : List UInt8} (h : EndsLine front) {blank : List Char}
    (hblank : allBlank blank = true) (hfeed : '\n' ∉ blank) (rest : List UInt8) :
    readStream (front ++ (utf8 blank ++ lineFeed :: rest)) = readStream (front ++ rest) := by
  have hline : nextLine? (utf8 blank ++ lineFeed :: rest) =
      some (utf8 (dropReturn '\r' blank), rest) := by
    rw [nextLine?_append (mt lineFeed_mem_utf8_iff.1 hfeed), dropReturn_utf8]
  have hread : readLine (utf8 (dropReturn '\r' blank)) = .ok none := by
    rw [readLine_utf8, if_pos (allBlank_dropReturn hblank)]
  have hrest : readStream (utf8 blank ++ lineFeed :: rest) = readStream rest := by
    rw [readStream_of_ok hline hread]
    cases readStream rest <;> rfl
  rw [h.readStream_append, h.readStream_append, hrest]

/-- Every piece is a line, whether returns are dropped or not. -/
lemma forall₂_isLineOf_self (pieces : List (List UInt8)) : List.Forall₂ IsLineOf pieces pieces :=
  List.forall₂_same.2 fun _ _ => Or.inl rfl

lemma forall₂_isLineOf_dropReturn (pieces : List (List UInt8)) :
    List.Forall₂ IsLineOf pieces (pieces.map (dropReturn carriageReturn)) :=
  List.forall₂_map_right_iff.2 (List.forall₂_same.2 fun _ _ => Or.inr rfl)

/-- **The lines before and after an edit are those of the same pieces.** -/
lemma Relined.exists_lines {stream stream' : List UInt8} (h : Relined stream stream') :
    ∃ lines lines', List.Forall₂ IsLineOf (stream.splitOn lineFeed) lines ∧
      List.Forall₂ IsLineOf (stream.splitOn lineFeed) lines' ∧
      readStream stream = readLines lines ∧ readStream stream' = readLines lines' := by
  obtain ⟨pieces, last, hpieces⟩ : ∃ pieces last, stream.splitOn lineFeed = pieces ++ [last] := by
    rcases List.eq_nil_or_concat (stream.splitOn lineFeed) with hnil | ⟨pieces, last, hsplit⟩
    · exact absurd hnil (List.splitOn_ne_nil _ _)
    · exact ⟨pieces, last, by rw [hsplit, List.concat_eq_append]⟩
  have hlines : List.Forall₂ IsLineOf (stream.splitOn lineFeed)
      (pieces.map (dropReturn carriageReturn) ++ [last]) := by
    rw [hpieces]
    exact List.rel_append (forall₂_isLineOf_dropReturn pieces) (forall₂_isLineOf_self [last])
  have hread := readStream_of_splitOn hpieces
  cases h with
  | returns stream =>
      -- the returns that are dropped are the ones that were put in
      have hreturns : (withReturns stream).splitOn lineFeed =
          pieces.map (· ++ [carriageReturn]) ++ [last] := by
        rw [splitOn_withReturns, hpieces, List.dropLast_concat, List.getLast?_concat]
        rfl
      refine ⟨_, pieces ++ [last], hlines, ?_, hread, ?_⟩
      · rw [hpieces]
        exact forall₂_isLineOf_self _
      · rw [readStream_of_splitOn hreturns, List.map_map]
        simp [Function.comp_def, dropReturn_append_return]
  | blankLine hfront hblank hfeed rest =>
      exact ⟨_, _, hlines, hlines, hread,
        (readStream_append_blankLine hfront hblank hfeed rest).trans hread⟩
  | feed stream =>
      have hfeed : (stream ++ [lineFeed]).splitOn lineFeed = (pieces ++ [last]) ++ [[]] := by
        rw [List.splitOn_append_cons_self, hpieces, List.splitOn_nil]
      refine ⟨_, (pieces ++ [last]).map (dropReturn carriageReturn), hlines, ?_, hread, ?_⟩
      · rw [hpieces]
        exact forall₂_isLineOf_dropReturn _
      · rw [readStream_of_splitOn hfeed, readLines_append_nil]

/-- **Line ends and blank lines do not matter.**  A stream and the stream after an edit are both
read, as the same signatures, or have the same fault, where a text that is shown may have one return
more at its end.  Without returns at the ends of the pieces the text is the same as well. -/
theorem relined_streams_read_alike {stream stream' : List UInt8} (h : Relined stream stream') :
    Alike (readStream stream) (readStream stream') ∧
    ((∀ piece ∈ stream.splitOn lineFeed, piece.getLast? ≠ some carriageReturn) →
      readStream stream' = readStream stream) := by
  obtain ⟨lines, lines', hlines, hlines', hread, hread'⟩ := h.exists_lines
  rw [hread, hread']
  refine ⟨alike_readLines hlines hlines', ?_⟩
  intro hreturn
  rw [eq_of_forall₂_isLineOf hlines hreturn, eq_of_forall₂_isLineOf hlines' hreturn]

/-- A return at the end of the stream is shown, and no more when a feed is put behind it.  The other
stream has no returns, so that returns before its feeds change nothing. -/
theorem last_return_is_dropped_before_a_feed :
    let stream := utf8 "int f()\n oops \r".toList
    let plain := utf8 "int f()\n oops \nvoid g()".toList
    Relined stream (stream ++ [lineFeed]) ∧
      readStream stream = .error (.malformed " oops \r" .noOpening) ∧
      readStream (stream ++ [lineFeed]) = .error (.malformed " oops " .noOpening) ∧
      Alike (readStream stream) (readStream (stream ++ [lineFeed])) ∧
      (∀ piece ∈ plain.splitOn lineFeed, piece.getLast? ≠ some carriageReturn) ∧
      readStream (withReturns plain) = readStream plain := by
  intro stream plain
  have hread : readStream stream = .error (.malformed " oops \r" .noOpening) := by
    rw [readStream_eq_readLines]
    rfl
  have hread' : readStream (stream ++ [lineFeed]) = .error (.malformed " oops " .noOpening) := by
    rw [readStream_eq_readLines]
    rfl
  have hplain : ∀ piece ∈ plain.splitOn lineFeed, piece.getLast? ≠ some carriageReturn := by
    decide
  exact ⟨.feed stream, hread, hread', (relined_streams_read_alike (.feed stream)).1, hplain,
    (relined_streams_read_alike (.returns plain)).2 hplain⟩

end Signatures
