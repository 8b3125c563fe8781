import Signatures.Proofs.Encoding
import Signatures.Proofs.Halves

/-!
# Which line of a stream is reported

A stream is read one line at a time and the reading stops at a fault.  `Fault.OnLine` says what a
fault is of one line by itself, without reading any other; the stream then has the fault of the
first line that has one, and a stream of which no line has one is read as all its lines.

* `readLine_eq_error_iff`, `readLine_eq_ok_iff`, `readLine_utf8` — what one line contributes.
* `readLines_append` — some lines after others: the first fault of the first ones, or else what the
  second ones say behind what the first ones say.
* `linesOf_append_feed` — where a line ends, the lines before do not depend on what follows.
* **`readStream_utf8`** — reading the bytes of a text is reading the lines of the text.
* **`readStream_by_lines`** — the two cases, and that nothing behind the first fault matters.
-/

namespace Signatures

/-! ## Texts in a row -/

namespace Signature

lemma parseAll_cons (text : String) (texts : List String) :
    parseAll (text :: texts) =
      (parse text).bind fun sig => (parseAll texts).map (sig :: ·) := by
  simp only [parseAll, List.mapM_cons]
  cases parse text with
  | error fault => rfl
  | ok sig => cases texts.mapM parse <;> rfl

/-- Texts are read when each of them is, in the order in which they stand. -/
lemma parseAll_eq_ok_iff {texts : List String} {sigs : List Signature} :
    parseAll texts = .ok sigs ↔ texts.map parse = sigs.map .ok := by
  induction texts generalizing sigs with
  | nil => cases sigs <;> simp [parseAll, pure, Except.pure]
  | cons text texts ih =>
      rw [parseAll_cons]
      cases hparse : parse text with
      | error fault => cases sigs <;> simp [Except.bind, hparse]
      | ok sig =>
          cases sigs with
          | nil => cases parseAll texts <;> simp [Except.bind, Except.map]
          | cons first rest =>
              simp only [Except.bind, List.map_cons, List.cons.injEq, hparse, Except.ok.injEq,
                ← ih]
              cases parseAll texts <;> simp [Except.map]

end Signature

/-! ## One line -/

/-- What is wrong with a line: it is no text, or it is a text with something on it that has a
defect. -/
def Fault.OnLine (line : List UInt8) : Fault → Prop
  | undecodable => ¬ line.toByteArray.IsValidUTF8
  | malformed text defect =>
      line = utf8 text.toList ∧ allBlank text.toList = false ∧
        Signature.parse text = .error (.malformed text defect)

lemma readLine_utf8 (cs : List Char) :
    readLine (utf8 cs) =
      if allBlank cs then .ok none else (Signature.parse (String.ofList cs)).map some := by
  simp only [readLine, lineText?_utf8, String.toList_ofList]

/-- A line is a text or has the first of the two faults. -/
lemma exists_text_or_undecodable (line : List UInt8) :
    (∃ text : String, line = utf8 text.toList) ∨ Fault.undecodable.OnLine line := by
  cases htext : lineText? line with
  | none => exact Or.inr (lineText?_eq_none_iff.1 htext)
  | some text => exact Or.inl ⟨text, lineText?_eq_some_iff.1 htext⟩

/-- **Reading a line tells the fault on it.** -/
lemma readLine_eq_error_iff {line : List UInt8} {fault : Fault} :
    readLine line = .error fault ↔ fault.OnLine line := by
  constructor
  · intro h
    rcases exists_text_or_undecodable line with ⟨text, rfl⟩ | hline
    · rw [readLine_utf8, String.ofList_toList] at h
      split at h
      · cases h
      · next hblank =>
        cases hparse : Signature.parse text with
        | ok sig => rw [hparse] at h; cases h
        | error fault =>
            rw [hparse] at h
            cases h
            obtain ⟨defect, -, rfl⟩ := Signature.parse_eq_error_iff.1 hparse
            exact ⟨rfl, by simpa using hblank, hparse⟩
    · rw [readLine, lineText?_eq_none_iff.2 hline] at h
      cases h
      exact hline
  · intro h
    cases fault with
    | undecodable => rw [readLine, lineText?_eq_none_iff.2 h]
    | malformed text defect =>
        obtain ⟨rfl, hblank, hparse⟩ := h
        rw [readLine_utf8, hblank, String.ofList_toList, hparse]
        rfl

/-- **Reading a line tells what is on it**: nothing but blanks, or a signature. -/
lemma readLine_eq_ok_iff {line : List UInt8} {sig? : Option Signature} :
    readLine line = .ok sig? ↔ ∃ text : String, line = utf8 text.toList ∧
      (allBlank text.toList = true ∧ sig? = none ∨
        allBlank text.toList = false ∧ ∃ sig,
          Signature.parse text = .ok sig ∧ sig? = some sig) := by
  constructor
  · intro h
    rcases exists_text_or_undecodable line with ⟨text, rfl⟩ | hbad
    · refine ⟨text, rfl, ?_⟩
      rw [readLine_utf8, String.ofList_toList] at h
      cases hblank : allBlank text.toList with
      | true =>
          rw [hblank, if_pos rfl] at h
          cases h
          exact Or.inl ⟨rfl, rfl⟩
      | false =>
          rw [hblank, if_neg Bool.false_ne_true] at h
          cases hparse : Signature.parse text with
          | error fault => rw [hparse] at h; cases h
          | ok sig => rw [hparse] at h; cases h; exact Or.inr ⟨rfl, sig, rfl, rfl⟩
    · rw [readLine_eq_error_iff.2 hbad] at h
      cases h
  · rintro ⟨text, rfl, ⟨hblank, rfl⟩ | ⟨hblank, sig, hparse, rfl⟩⟩
    · rw [readLine_utf8, if_pos hblank]
    · rw [readLine_utf8, hblank, String.ofList_toList, hparse]
      rfl

/-! ## All lines -/

lemma readLines_append (a b : List (List UInt8)) :
    readLines (a ++ b) = (readLines a).bind fun sigs => (readLines b).map (sigs ++ ·) := by
  induction a with
  | nil => cases h : readLines b <;> simp [readLines, h, Except.bind, Except.map]
  | cons line lines ih =>
      rw [List.cons_append, readLines, readLines]
      cases readLine line with
      | error fault => rfl
      | ok sig? =>
          simp only [ih]
          cases readLines lines <;> cases readLines b <;> simp [Except.bind, Except.map]

/-- Lines of which none has a fault are texts, and those that are not blank are read. -/
lemma exists_texts_of_forall_not_onLine {lines : List (List UInt8)}
    (h : ∀ line ∈ lines, ∀ fault : Fault, ¬ fault.OnLine line) :
    ∃ (texts : List String) (sigs : List Signature),
      lines = texts.map (fun text => utf8 text.toList) ∧
      (texts.filter fun text => !allBlank text.toList).map Signature.parse = sigs.map .ok ∧
      readLines lines = .ok sigs := by
  induction lines with
  | nil => exact ⟨[], [], rfl, rfl, rfl⟩
  | cons line lines ih =>
      obtain ⟨hline, hlines⟩ := List.forall_mem_cons.1 h
      obtain ⟨texts, sigs, rfl, hsigs, hread⟩ := ih hlines
      rcases exists_text_or_undecodable line with ⟨text, rfl⟩ | hbad
      · cases hblank : allBlank text.toList with
        | true =>
            refine ⟨text :: texts, sigs, rfl, by simpa [hblank] using hsigs, ?_⟩
            rw [readLines, readLine_utf8, hblank, if_pos rfl, hread]
            rfl
        | false =>
            cases hparse : Signature.parse text with
            | error fault =>
                obtain ⟨defect, -, rfl⟩ := Signature.parse_eq_error_iff.1 hparse
                exact absurd ⟨rfl, hblank, hparse⟩ (hline (.malformed text defect))
            | ok sig =>
                refine ⟨text :: texts, sig :: sigs, rfl, by simp [hblank, hparse, hsigs], ?_⟩
                rw [readLines, readLine_utf8, hblank, String.ofList_toList, hparse, hread]
                rfl
      · exact absurd hbad (hline .undecodable)

/-- **The first fault stops the reading.** -/
lemma readLines_eq_error {before after : List (List UInt8)} {line : List UInt8} {fault : Fault}
    (hbefore : ∀ l ∈ before, ∀ f : Fault, ¬ f.OnLine l) (hline : fault.OnLine line) :
    readLines (before ++ line :: after) = .error fault := by
  obtain ⟨-, sigs, -, -, hread⟩ := exists_texts_of_forall_not_onLine hbefore
  rw [readLines_append, hread, readLines, readLine_eq_error_iff.2 hline]
  rfl

/-- **Where a line ends, the stream may be cut.** -/
lemma linesOf_append_feed {α : Type} [DecidableEq α] (feed mark : α) (front rest : List α) :
    linesOf feed mark (front ++ feed :: rest) =
      linesOf feed mark (front ++ [feed]) ++ linesOf feed mark rest := by
  induction front using line_induction feed with
  | last line h => rw [linesOf_append h, linesOf_append h, linesOf_nil]; rfl
  | cut line front h ih =>
      rw [List.append_assoc, List.append_assoc, List.cons_append, List.cons_append,
        linesOf_append h, linesOf_append h, ih, List.cons_append]

/-- Lines that are read have no fault. -/
lemma not_onLine_of_readLines {lines : List (List UInt8)} {sigs : List Signature}
    (h : readLines lines = .ok sigs) : ∀ line ∈ lines, ∀ fault : Fault, ¬ fault.OnLine line := by
  intro line hmem fault hline
  obtain ⟨before, after, rfl⟩ := List.append_of_mem hmem
  rw [readLines_append, readLines, readLine_eq_error_iff.2 hline] at h
  cases hbefore : readLines before with
  | error f => rw [hbefore] at h; cases h
  | ok sigs => rw [hbefore] at h; cases h

/-- Reading encoded lines is reading those that are not blank. -/
lemma readLines_utf8 (lines : List (List Char)) :
    readLines (lines.map utf8) =
      Signature.parseAll ((lines.filter fun line => !allBlank line).map String.ofList) := by
  induction lines with
  | nil => rfl
  | cons line lines ih =>
      rw [List.map_cons, readLines, readLine_utf8, ih]
      cases hblank : allBlank line with
      | true =>
          rw [if_pos rfl, List.filter_cons_of_neg (by simp [hblank])]
          cases Signature.parseAll _ <;> rfl
      | false =>
          rw [if_neg Bool.false_ne_true, List.filter_cons_of_pos (by simp [hblank]), List.map_cons,
            Signature.parseAll_cons]
          cases Signature.parse (String.ofList line) with
          | error fault => rfl
          | ok sig => cases Signature.parseAll _ <;> rfl

/-- **Reading the bytes of a text is reading the lines of the text.** -/
theorem readStream_utf8 (cs : List Char) :
    readStream (utf8 cs) = Signature.parseAll
      (((linesOf '\n' '\r' cs).filter fun line => !allBlank line).map String.ofList) := by
  rw [readStream_eq_readLines, streamLines_utf8, readLines_utf8]

/-- **A stream is read as all its lines, or has the fault of the first line that has one.**  In the
first case every line is a text, and the signatures are those of the lines that are not blank.  What
follows the end of a line that has a fault may be anything. -/
theorem readStream_by_lines (stream : List UInt8) :
    ((∀ line ∈ streamLines stream, ∀ fault : Fault, ¬ fault.OnLine line) →
      ∃ (texts : List String) (sigs : List Signature),
        streamLines stream = texts.map (fun text => utf8 text.toList) ∧
        (texts.filter fun text => !allBlank text.toList).map Signature.parse = sigs.map .ok ∧
        readStream stream = .ok sigs) ∧
    (∀ before line after fault, streamLines stream = before ++ line :: after →
      (∀ l ∈ before, ∀ f : Fault, ¬ f.OnLine l) → fault.OnLine line →
      readStream stream = .error fault) ∧
    ∀ front rest rest', stream = front ++ lineFeed :: rest →
      (∃ line ∈ streamLines (front ++ [lineFeed]), ∃ fault : Fault, fault.OnLine line) →
      readStream (front ++ lineFeed :: rest') = readStream stream := by
  refine ⟨?_, ?_, ?_⟩
  · intro h
    rw [readStream_eq_readLines]
    exact exists_texts_of_forall_not_onLine h
  · intro before line after fault hlines hbefore hline
    rw [readStream_eq_readLines, hlines]
    exact readLines_eq_error hbefore hline
  · rintro front rest rest' rfl ⟨line, hmem, fault, hline⟩
    have hcut : ∀ rest, readStream (front ++ lineFeed :: rest) =
        (readLines (streamLines (front ++ [lineFeed]))).bind fun sigs =>
          (readLines (streamLines rest)).map (sigs ++ ·) := by
      intro rest
      rw [readStream_eq_readLines, streamLines, linesOf_append_feed, readLines_append]
    rw [hcut, hcut]
    cases hread : readLines (streamLines (front ++ [lineFeed])) with
    | error f => rfl
    | ok sigs => exact absurd hline (not_onLine_of_readLines hread line hmem fault)

/-- A blank line and one whose return is dropped are read; then comes a line that keeps one of its
two returns, and a byte that is in no text stands behind that line. -/
theorem first_fault_hides_what_follows :
    let good := utf8 "int f()\r\n\u00a0\t\nvoid g(int a)".toList
    let bad := utf8 "int f()\r\n\u00a0\t\n oops \r\r".toList ++ lineFeed :: [0xff]
    (∃ (texts : List String) (sigs : List Signature),
        streamLines good = texts.map (fun text => utf8 text.toList) ∧
        (texts.filter fun text => !allBlank text.toList).map Signature.parse = sigs.map .ok ∧
        readStream good = .ok sigs) ∧
      readStream bad = .error (.malformed " oops \r" .noOpening) ∧
      readStream (utf8 "int f()\r\n\u00a0\t\n oops \r\r".toList ++ lineFeed :: [0x80, 10]) =
        readStream bad := by
  intro good bad
  have hfront : readLines [utf8 "int f()".toList, utf8 "\u00a0\t".toList] =
      .ok [⟨none, "int", "f", []⟩] := by rfl
  have hgood : readLines [utf8 "int f()".toList, utf8 "\u00a0\t".toList,
      utf8 "void g(int a)".toList] =
      .ok [⟨none, "int", "f", []⟩, ⟨none, "void", "g", [⟨"int", "a"⟩]⟩] := by rfl
  have hline : (Fault.malformed " oops \r" .noOpening).OnLine (utf8 " oops \r".toList) :=
    ⟨rfl, by decide, by rfl⟩
  obtain ⟨-, hstop, hhide⟩ := readStream_by_lines bad
  refine ⟨(readStream_by_lines good).1 (not_onLine_of_readLines hgood), ?_, ?_⟩
  · exact hstop _ _ [[0xff]] _ (by decide) (not_onLine_of_readLines hfront) hline
  · exact hhide _ _ _ rfl ⟨_, by decide, _, hline⟩

end Signatures
