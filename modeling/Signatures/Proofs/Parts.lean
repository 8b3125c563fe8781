import Signatures.Proofs.FirstFault

/-!
# A stream and its parts

A stream may be cut wherever a line ends, and then it is read part by part.  Nothing is carried over
from one line to the next: no pending return, no half of a character, no count of blank lines.  Two
things follow.

**Joining.**  Behind a stream that stops where a line does, `EndsLine`, any other stream may be put.
`EndsLine.readStream_append` says what the two together hold, and with it that files of signatures
may be concatenated.

**Validity.**  Lines are cut out of the bytes first and decoded one by one afterwards.  Decoding the
whole stream first would give the same: a stream is a text in UTF-8 exactly when each of its lines
is (`isValidUTF8_iff_lines`), because neither a line feed nor a dropped return can be part of a
longer character.  So the lines of bytes that are read are the lines of a text, and the other way
round.

* **`joined_streams_read_in_turn`** — the first fault of two joined streams, or all they hold.
* **`bytes_read_as_text`** — reading bytes and reading text agree, and what a byte outside of any
  text leads to.
-/

namespace Signatures

/-! ## Joining -/

/-- A stream that stops where a line does: nothing is on it, or its last byte is a feed. -/
def EndsLine (stream : List UInt8) : Prop := stream = [] ∨ stream.getLast? = some lineFeed

instance (stream : List UInt8) : Decidable (EndsLine stream) :=
  inferInstanceAs (Decidable (stream = [] ∨ stream.getLast? = some lineFeed))

section Joining

variable {a : List UInt8}

lemma EndsLine.streamLines_append (h : EndsLine a) (b : List UInt8) :
    streamLines (a ++ b) = streamLines a ++ streamLines b := by
  rcases h with rfl | hlast
  · simp
  · obtain ⟨front, rfl⟩ := List.getLast?_eq_some_iff.1 hlast
    simpa [streamLines] using linesOf_append_feed lineFeed carriageReturn front b

/-- **Behind the end of a line, reading starts afresh.** -/
lemma EndsLine.readStream_append (h : EndsLine a) (b : List UInt8) :
    readStream (a ++ b) =
      (readStream a).bind fun sigs => (readStream b).map (sigs ++ ·) := by
  simp only [readStream_eq_readLines, h.streamLines_append, readLines_append]

/-- **Two joined streams are read in turn.**  A fault of the first one is the answer, whatever the
second one is.  Otherwise the signatures of the second one come behind those of the first, or its
fault is the answer. -/
theorem joined_streams_read_in_turn (h : EndsLine a) (b : List UInt8) :
    (∀ fault, readStream a = .error fault → readStream (a ++ b) = .error fault) ∧
    ∀ xs, readStream a = .ok xs →
      (∀ ys, readStream b = .ok ys → readStream (a ++ b) = .ok (xs ++ ys)) ∧
      ∀ fault, readStream b = .error fault → readStream (a ++ b) = .error fault := by
  rw [h.readStream_append]
  refine ⟨?_, ?_⟩
  · intro fault ha
    rw [ha]
    rfl
  · intro xs ha
    rw [ha]
    refine ⟨?_, ?_⟩
    · intro ys hb
      rw [hb]
      rfl
    · intro fault hb
      rw [hb]
      rfl

end Joining

/-- The first file ends with a blank line.  Behind it come a signature on a line without an end, or
a byte that no text has; and behind a defect that byte is not even seen. -/
theorem joined_files_are_read :
    let file := utf8 "int f()\r\n\n".toList
    let broken := utf8 "int f(\n".toList
    EndsLine file ∧ EndsLine broken ∧
      readStream (file ++ utf8 "void g(int a)".toList) =
        .ok [⟨none, "int", "f", []⟩, ⟨none, "void", "g", [⟨"int", "a"⟩]⟩] ∧
      readStream (file ++ [0xff]) = .error .undecodable ∧
      readStream (broken ++ [0xff]) = .error (.malformed "int f(" .noClosing) := by
  intro file broken
  have hfile : EndsLine file := by decide
  have hbroken : EndsLine broken := by decide
  have hread : readStream file = .ok [⟨none, "int", "f", []⟩] := by
    rw [readStream_eq_readLines]
    rfl
  refine ⟨hfile, hbroken, ?_, ?_, ?_⟩
  · refine ((joined_streams_read_in_turn hfile _).2 _ hread).1 [⟨none, "void", "g", _⟩] ?_
    rw [readStream_eq_readLines]
    rfl
  · refine ((joined_streams_read_in_turn hfile _).2 _ hread).2 _ ?_
    rw [readStream_eq_readLines]
    rfl
  · refine (joined_streams_read_in_turn hbroken _).1 _ ?_
    rw [readStream_eq_readLines]
    rfl

/-! ## Validity -/

lemma isValidUTF8_iff_exists {bytes : List UInt8} :
    bytes.toByteArray.IsValidUTF8 ↔ ∃ cs, bytes = utf8 cs := by
  constructor
  · rintro ⟨cs, h⟩
    exact ⟨cs, toByteArray_inj h⟩
  · rintro ⟨cs, rfl⟩
    exact ⟨cs, rfl⟩

/-- A return that is dropped was a character of its own. -/
lemma isValidUTF8_of_dropReturn {line : List UInt8}
    (h : (dropReturn carriageReturn line).toByteArray.IsValidUTF8) :
    line.toByteArray.IsValidUTF8 := by
  rw [isValidUTF8_iff_exists] at h ⊢
  obtain ⟨cs, hcs⟩ := h
  rw [dropReturn] at hcs
  split at hcs
  · next hlast =>
    obtain ⟨front, rfl⟩ := List.getLast?_eq_some_iff.1 hlast
    rw [List.dropLast_concat] at hcs
    refine ⟨cs ++ ['\r'], ?_⟩
    rw [utf8_append, hcs]
    rfl
  · exact ⟨cs, hcs⟩

/-- **A stream is valid when each of its lines is**, and only then. -/
theorem isValidUTF8_iff_lines (stream : List UInt8) :
    stream.toByteArray.IsValidUTF8 ↔
      ∀ line ∈ streamLines stream, line.toByteArray.IsValidUTF8 := by
  constructor
  · intro h
    obtain ⟨cs, rfl⟩ := isValidUTF8_iff_exists.1 h
    rw [streamLines_utf8]
    exact List.forall_mem_map.2 fun line _ => isValidUTF8_iff_exists.2 ⟨line, rfl⟩
  · intro h
    induction stream using line_induction lineFeed with
    | last line hfeed =>
        rcases Decidable.em (line = []) with rfl | hne
        · exact isValidUTF8_iff_exists.2 ⟨[], rfl⟩
        · rw [streamLines, linesOf_last hfeed hne] at h
          exact h line (List.mem_singleton_self line)
    | cut line rest hfeed ih =>
        rw [streamLines, linesOf_append hfeed, List.forall_mem_cons] at h
        obtain ⟨cs, rfl⟩ := isValidUTF8_iff_exists.1 (isValidUTF8_of_dropReturn h.1)
        obtain ⟨ds, rfl⟩ := isValidUTF8_iff_exists.1 (ih h.2)
        -- the line and the rest are texts, and so is the feed between them
        refine isValidUTF8_iff_exists.2 ⟨cs ++ '\n' :: ds, ?_⟩
        rw [utf8_append, utf8_cons]
        rfl

/-- What is read is a text. -/
lemma isValidUTF8_of_readStream {stream : List UInt8} {sigs : List Signature}
    (h : readStream stream = .ok sigs) : stream.toByteArray.IsValidUTF8 := by
  rw [readStream_eq_readLines] at h
  rw [isValidUTF8_iff_lines]
  intro line hline
  by_contra hbad
  exact not_onLine_of_readLines h line hline .undecodable hbad

/-- In a text no line is undecodable. -/
lemma readStream_ne_undecodable {stream : List UInt8} (h : stream.toByteArray.IsValidUTF8) :
    readStream stream ≠ .error .undecodable := by
  intro hread
  rw [readStream_eq_readLines] at hread
  obtain ⟨line, hline, hbad⟩ := exists_onLine_of_readLines hread
  exact hbad ((isValidUTF8_iff_lines stream).1 h line hline)

/-- A stream that is no text has a first line that is none. -/
lemma exists_first_undecodable {stream : List UInt8} (h : ¬ stream.toByteArray.IsValidUTF8) :
    ∃ before line after, streamLines stream = before ++ line :: after ∧
      (∀ l ∈ before, l.toByteArray.IsValidUTF8) ∧ ¬ line.toByteArray.IsValidUTF8 := by
  rw [isValidUTF8_iff_lines] at h
  simp only [not_forall] at h
  obtain ⟨bad, hmem, hbad⟩ := h
  have hsome : ((streamLines stream).find? fun l => !decide l.toByteArray.IsValidUTF8).isSome :=
    List.find?_isSome.2 ⟨bad, hmem, by simpa using hbad⟩
  obtain ⟨line, hfind⟩ := Option.isSome_iff_exists.1 hsome
  obtain ⟨hline, before, after, hlines, hbefore⟩ := List.find?_eq_some_iff_append.1 hfind
  exact ⟨before, line, after, hlines, by simpa using hbefore, by simpa using hline⟩

/-- **The first line that is no text is reported, unless a line before it has a defect.** -/
lemma readStream_of_first_undecodable {stream line : List UInt8} {before after : List (List UInt8)}
    (hlines : streamLines stream = before ++ line :: after)
    (hbefore : ∀ l ∈ before, l.toByteArray.IsValidUTF8) (hline : ¬ line.toByteArray.IsValidUTF8) :
    (∀ l ∈ before, ∀ fault : Fault, ¬ fault.OnLine l) ∧ readStream stream = .error .undecodable ∨
      ∃ l ∈ before, ∃ text defect, (Fault.malformed text defect).OnLine l ∧
        readStream stream = .error (.malformed text defect) := by
  rw [readStream_eq_readLines, hlines]
  cases hread : readLines before with
  | ok sigs =>
      have hclean := not_onLine_of_readLines hread
      exact Or.inl ⟨hclean, readLines_eq_error hclean hline⟩
  | error fault =>
      obtain ⟨l, hl, hfault⟩ := exists_onLine_of_readLines hread
      cases fault with
      | undecodable => exact absurd (hbefore l hl) hfault
      | malformed text defect =>
          refine Or.inr ⟨l, hl, text, defect, hfault, ?_⟩
          rw [readLines_append, hread]
          rfl

/-- The bytes of a string are those of its characters. -/
lemma toList_data_toUTF8 (text : String) : text.toUTF8.data.toList = utf8 text.toList := by
  have hbytes := toByteArray_utf8 text.toList
  rw [String.ofList_toList] at hbytes
  rw [String.toUTF8_eq_toByteArray, ← hbytes]
  simp

/-- **Bytes are read as the text that they encode.**  The lines of the text are found among its
characters, a return directly before a feed is dropped, blank lines are left out and the others are
read in order.  What is read is always a text; and of a stream that is none, the first line that is
none is reported, unless a line before it has a defect. -/
theorem bytes_read_as_text :
    (∀ text : String,
      readStream text.toUTF8.data.toList = Signature.parseAll
        (((linesOf '\n' '\r' text.toList).filter fun line => !allBlank line).map String.ofList) ∧
      readStream text.toUTF8.data.toList ≠ .error .undecodable) ∧
    (∀ stream sigs, readStream stream = .ok sigs → stream.toByteArray.IsValidUTF8) ∧
    ∀ stream : List UInt8, ¬ stream.toByteArray.IsValidUTF8 →
      ∃ before line after, streamLines stream = before ++ line :: after ∧
        (∀ l ∈ before, l.toByteArray.IsValidUTF8) ∧ ¬ line.toByteArray.IsValidUTF8 ∧
        ((∀ l ∈ before, ∀ fault : Fault, ¬ fault.OnLine l) ∧
            readStream stream = .error .undecodable ∨
          ∃ l ∈ before, ∃ text defect, (Fault.malformed text defect).OnLine l ∧
            readStream stream = .error (.malformed text defect)) := by
  refine ⟨?_, ?_, ?_⟩
  · intro text
    rw [toList_data_toUTF8]
    exact ⟨readStream_utf8 _, readStream_ne_undecodable (isValidUTF8_iff_exists.2 ⟨_, rfl⟩)⟩
  · intro stream sigs
    exact isValidUTF8_of_readStream
  · intro stream h
    obtain ⟨before, line, after, hlines, hbefore, hline⟩ := exists_first_undecodable h
    exact ⟨before, line, after, hlines, hbefore, hline,
      readStream_of_first_undecodable hlines hbefore hline⟩

/-- The first two streams are texts.  Behind a blank line the first one has a defect, and the report
shows that line with one of the two returns before its feed.  In the third stream a line feed stands
where the second byte of a character should; the line before it is read, and the one behind it has a
defect of its own. -/
theorem cut_character_is_found :
    let faulty := "\r\n\r int \u00e9t\u00e9\r\r\nint f()".toUTF8.data.toList
    let good := utf8 "\u00e9t\u00e9 f()\r\n".toList
    let bad := utf8 "int f()\r\n".toList ++ [0xc3, 0x0a] ++ utf8 "oops\n".toList
    readStream faulty = .error (.malformed "\r int \u00e9t\u00e9\r" .noOpening) ∧
      readStream good = .ok [⟨none, "\u00e9t\u00e9", "f", []⟩] ∧ good.toByteArray.IsValidUTF8 ∧
      ¬ bad.toByteArray.IsValidUTF8 ∧
      ∃ before line after, streamLines bad = before ++ line :: after ∧
        (∀ l ∈ before, l.toByteArray.IsValidUTF8) ∧ ¬ line.toByteArray.IsValidUTF8 ∧
        ((∀ l ∈ before, ∀ fault : Fault, ¬ fault.OnLine l) ∧
            readStream bad = .error .undecodable ∨
          ∃ l ∈ before, ∃ text defect, (Fault.malformed text defect).OnLine l ∧
            readStream bad = .error (.malformed text defect)) := by
  intro faulty good bad
  obtain ⟨htexts, hvalid, hinvalid⟩ := bytes_read_as_text
  obtain ⟨hfaulty, -⟩ := htexts "\r\n\r int \u00e9t\u00e9\r\r\nint f()"
  have hgood : readStream good = .ok [⟨none, "\u00e9t\u00e9", "f", []⟩] := by
    rw [readStream_eq_readLines]
    rfl
  have hbad : ¬ bad.toByteArray.IsValidUTF8 := by decide +kernel
  exact ⟨hfaulty.trans (by rfl), hgood, hvalid good _ hgood, hbad, hinvalid bad hbad⟩

end Signatures
