import Signatures.Command.Outcome
import Signatures.Proofs.Canonical
import Signatures.Proofs.Streams

/-!
# Signatures on the command line and signatures on lines

A command takes its signatures from its arguments or, without any, from the lines of standard
input.  For texts that fill a line each, `FillsLine`, the two ways are one: a line feed would cut
such a text in two, a return at its end would be dropped and a blank one would be passed over, and
nothing else is done to a line.  The canonical text of a well-formed signature always fills a line,
so what `normalize` prints can be read again.

* `Form.command` — the arguments that ask for a form, with `ofArgs?_command` and
  `ofArgs?_command_append`.
* `linesOf_unlines`, `linesOf_intercalate` — texts that fill lines are the lines of their joined
  text, with a feed after the last one or without.
* **`texts_run_as_lines`** — the outcome of some texts is the outcome of a stream with these lines.
* `WellFormed.fillsLine` — a canonical text fills a line.
* **`normalized_output_reads_alike`** — whatever is asked of some inputs may as well be asked of
  their normal forms.
-/

namespace Signatures

/-! ## Asking for a form -/

/-- The arguments that ask for a form, before any text. -/
def Form.command : Form → List String
  | report => ["parse"]
  | document => ["parse", "--json"]
  | canonical => ["normalize"]

lemma cutAt?_cons {α : Type} [BEq α] [LawfulBEq α] {a b : α} (h : b ≠ a) (l : List α) :
    cutAt? a (b :: l) = (cutAt? a l).map fun (before, after) => (b :: before, after) := by
  cases hl : cutAt? a l with
  | none =>
      have hnot : a ∉ b :: l := by simp [cutAt?_eq_none_iff.1 hl, h.symm]
      rw [cutAt?_eq_none_iff.2 hnot, Option.map_none]
  | some cut =>
      obtain ⟨rfl, hbefore⟩ := cutAt?_eq_some_iff.1 hl
      refine cutAt?_eq_some_iff.2 ⟨rfl, ?_⟩
      simp [hbefore, h.symm]

lemma splitArgs_json (args : List String) :
    splitArgs ("--json" :: args) = ("--json" :: (splitArgs args).1, (splitArgs args).2) := by
  rw [splitArgs, splitArgs, cutAt?_cons (by decide)]
  cases cutAt? "--" args <;> simp [isOption]

/-- All that follows `--` is text. -/
lemma splitArgs_texts (texts : List String) : splitArgs ("--" :: texts) = ([], texts) := by
  have hcut : cutAt? "--" ("--" :: texts) = some ([], texts) :=
    cutAt?_append List.not_mem_nil texts
  simp [splitArgs, hcut]

namespace Request

/-- Arguments without options ask any command for the same texts. -/
lemma ofArgs?_command_append {args : List String} (h : (splitArgs args).1 = []) (form : Form) :
    ofArgs? (form.command ++ args) = some ⟨form, (splitArgs args).2⟩ := by
  cases form with
  | report => simp [Form.command, ofArgs?, parseForm?, h]
  | document => simp [Form.command, ofArgs?, parseForm?, splitArgs_json, h]
  | canonical => simp [Form.command, ofArgs?, normalizeForm?, h]

lemma ofArgs?_command (form : Form) : ofArgs? form.command = some ⟨form, []⟩ := by
  cases form <;> decide

/-- `normalize` takes no options. -/
lemma options_of_ofArgs?_normalize {args : List String} {request : Request}
    (h : ofArgs? ("normalize" :: args) = some request) :
    (splitArgs args).1 = [] ∧ request = ⟨.canonical, (splitArgs args).2⟩ := by
  simp only [ofArgs?] at h
  cases hoptions : (splitArgs args).1 with
  | nil => simp_all [normalizeForm?]
  | cons option options => simp_all [normalizeForm?]

end Request

/-! ## Texts that fill a line -/

/-- A text that can be a line and is not passed over there. -/
def FillsLine (cs : List Char) : Prop :=
  '\n' ∉ cs ∧ cs.getLast? ≠ some '\r' ∧ allBlank cs = false

instance (cs : List Char) : Decidable (FillsLine cs) :=
  inferInstanceAs (Decidable ('\n' ∉ cs ∧ cs.getLast? ≠ some '\r' ∧ allBlank cs = false))

section Lines

variable {lines : List (List Char)}

lemma FillsLine.dropReturn_eq {line : List Char} (h : FillsLine line) :
    dropReturn '\r' line = line := by
  rw [dropReturn, if_neg h.2.1]

lemma FillsLine.ne_nil {line : List Char} (h : FillsLine line) : line ≠ [] := by
  rintro rfl
  exact Bool.noConfusion h.2.2

lemma linesOf_unlines (h : ∀ line ∈ lines, FillsLine line) :
    linesOf '\n' '\r' (unlines lines) = lines := by
  induction lines with
  | nil => rw [unlines_nil, linesOf_nil]
  | cons line lines ih =>
      obtain ⟨hline, hlines⟩ := List.forall_mem_cons.1 h
      rw [unlines_cons, linesOf_append hline.1, hline.dropReturn_eq, ih hlines]

/-- The last line need not be ended. -/
lemma linesOf_intercalate (h : ∀ line ∈ lines, FillsLine line) :
    linesOf '\n' '\r' (['\n'].intercalate lines) = lines := by
  induction lines with
  | nil => rw [List.intercalate_nil, linesOf_nil]
  | cons line lines ih =>
      obtain ⟨hline, hlines⟩ := List.forall_mem_cons.1 h
      cases lines with
      | nil => rw [List.intercalate_singleton, linesOf_last hline.1 hline.ne_nil]
      | cons next others =>
          rw [List.intercalate_cons_cons, List.append_assoc, List.singleton_append,
            linesOf_append hline.1, hline.dropReturn_eq, ih hlines]

end Lines

/-- A stream whose lines are certain texts holds what these texts say. -/
lemma readStream_of_linesOf {cs : List Char} {texts : List String}
    (hlines : linesOf '\n' '\r' cs = texts.map String.toList)
    (h : ∀ text ∈ texts, FillsLine text.toList) :
    readStream (utf8 cs) = Signature.parseAll texts := by
  have hall : ∀ line ∈ texts.map String.toList, (!allBlank line) = true := by
    refine List.forall_mem_map.2 fun text htext => ?_
    rw [(h text htext).2.2]
    rfl
  rw [readStream_utf8, hlines, List.filter_eq_self.2 hall, List.map_map]
  congr 1
  simp [Function.comp_def]

/-- **Texts may be given as arguments or as lines.**  The outcome is the same, be it a print or the
first fault, and however the stream ends that is left unread in the first case. -/
theorem texts_run_as_lines {texts : List String} (hne : texts ≠ [])
    (h : ∀ text ∈ texts, FillsLine text.toList) (form : Form) (stream : List UInt8) :
    runArgs (form.command ++ "--" :: texts) stream =
        runArgs form.command (utf8 (unlines (texts.map String.toList))) ∧
      runArgs (form.command ++ "--" :: texts) stream =
        runArgs form.command (utf8 (['\n'].intercalate (texts.map String.toList))) := by
  have hfill : ∀ line ∈ texts.map String.toList, FillsLine line := List.forall_mem_map.2 h
  have hargs : Request.ofArgs? (form.command ++ "--" :: texts) = some ⟨form, texts⟩ := by
    have hsplit := splitArgs_texts texts
    rw [Request.ofArgs?_command_append (by rw [hsplit]), hsplit]
  have hrun : ∀ cs, linesOf '\n' '\r' cs = texts.map String.toList →
      runArgs (form.command ++ "--" :: texts) stream = runArgs form.command (utf8 cs) := by
    intro cs hcs
    rw [runArgs_of_ofArgs? hargs, runArgs_of_ofArgs? (Request.ofArgs?_command form), Request.run,
      Request.run, Request.signatures, Request.signatures, if_neg hne, if_pos rfl,
      readStream_of_linesOf hcs h]
  exact ⟨hrun _ (linesOf_unlines hfill), hrun _ (linesOf_intercalate hfill)⟩

/-- The second text has a defect and so does the third; both ways report the second, with the
returns and the blanks around it. -/
theorem faulty_texts_run_as_lines :
    let texts := ["int f()", "\r oops\r ", "--json", "void g(a)"]
    let asTexts := runArgs (["parse", "--json"] ++ "--" :: texts) [0xff]
    let asLines := runArgs ["parse", "--json"]
      (utf8 "int f()\n\r oops\r \n--json\nvoid g(a)\n".toList)
    let asOpenLines := runArgs ["parse", "--json"]
      (utf8 "int f()\n\r oops\r \n--json\nvoid g(a)".toList)
    texts ≠ [] ∧ (∀ text ∈ texts, FillsLine text.toList) ∧
      asTexts = asLines ∧ asTexts = asOpenLines ∧
      ∀ outcome ∈ [asTexts, asLines, asOpenLines], outcome.status = 1 ∧ outcome.stdout = "" ∧
        outcome.stderr = some "error: malformed signature \"\\r oops\\r \": missing '('\n" := by
  intro texts asTexts asLines asOpenLines
  have hne : texts ≠ [] := by decide
  have hfill : ∀ text ∈ texts, FillsLine text.toList := by decide
  obtain ⟨hlines, hopen⟩ : asTexts = asLines ∧ asTexts = asOpenLines :=
    texts_run_as_lines hne hfill .document [0xff]
  have hfaulty : asTexts = .faulty (.malformed "\r oops\r " .noOpening) := by rfl
  have hstderr : (Outcome.faulty (.malformed "\r oops\r " .noOpening)).stderr =
      some "error: malformed signature \"\\r oops\\r \": missing '('\n" := by decide +kernel
  refine ⟨hne, hfill, hlines, hopen, ?_⟩
  have hall : ∀ outcome ∈ [asTexts, asLines, asOpenLines], outcome = asTexts := by
    simp [← hlines, ← hopen]
  intro outcome houtcome
  rw [hall outcome houtcome, hfaulty]
  exact ⟨rfl, rfl, hstderr⟩

/-! ## Canonical texts -/

namespace Signature

/-- **A canonical text fills a line.** -/
lemma WellFormed.fillsLine {sig : Signature} (h : sig.WellFormed) : FillsLine sig.chars := by
  refine ⟨?_, ?_, ?_⟩
  · intro hmem
    exact absurd (h.spacesOnly _ hmem (by decide)) (by decide)
  · rw [getLast?_chars]
    decide
  · exact not_allBlank_of_mem (by decide) (List.mem_of_getLast? sig.getLast?_chars)

/-- What texts in a row say is well formed. -/
lemma wellFormed_of_parseAll {texts : List String} {sigs : List Signature}
    (h : parseAll texts = .ok sigs) : ∀ sig ∈ sigs, sig.WellFormed := by
  rw [parseAll_eq_ok_iff] at h
  intro sig hsig
  have hmem : Except.ok sig ∈ texts.map parse := h ▸ List.mem_map_of_mem hsig
  obtain ⟨text, -, hparse⟩ := List.mem_map.1 hmem
  exact wellFormed_of_parse hparse

end Signature

/-- What a stream says is well formed. -/
lemma wellFormed_of_readStream {stream : List UInt8} {sigs : List Signature}
    (h : readStream stream = .ok sigs) : ∀ sig ∈ sigs, sig.WellFormed := by
  rw [readStream_eq_readLines] at h
  obtain ⟨texts, sigs', -, hparse, hread⟩ :=
    exists_texts_of_forall_not_onLine (not_onLine_of_readLines h)
  obtain rfl : sigs' = sigs := Except.ok.inj (hread.symm.trans h)
  exact Signature.wellFormed_of_parseAll (Signature.parseAll_eq_ok_iff.2 hparse)

lemma Request.wellFormed_of_signatures {request : Request} {stream : List UInt8}
    {sigs : List Signature} (h : request.signatures stream = .ok sigs) :
    ∀ sig ∈ sigs, sig.WellFormed := by
  rw [signatures] at h
  split at h
  · exact wellFormed_of_readStream h
  · exact Signature.wellFormed_of_parseAll h

/-- **Printed canonically, well-formed signatures are read again**, each from its own line. -/
theorem read_canonical {sigs : List Signature} (h : ∀ sig ∈ sigs, sig.WellFormed) :
    streamLines (utf8 (Form.canonical.print sigs)) = sigs.map (fun sig => utf8 sig.chars) ∧
      readStream (utf8 (Form.canonical.print sigs)) = .ok sigs := by
  have hlines : linesOf '\n' '\r' (Form.canonical.print sigs) = sigs.map Signature.chars :=
    linesOf_unlines (List.forall_mem_map.2 fun sig hsig => (h sig hsig).fillsLine)
  constructor
  · rw [streamLines_utf8, hlines, List.map_map]
    rfl
  · have htexts : sigs.map Signature.chars = (sigs.map Signature.text).map String.toList := by
      simp [Function.comp_def]
    rw [htexts] at hlines
    rw [readStream_of_linesOf hlines, Signature.parseAll_eq_ok_iff, List.map_map]
    · exact List.map_congr_left fun sig hsig => (h sig hsig).parse_text
    · refine List.forall_mem_map.2 fun sig hsig => ?_
      rw [Signature.toList_text]
      exact (h sig hsig).fillsLine

/-- Arguments without options print their signatures in whatever form is asked for. -/
lemma runArgs_command_append {args : List String} (hoptions : (splitArgs args).1 = [])
    {form : Form} {stream : List UInt8} {sigs : List Signature}
    (h : Request.signatures ⟨form, (splitArgs args).2⟩ stream = .ok sigs) :
    runArgs (form.command ++ args) stream = .printed (String.ofList (form.print sigs)) := by
  rw [runArgs_of_ofArgs? (Request.ofArgs?_command_append hoptions form), Request.run, h]

/-- A request that ends well has read all its signatures. -/
lemma Request.exists_of_status {request : Request} {stream : List UInt8}
    (h : (request.run stream).status = 0) : ∃ sigs, request.signatures stream = .ok sigs := by
  cases hsigs : request.signatures stream with
  | error fault => simp [run, hsigs, Outcome.status] at h
  | ok sigs => exact ⟨sigs, rfl⟩

/-- A run of `normalize` that ends well had no options and read all its signatures. -/
lemma exists_of_normalize_succeeds {args : List String} {stream : List UInt8}
    (h : (runArgs ("normalize" :: args) stream).status = 0) :
    (splitArgs args).1 = [] ∧
      ∃ sigs, Request.signatures ⟨.canonical, (splitArgs args).2⟩ stream = .ok sigs := by
  cases hargs : Request.ofArgs? ("normalize" :: args) with
  | none => simp [runArgs, hargs, Outcome.status] at h
  | some request =>
      obtain ⟨hoptions, rfl⟩ := Request.options_of_ofArgs?_normalize hargs
      rw [runArgs_of_ofArgs? hargs] at h
      exact ⟨hoptions, Request.exists_of_status h⟩

/-- **What `normalize` prints stands for what it was given.**  Each signature is on a line of its
own, in order, and every form of the printed lines is that form of the first inputs. -/
theorem normalized_output_reads_alike {args : List String} {stream : List UInt8}
    (h : (runArgs ("normalize" :: args) stream).status = 0) :
    let output := utf8 (runArgs ("normalize" :: args) stream).stdout.toList
    (∃ request sigs, Request.ofArgs? ("normalize" :: args) = some request ∧
      request.signatures stream = .ok sigs ∧
      streamLines output = sigs.map (fun sig => utf8 sig.chars) ∧ readStream output = .ok sigs) ∧
    ∀ form : Form, (runArgs form.command output).status = 0 ∧
      runArgs form.command output = runArgs (form.command ++ args) stream := by
  intro output
  obtain ⟨hoptions, sigs, hsigs⟩ := exists_of_normalize_succeeds h
  have hprinted : runArgs ("normalize" :: args) stream =
      .printed (String.ofList (Form.canonical.print sigs)) := runArgs_command_append hoptions hsigs
  have houtput : output = utf8 (Form.canonical.print sigs) := by
    simp only [output, hprinted, Outcome.stdout, String.toList_ofList]
  obtain ⟨hlines, hread⟩ := read_canonical (Request.wellFormed_of_signatures hsigs)
  rw [houtput]
  constructor
  · exact ⟨_, sigs, Request.ofArgs?_command_append hoptions .canonical, hsigs, hlines, hread⟩
  · intro form
    -- both runs print the same signatures, the first from the inputs and the second from the lines
    have hfirst := @runArgs_command_append args hoptions form stream sigs hsigs
    have hsecond :=
      @runArgs_command_append [] rfl form (utf8 (Form.canonical.print sigs)) sigs hread
    rw [List.append_nil] at hsecond
    rw [hfirst, hsecond]
    exact ⟨rfl, rfl⟩

/-- Two texts on three lines, one of them blank, and a carriage return that is only dropped before
its line feed. -/
theorem blank_lines_vanish_from_output :
    let stream := utf8 "public  int f( )\r\n\u3000\r\n\tvoid g(a( b) ,c\td))".toList
    let output := utf8 "public int f()\nvoid g(a( b), c d))\n".toList
    runArgs ["normalize"] stream = .printed "public int f()\nvoid g(a( b), c d))\n" ∧
    (∃ request sigs, Request.ofArgs? ["normalize"] = some request ∧
      request.signatures stream = .ok sigs ∧
      streamLines output = sigs.map (fun sig => utf8 sig.chars) ∧ readStream output = .ok sigs) ∧
    ∀ form : Form, (runArgs form.command output).status = 0 ∧
      runArgs form.command output = runArgs (form.command ++ []) stream := by
  intro stream output
  have hread : readStream stream = .ok [⟨some "public", "int", "f", []⟩,
      ⟨none, "void", "g", [⟨"a(", "b)"⟩, ⟨"c", "d)"⟩]⟩] := by
    rw [readStream_eq_readLines]
    rfl
  have hargs : Request.ofArgs? ["normalize"] = some ⟨.canonical, []⟩ := by decide
  have hrun : runArgs ["normalize"] stream =
      .printed "public int f()\nvoid g(a( b), c d))\n" := by
    rw [runArgs_of_ofArgs? hargs, Request.run, Request.signatures, if_pos rfl, hread]
    rfl
  have hall := @normalized_output_reads_alike [] stream (by rw [hrun]; rfl)
  rw [hrun] at hall
  exact ⟨hrun, hall⟩

end Signatures
