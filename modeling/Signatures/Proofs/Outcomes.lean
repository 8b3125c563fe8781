import Signatures.Proofs.FirstFault
import Signatures.Proofs.Json.Documents
import Signatures.Proofs.Pipeline

/-!
# One ending for every form

The three forms print the same signatures in different ways, and reading comes to its end before
printing begins.  Therefore whether a command fails, and how, does not depend on the form; a command
that fails has printed nothing; and one that does not fail shows all its signatures, in order.

* `Input`, `inputsOf` — what a command reads, an argument or a line at a time.  `Fault.IsFirst` is
  the first fault of some inputs and `Yield` relates inputs without a fault to their signatures.
* `Request.signatures_eq_readEach`, `readEach_eq_error_iff_isFirst`, `readEach_eq_ok_iff_yield` —
  a command has the first fault of its inputs, or the signatures that they yield.
  `exists_isFirst_or_yield` says that inputs have one or the other.
* `Signature.shownBlock`, `Signature.shownElement`, `Signature.shownLine` — what a form shows of one
  signature, from its fields and without the printers.  `Form.Shows` says how that is laid out for
  several: as the lines of a report or of canonical texts, or as the value of a document.
* `Form.shows_print` — a print shows its signatures.
* **`forms_end_alike`** — status, standard error and standard output of all three forms at once.
-/

namespace Signatures

/-! ## Inputs -/

/-- Where a command looks for a signature. -/
inductive Input where
  /-- A text among the arguments. -/
  | argument (text : String)
  /-- A line of the input stream. -/
  | line (bytes : List UInt8)
  deriving DecidableEq, Repr

/-- All that a command reads: its texts or, without any, the lines of its input stream. -/
def inputsOf (texts : List String) (stream : List UInt8) : List Input :=
  if texts = [] then (streamLines stream).map .line else texts.map .argument

/-- What a single input holds. -/
def Input.read : Input → Except Fault (Option Signature)
  | argument text => (Signature.parse text).map some
  | line bytes => readLine bytes

/-- What is wrong with an input: a text that is no signature, or a fault on a line. -/
def Fault.OnInput : Input → Fault → Prop
  | .argument text, fault => Signature.parse text = .error fault
  | .line bytes, fault => fault.OnLine bytes

/-- The fault of an input of which no input before has any. -/
def Fault.IsFirst (inputs : List Input) (fault : Fault) : Prop :=
  ∃ before input after, inputs = before ++ input :: after ∧
    (∀ i ∈ before, ∀ f : Fault, ¬ f.OnInput i) ∧ fault.OnInput input

/-- Inputs that have no fault, and their signatures in order: one for each text and for each line
that is not blank. -/
inductive Yield : List Input → List Signature → Prop
  | nil : Yield [] []
  | argument {text : String} {sig : Signature} {inputs : List Input} {sigs : List Signature}
      (h : Signature.parse text = .ok sig) (rest : Yield inputs sigs) :
      Yield (.argument text :: inputs) (sig :: sigs)
  | blank {text : String} {inputs : List Input} {sigs : List Signature}
      (h : allBlank text.toList = true) (rest : Yield inputs sigs) :
      Yield (.line (utf8 text.toList) :: inputs) sigs
  | line {text : String} {sig : Signature} {inputs : List Input} {sigs : List Signature}
      (hblank : allBlank text.toList = false) (h : Signature.parse text = .ok sig)
      (rest : Yield inputs sigs) : Yield (.line (utf8 text.toList) :: inputs) (sig :: sigs)

lemma Input.read_eq_error_iff {input : Input} {fault : Fault} :
    input.read = .error fault ↔ fault.OnInput input := by
  cases input with
  | argument text =>
      rw [read, Fault.OnInput]
      cases Signature.parse text <;> simp [Except.map]
  | line bytes => exact readLine_eq_error_iff

lemma readEach_eq_error_iff_isFirst {inputs : List Input} {fault : Fault} :
    readEach Input.read inputs = .error fault ↔ fault.IsFirst inputs := by
  simp only [readEach_eq_error_iff, Fault.IsFirst, ne_eq, Input.read_eq_error_iff]

lemma Yield.readEach_eq {inputs : List Input} {sigs : List Signature} (h : Yield inputs sigs) :
    readEach Input.read inputs = .ok sigs := by
  induction h with
  | nil => rfl
  | argument h _ ih => rw [readEach_cons, Input.read, h, ih]; rfl
  | blank h _ ih => rw [readEach_cons, Input.read, readLine_utf8, if_pos h, ih]; rfl
  | line hblank h _ ih =>
      rw [readEach_cons, Input.read, readLine_utf8, hblank, String.ofList_toList, h, ih]
      rfl

/-- An input without a fault yields its signature, if it is not blank, before all others. -/
lemma Yield.of_read {input : Input} {sig? : Option Signature} (h : input.read = .ok sig?)
    {inputs : List Input} {sigs : List Signature} (rest : Yield inputs sigs) :
    Yield (input :: inputs) (sig?.toList ++ sigs) := by
  cases input with
  | argument text =>
      rw [Input.read] at h
      cases hparse : Signature.parse text with
      | error fault => rw [hparse] at h; cases h
      | ok sig => rw [hparse] at h; cases h; exact .argument hparse rest
  | line bytes =>
      obtain ⟨text, rfl, ⟨hblank, rfl⟩ | ⟨hblank, sig, hparse, rfl⟩⟩ := readLine_eq_ok_iff.1 h
      · exact .blank hblank rest
      · exact .line hblank hparse rest

lemma readEach_eq_ok_iff_yield {inputs : List Input} {sigs : List Signature} :
    readEach Input.read inputs = .ok sigs ↔ Yield inputs sigs := by
  refine ⟨fun h => ?_, Yield.readEach_eq⟩
  induction inputs generalizing sigs with
  | nil => cases h; exact .nil
  | cons input inputs ih =>
      rw [readEach_cons] at h
      cases hread : input.read with
      | error fault => rw [hread] at h; cases h
      | ok sig? =>
          cases hrest : readEach Input.read inputs with
          | error fault => rw [hread, hrest] at h; cases h
          | ok others => rw [hread, hrest] at h; cases h; exact .of_read hread (ih hrest)

/-- Inputs have one first fault at most. -/
lemma Fault.IsFirst.unique {inputs : List Input} {fault fault' : Fault} (h : fault.IsFirst inputs)
    (h' : fault'.IsFirst inputs) : fault = fault' := by
  rw [← readEach_eq_error_iff_isFirst] at h h'
  exact Except.error.inj (h.symm.trans h')

/-- Inputs yield one list of signatures at most. -/
lemma Yield.unique {inputs : List Input} {sigs sigs' : List Signature} (h : Yield inputs sigs)
    (h' : Yield inputs sigs') : sigs = sigs' :=
  Except.ok.inj (h.readEach_eq.symm.trans h'.readEach_eq)

/-- Inputs have a first fault, or they yield signatures. -/
lemma exists_isFirst_or_yield (inputs : List Input) :
    (∃ fault : Fault, fault.IsFirst inputs) ∨ ∃ sigs, Yield inputs sigs := by
  cases hread : readEach Input.read inputs with
  | error fault => exact Or.inl ⟨fault, readEach_eq_error_iff_isFirst.1 hread⟩
  | ok sigs => exact Or.inr ⟨sigs, readEach_eq_ok_iff_yield.1 hread⟩

/-- What inputs yield is well formed. -/
lemma Yield.wellFormed {inputs : List Input} {sigs : List Signature} (h : Yield inputs sigs) :
    ∀ sig ∈ sigs, sig.WellFormed := by
  induction h with
  | nil => exact List.forall_mem_nil _
  | argument h _ ih => exact List.forall_mem_cons.2 ⟨Signature.wellFormed_of_parse h, ih⟩
  | blank _ _ ih => exact ih
  | line _ h _ ih => exact List.forall_mem_cons.2 ⟨Signature.wellFormed_of_parse h, ih⟩

/-- Some input has a fault exactly when one is the first. -/
lemma exists_isFirst_iff {inputs : List Input} :
    (∃ fault : Fault, fault.IsFirst inputs) ↔
      ∃ input ∈ inputs, ∃ fault : Fault, fault.OnInput input := by
  simp only [← readEach_eq_error_iff_isFirst, ← Input.read_eq_error_iff, exists_readEach_error_iff]

/-- Inputs that yield anything have no fault. -/
lemma Yield.not_onInput {inputs : List Input} {sigs : List Signature} (h : Yield inputs sigs) :
    ¬ ∃ input ∈ inputs, ∃ fault : Fault, fault.OnInput input := by
  rw [← exists_isFirst_iff]
  rintro ⟨fault, hfirst⟩
  rw [← readEach_eq_error_iff_isFirst, h.readEach_eq] at hfirst
  cases hfirst

/-- **A command reads its inputs in turn.** -/
lemma Request.signatures_eq_readEach (form : Form) (texts : List String) (stream : List UInt8) :
    signatures ⟨form, texts⟩ stream = readEach Input.read (inputsOf texts stream) := by
  rw [signatures, inputsOf]
  split
  · rw [readStream_eq_readLines, readLines_eq_readEach, readEach_map]
    rfl
  · rw [Signature.parseAll_eq_readEach, readEach_map]
    rfl

/-! ## Prints -/

namespace Signature

/-- What a report shows of a signature: four labelled fields and a line for each parameter. -/
def shownBlock (sig : Signature) : List String :=
  ["access_modifier: " ++ sig.modifier.getD "-", "return_type: " ++ sig.returnType,
    "method_name: " ++ sig.name, "arguments: " ++ toString sig.params.length] ++
  sig.params.map fun p => "  - " ++ p.type ++ " " ++ p.name

/-- What a document shows of a signature. -/
def shownElement (sig : Signature) : Json := .object [
  ("access_modifier", sig.modifier.elim .null .string),
  ("return_type", .string sig.returnType),
  ("method_name", .string sig.name),
  ("arguments", .array (sig.params.map fun p =>
    .object [("type", .string p.type), ("name", .string p.name)]))]

/-- What is shown of a signature by its canonical text. -/
def shownLine (sig : Signature) : String :=
  sig.modifier.elim "" (· ++ " ") ++ sig.returnType ++ " " ++ sig.name ++
    "(" ++ ", ".intercalate (sig.params.map fun p => p.type ++ " " ++ p.name) ++ ")"

lemma reportLines_eq_shownBlock (sig : Signature) :
    sig.reportLines = sig.shownBlock.map String.toList := by
  simp [reportLines, shownBlock]

lemma json_eq_shownElement (sig : Signature) : sig.json = sig.shownElement := sig.json_eq

lemma chars_eq_shownLine (sig : Signature) : sig.chars = sig.shownLine.toList := by
  have hparam : Param.chars = fun p : Param => (p.type ++ " " ++ p.name).toList := by
    funext p
    simp [Param.chars]
  cases hmodifier : sig.modifier <;>
    simp [chars, declarationChars, paramsChars, hparam, shownLine, hmodifier, Function.comp_def]

end Signature

/-- What can be seen of some signatures in a print.  A report has a block of lines for each, with
one empty line between any two; a document is a JSON text of one value, which lists them; and each
canonical text is a line.  All lines are ended, so that nothing stands behind the last feed. -/
def Form.Shows (sigs : List Signature) (cs : List Char) : Form → Prop
  | report =>
      cs.splitOn '\n' =
        [[]].intercalate (sigs.map fun sig => sig.shownBlock.map String.toList) ++ [[]]
  | document => Json.Denotes cs (.object [("signatures", .array (sigs.map Signature.shownElement))])
  | canonical => cs.splitOn '\n' = (sigs.map fun sig => sig.shownLine.toList) ++ [[]]

/-- Lines are found again between their feeds. -/
lemma splitOn_unlines {lines : List (List Char)} (h : ∀ line ∈ lines, '\n' ∉ line) :
    (unlines lines).splitOn '\n' = lines ++ [[]] := by
  induction lines with
  | nil => simp [List.splitOn_nil]
  | cons line lines ih =>
      obtain ⟨hline, hlines⟩ := List.forall_mem_cons.1 h
      rw [unlines_cons, List.splitOn_append_cons_self_of_not_mem hline, ih hlines, List.cons_append]

/-- A joined text of lines has the lines of its parts and of the separators between them. -/
lemma unlines_intercalate (sep : List (List Char)) (blocks : List (List (List Char))) :
    unlines (sep.intercalate blocks) = (unlines sep).intercalate (blocks.map unlines) := by
  cases blocks with
  | nil => simp
  | cons first others =>
      simp [intercalate_cons_eq_append, unlines, List.flatMap_assoc, List.flatMap_map]

lemma feed_not_mem_of_isWord {w : List Char} (hw : IsWord w) : '\n' ∉ w :=
  hw.not_mem_of_isBlank (by decide)

/-- The lines of a report have no feed in them. -/
lemma Signature.WellFormed.feed_not_mem_reportLines {sig : Signature} (h : sig.WellFormed) :
    ∀ line ∈ sig.reportLines, '\n' ∉ line := by
  obtain ⟨hmodifier, htype, hname, hparams⟩ := h
  have hshown : '\n' ∉ (sig.modifier.getD "-").toList := by
    cases hm : sig.modifier with
    | none => decide
    | some m => exact feed_not_mem_of_isWord (hmodifier m hm).1
  have hcount : '\n' ∉ Nat.toDigits 10 sig.params.length := by
    intro hmem
    exact absurd (Nat.isDigit_of_mem_toDigits (by decide) (by decide) hmem) (by decide)
  have hparam : ∀ p ∈ sig.params, '\n' ∉ p.type.toList ∧ '\n' ∉ p.name.toList := by
    intro p hp
    exact ⟨feed_not_mem_of_isWord (hparams p hp).1.1, feed_not_mem_of_isWord (hparams p hp).2.1⟩
  have htype := feed_not_mem_of_isWord htype.1
  have hname := feed_not_mem_of_isWord hname.1
  simpa [reportLines, hshown, htype, hname, hcount] using hparam

/-- A report is its lines: the blocks, and an empty line between any two. -/
lemma Signature.report_eq_unlines (sigs : List Signature) :
    report sigs = unlines ([[]].intercalate (sigs.map reportLines)) := by
  rw [report, unlines_intercalate, List.map_map]
  rfl

/-- The lines of a report are found again between its feeds. -/
lemma Signature.splitOn_report {sigs : List Signature} (h : ∀ sig ∈ sigs, sig.WellFormed) :
    (report sigs).splitOn '\n' = [[]].intercalate (sigs.map reportLines) ++ [[]] := by
  rw [report_eq_unlines]
  refine splitOn_unlines (forall_mem_intercalate ?_ ?_)
  · simp
  · exact List.forall_mem_map.2 fun sig hsig => (h sig hsig).feed_not_mem_reportLines

/-- **A print shows its signatures.** -/
lemma Form.shows_print {sigs : List Signature} (h : ∀ sig ∈ sigs, sig.WellFormed) (form : Form) :
    form.Shows sigs (form.print sigs) := by
  cases form with
  | report =>
      rw [Shows, ← funext Signature.reportLines_eq_shownBlock]
      exact Signature.splitOn_report h
  | document =>
      rw [Shows, ← funext Signature.json_eq_shownElement]
      exact denotes_print sigs
  | canonical =>
      rw [Shows, ← funext Signature.chars_eq_shownLine]
      exact splitOn_unlines (List.forall_mem_map.2 fun sig hsig => (h sig hsig).fillsLine.1)

/-! ## Outcomes -/

section Forms

variable {texts : List String} {args : Form → List String}
  (h : ∀ form, Request.ofArgs? (args form) = some ⟨form, texts⟩)

include h

/-- With texts to read, standard input is left alone. -/
lemma runArgs_of_texts (hne : texts ≠ []) (form : Form) (stream stream' : List UInt8) :
    runArgs (args form) stream' = runArgs (args form) stream := by
  rw [runArgs_of_ofArgs? (h form), runArgs_of_ofArgs? (h form), Request.run_of_texts hne stream',
    Request.run_of_texts hne stream]

/-- The first fault of the inputs is what every form fails with. -/
lemma runArgs_of_isFirst {stream : List UInt8} {fault : Fault}
    (hfirst : fault.IsFirst (inputsOf texts stream)) (form : Form) :
    runArgs (args form) stream = .faulty fault := by
  rw [runArgs_of_ofArgs? (h form), Request.run, Request.signatures_eq_readEach,
    readEach_eq_error_iff_isFirst.2 hfirst]

/-- The signatures that the inputs yield are what every form prints. -/
lemma runArgs_of_yield {stream : List UInt8} {sigs : List Signature}
    (hyield : Yield (inputsOf texts stream) sigs) (form : Form) :
    runArgs (args form) stream = .printed (String.ofList (form.print sigs)) := by
  rw [runArgs_of_ofArgs? (h form), Request.run, Request.signatures_eq_readEach,
    hyield.readEach_eq]

end Forms

/-- **All forms end alike.**  Let three command lines ask for the same texts, each in a form of its
own.  Then they end with the same status, 0 or 1, and the same text on standard error.  The status
is 1 exactly when an input has a fault; then nothing is printed, and the message is that of the
first fault.  Otherwise standard error is empty, and each form shows the same signatures, those that
the inputs yield in order.  Standard input has no say when there are texts. -/
theorem forms_end_alike {texts : List String} {args : Form → List String}
    (h : ∀ form, Request.ofArgs? (args form) = some ⟨form, texts⟩) (stream : List UInt8) :
    let inputs := inputsOf texts stream
    let run := fun form => runArgs (args form) stream
    (∀ form form', (run form).status = (run form').status ∧
      (run form).stderr = (run form').stderr) ∧
    (∀ form, (run form).status = 0 ∨ (run form).status = 1) ∧
    (∀ form, (run form).status = 1 ↔ ∃ input ∈ inputs, ∃ fault : Fault, fault.OnInput input) ∧
    (∀ form, (run form).status = 1 → (run form).stdout = "" ∧
      ∃ fault : Fault, fault.IsFirst inputs ∧
        (run form).stderr = some ("error: " ++ fault.message ++ "\n")) ∧
    (∀ form, (run form).status = 0 → ∃ sigs, Yield inputs sigs ∧
      ∀ form, (run form).stderr = some "" ∧ form.Shows sigs (run form).stdout.toList) ∧
    (texts ≠ [] → ∀ form stream', runArgs (args form) stream' = run form) := by
  intro inputs run
  have hunread : texts ≠ [] → ∀ form stream', runArgs (args form) stream' = run form :=
    fun hne form stream' => runArgs_of_texts h hne form stream stream'
  -- reading has one answer, and only then do the forms part
  rcases exists_isFirst_or_yield inputs with ⟨fault, hfirst⟩ | ⟨sigs, hyield⟩
  · have hrun : ∀ form, run form = .faulty fault := runArgs_of_isFirst h hfirst
    have hfault := exists_isFirst_iff.1 ⟨fault, hfirst⟩
    refine ⟨?_, ?_, ?_, ?_, ?_, hunread⟩
    · simp [hrun]
    · simp [hrun, Outcome.status]
    · intro form
      simpa [hrun, Outcome.status] using hfault
    · intro form _
      rw [hrun]
      exact ⟨rfl, fault, hfirst, rfl⟩
    · simp [hrun, Outcome.status]
  · have hrun : ∀ form, run form = .printed (String.ofList (form.print sigs)) :=
      runArgs_of_yield h hyield
    refine ⟨?_, ?_, ?_, ?_, ?_, hunread⟩
    · simp [hrun, Outcome.status, Outcome.stderr]
    · simp [hrun, Outcome.status]
    · intro form
      simpa [hrun, Outcome.status] using hyield.not_onInput
    · simp [hrun, Outcome.status]
    · intro _ _
      refine ⟨sigs, hyield, fun form => ?_⟩
      rw [hrun, Outcome.stdout, String.toList_ofList]
      exact ⟨rfl, form.shows_print hyield.wellFormed⟩

/-- Two texts, one of which looks like an option, are printed in every form.  Of the lines of
standard input the second is the first one with a fault. -/
theorem forms_end_alike_on_texts_and_lines :
    let args : Form → List String
      | .report => ["parse", "public a b(c  d)", "--", "-x y()"]
      | .document => ["parse", "public a b(c  d)", "--json", "--", "-x y()"]
      | .canonical => ["normalize", "--", "public a b(c  d)", "-x y()"]
    let texts := ["public a b(c  d)", "-x y()"]
    let sigs : List Signature := [⟨some "public", "a", "b", [⟨"c", "d"⟩]⟩, ⟨none, "-x", "y", []⟩]
    let stream := utf8 "int f()\n oops\nvoid g(\n".toList ++ [0xff]
    (∀ form, Request.ofArgs? (args form) = some ⟨form, texts⟩) ∧
    (∀ form, Request.ofArgs? form.command = some ⟨form, []⟩) ∧
    Yield (inputsOf texts stream) sigs ∧
    (∀ form, (runArgs (args form) stream).status = 0 ∧
      (runArgs (args form) stream).stderr = some "" ∧
      form.Shows sigs (runArgs (args form) stream).stdout.toList) ∧
    (runArgs (args .report) stream).stdout = "\n".intercalate
      ["access_modifier: public", "return_type: a", "method_name: b", "arguments: 1", "  - c d", "",
        "access_modifier: -", "return_type: -x", "method_name: y", "arguments: 0", ""] ∧
    (runArgs (args .document) stream).stdout = "\n".intercalate
      ["\x7b", "  \"signatures\": [", "    \x7b", "      \"access_modifier\": \"public\",",
        "      \"return_type\": \"a\",", "      \"method_name\": \"b\",",
        "      \"arguments\": [", "        \x7b", "          \"type\": \"c\",",
        "          \"name\": \"d\"", "        \x7d", "      ]", "    \x7d,", "    \x7b",
        "      \"access_modifier\": null,", "      \"return_type\": \"-x\",",
        "      \"method_name\": \"y\",", "      \"arguments\": []", "    \x7d", "  ]", "\x7d",
        ""] ∧
    (runArgs (args .canonical) stream).stdout = "\n".intercalate
      ["public a b(c d)", "-x y()", ""] ∧
    (∀ form stream', runArgs (args form) stream' = runArgs (args form) stream) ∧
    ∀ form : Form, (runArgs form.command stream).status = 1 ∧
      (runArgs form.command stream).stdout = "" ∧
      (runArgs form.command stream).stderr =
        some "error: malformed signature \" oops\": missing '('\n" := by
  intro args texts sigs stream
  have hargs : ∀ form, Request.ofArgs? (args form) = some ⟨form, texts⟩ := by
    intro form
    cases form <;> decide
  have hyields : Yield (inputsOf texts stream) sigs := .argument rfl (.argument rfl .nil)
  have hfirst : Fault.IsFirst (inputsOf [] stream) (.malformed " oops" .noOpening) :=
    readEach_eq_error_iff_isFirst.1 (by rfl)
  have hprinted : ∀ form, runArgs (args form) stream = .printed (String.ofList (form.print sigs)) :=
    runArgs_of_yield hargs hyields
  have hstatus : ∀ form, (runArgs (args form) stream).status = 0 := by
    simp [hprinted, Outcome.status]
  have hstdout : ∀ form, (runArgs (args form) stream).stdout = String.ofList (form.print sigs) := by
    simp [hprinted, Outcome.stdout]
  obtain ⟨-, -, -, -, hshown, hunread⟩ := forms_end_alike hargs stream
  obtain ⟨sigs', hyields', hshows⟩ := hshown .canonical (hstatus .canonical)
  rw [hyields'.unique hyields] at hshows
  obtain ⟨-, -, hfails, hfaulty, -, -⟩ := forms_end_alike Request.ofArgs?_command stream
  refine ⟨hargs, Request.ofArgs?_command, hyields, fun form => ⟨hstatus form, hshows form⟩,
    (hstdout .report).trans ?_, (hstdout .document).trans ?_, (hstdout .canonical).trans ?_,
    hunread (by decide), ?_⟩
  -- character by character, and with the signatures written out, the prints are closed terms
  iterate 3
    · rw [← String.toList_inj, String.toList_ofList, String.toList_intercalate]
      unfold sigs
      decide +kernel
  · intro form
    have hone := (hfails form).2 (exists_isFirst_iff.1 ⟨_, hfirst⟩)
    obtain ⟨hempty, fault, hfault, hstderr⟩ := hfaulty form hone
    rw [hfault.unique hfirst] at hstderr
    refine ⟨hone, hempty, hstderr.trans ?_⟩
    decide +kernel

end Signatures
