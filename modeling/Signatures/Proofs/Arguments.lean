import Mathlib.Logic.Relation
import Signatures.Proofs.Pipeline

/-!
# What arguments ask for

The arguments of a command fall into two parts, and only the first one can hold options: it ends at
the first `--`, or it is all there is.  `trailing` writes both kinds of ending down, so that the
statements below need not tell them apart (`splitArgs_append_trailing`).

**Misuse.**  What a command does with its options hangs on how many there are and on whether any is
another than `--json` (`parseForm?_eq_none_iff`).  Texts have no say in it, nor has standard input:
`status_eq_two_iff` says that a command line is misused when it makes no request.  Requests for help
are left out, so that an option which makes one counts among those that are not known.

**Order.**  The options may be put in any order (`parseForm?_perm`), the texts must stay in theirs,
and how the two are mixed does not matter (`ofArgs?_congr`).  `Moved` lists the single changes of
place that keep to this: `--json` goes anywhere before the end of options, and a text crosses it.

* **`arguments_are_requests`** — when a command line is misused, what it asks for when it is not,
  and that any number of such changes makes no difference.
-/

namespace Signatures

/-! ## Options and texts -/

/-- A hyphen is the first character. -/
def StartsWithHyphen (arg : String) : Prop := arg.toList.head? = some '-'

instance (arg : String) : Decidable (StartsWithHyphen arg) :=
  inferInstanceAs (Decidable (arg.toList.head? = some '-'))

lemma isOption_iff {arg : String} : isOption arg = true ↔ StartsWithHyphen arg ∧ arg ≠ "-" := by
  simp [isOption, StartsWithHyphen]

/-- What may follow the arguments that can be options: nothing, or `--` and texts. -/
def trailing : Option (List String) → List String
  | none => []
  | some texts => "--" :: texts

lemma splitArgs_append_trailing {args : List String} (h : "--" ∉ args)
    (later : Option (List String)) :
    splitArgs (args ++ trailing later) =
      (args.filter isOption, args.filter (fun arg => !isOption arg) ++ later.getD []) := by
  cases later with
  | none => simp [splitArgs, trailing, cutAt?_eq_none_iff.2 h]
  | some texts => simp [splitArgs, trailing, cutAt?_append h]

namespace Request

/-! ## Forms -/

lemma parseForm?_eq_some {options : List String} {form : Form}
    (h : parseForm? options = some form) :
    options = [] ∧ form = .report ∨ options = ["--json"] ∧ form = .document := by
  unfold parseForm? at h
  split at h
  · exact Or.inl ⟨rfl, (Option.some.inj h).symm⟩
  · exact Or.inr ⟨rfl, (Option.some.inj h).symm⟩
  · cases h

/-- Where a form is chosen, it shows whether the option is there, and there is no other. -/
lemma of_parseForm?_eq_some {options : List String} {form : Form}
    (h : parseForm? options = some form) :
    (form = if "--json" ∈ options then .document else .report) ∧
      ∀ option ∈ options, option = "--json" := by
  rcases parseForm?_eq_some h with ⟨rfl, rfl⟩ | ⟨rfl, rfl⟩
  · exact ⟨rfl, List.forall_mem_nil _⟩
  · exact ⟨rfl, fun option hoption => List.mem_singleton.1 hoption⟩

lemma parseForm?_eq_none {options : List String} (hnil : options ≠ [])
    (hjson : options ≠ ["--json"]) : parseForm? options = none := by
  cases hform : parseForm? options with
  | none => rfl
  | some form =>
      rcases parseForm?_eq_some hform with ⟨heq, -⟩ | ⟨heq, -⟩
      · exact absurd heq hnil
      · exact absurd heq hjson

/-- Two options are too many, whichever they are. -/
lemma parseForm?_of_length {options : List String} (h : 2 ≤ options.length) :
    parseForm? options = none := by
  refine parseForm?_eq_none ?_ ?_
  · rintro rfl
    simp at h
  · rintro rfl
    simp at h

/-- **Options are refused when one is not known or the known one is there twice.** -/
lemma parseForm?_eq_none_iff {options : List String} :
    parseForm? options = none ↔
      (∃ option ∈ options, option ≠ "--json") ∨ 2 ≤ options.count "--json" := by
  constructor
  · intro h
    by_contra hnot
    obtain ⟨hall, hcount⟩ := not_or.1 hnot
    have heq : ∀ option ∈ options, option = "--json" := by
      intro option hoption
      by_contra hne
      exact hall ⟨option, hoption, hne⟩
    have hlength : options.length ≤ 1 := by
      rw [← List.count_eq_length.2 fun option hoption => (heq option hoption).symm]
      omega
    match options, hlength with
    | [], _ => cases h
    | [option], _ =>
        obtain rfl := heq option List.mem_cons_self
        cases h
  · rintro (⟨option, hoption, hne⟩ | hcount)
    · refine parseForm?_eq_none (List.ne_nil_of_mem hoption) ?_
      rintro rfl
      exact hne (List.mem_singleton.1 hoption)
    · exact parseForm?_of_length (hcount.trans List.count_le_length)

/-- The order of options does not matter. -/
lemma parseForm?_perm {options options' : List String} (h : options.Perm options') :
    parseForm? options = parseForm? options' := by
  match options with
  | [] => rw [h.symm.eq_nil]
  | [option] => rw [List.perm_singleton.1 h.symm]
  | first :: second :: others =>
      have hlength : 2 ≤ (first :: second :: others).length := by simp
      rw [parseForm?_of_length hlength, parseForm?_of_length (h.length_eq ▸ hlength)]

lemma normalizeForm?_eq_none_iff {options : List String} :
    normalizeForm? options = none ↔ options ≠ [] := by
  cases options with
  | nil => simp [normalizeForm?]
  | cons option options => simp [normalizeForm?]

lemma normalizeForm?_perm {options options' : List String} (h : options.Perm options') :
    normalizeForm? options = normalizeForm? options' := by
  cases options with
  | nil => rw [h.symm.eq_nil]
  | cons option options =>
      have hne : options' ≠ [] := by
        rintro rfl
        exact absurd h.eq_nil (List.cons_ne_nil _ _)
      rw [normalizeForm?_eq_none_iff.2 (List.cons_ne_nil _ _), normalizeForm?_eq_none_iff.2 hne]

/-! ## Requests -/

lemma ofArgs?_parse (args : List String) :
    ofArgs? ("parse" :: args) =
      (parseForm? (splitArgs args).1).map fun form => ⟨form, (splitArgs args).2⟩ := by
  simp [ofArgs?]

lemma ofArgs?_normalize (args : List String) :
    ofArgs? ("normalize" :: args) =
      (normalizeForm? (splitArgs args).1).map fun form => ⟨form, (splitArgs args).2⟩ := by
  simp [ofArgs?]

/-- **Arguments ask for the same when they have the same options, in any order, and the same texts,
in one order.** -/
lemma ofArgs?_congr {args args' : List String}
    (hoptions : (splitArgs args).1.Perm (splitArgs args').1)
    (htexts : (splitArgs args).2 = (splitArgs args').2) (command : String) :
    ofArgs? (command :: args) = ofArgs? (command :: args') := by
  simp only [ofArgs?, parseForm?_perm hoptions, normalizeForm?_perm hoptions, htexts]

end Request

/-- A request ends well or with a fault; a command line that makes none is misused. -/
lemma status_eq_two_iff {args : List String} {stream : List UInt8} :
    (runArgs args stream).status = 2 ↔ Request.ofArgs? args = none := by
  cases hargs : Request.ofArgs? args with
  | none => simp [runArgs, hargs, Outcome.status]
  | some request =>
      rw [runArgs_of_ofArgs? hargs, Request.run]
      cases request.signatures stream <;> simp [Outcome.status]

lemma stdout_of_status {outcome : Outcome} (h : outcome.status = 2) : outcome.stdout = "" := by
  cases outcome with
  | misused => rfl
  | faulty fault => cases h
  | printed text => cases h

section Commands

variable {args : List String} (h : "--" ∉ args) (later : Option (List String))
  (stream : List UInt8)

include h

/-- **When `parse` is misused.** -/
lemma parse_misused_iff :
    (runArgs ("parse" :: args ++ trailing later) stream).status = 2 ↔
      (∃ arg ∈ args, StartsWithHyphen arg ∧ arg ≠ "-" ∧ arg ≠ "--json") ∨
        2 ≤ args.count "--json" := by
  have hcount : (args.filter isOption).count "--json" = args.count "--json" :=
    List.count_filter (by decide)
  rw [status_eq_two_iff, List.cons_append, Request.ofArgs?_parse, Option.map_eq_none_iff,
    splitArgs_append_trailing h, Request.parseForm?_eq_none_iff, hcount]
  simp only [List.mem_filter, isOption_iff, and_assoc]

/-- **When `normalize` is misused.** -/
lemma normalize_misused_iff :
    (runArgs ("normalize" :: args ++ trailing later) stream).status = 2 ↔
      ∃ arg ∈ args, StartsWithHyphen arg ∧ arg ≠ "-" := by
  rw [status_eq_two_iff, List.cons_append, Request.ofArgs?_normalize, Option.map_eq_none_iff,
    splitArgs_append_trailing h, Request.normalizeForm?_eq_none_iff]
  simp only [ne_eq, List.filter_eq_nil_iff, isOption_iff, not_forall, not_not, exists_prop]

/-- What `parse` does if it is not: `--json` chooses the form, and all the rest is text. -/
lemma runArgs_parse
    (hused : (runArgs ("parse" :: args ++ trailing later) stream).status ≠ 2) :
    runArgs ("parse" :: args ++ trailing later) stream =
      Request.run ⟨if "--json" ∈ args then .document else .report,
        args.filter (· ≠ "--json") ++ later.getD []⟩ stream := by
  have hargs := Request.ofArgs?_parse (args ++ trailing later)
  rw [splitArgs_append_trailing h] at hargs
  cases hform : Request.parseForm? (args.filter isOption) with
  | none =>
      rw [hform] at hargs
      exact absurd (status_eq_two_iff.2 hargs) hused
  | some form =>
      obtain ⟨hchosen, honly⟩ := Request.of_parseForm?_eq_some hform
      have hjson : isOption "--json" = true := by decide
      have htexts : args.filter (fun arg => !isOption arg) = args.filter (· ≠ "--json") := by
        refine List.filter_congr fun arg harg => ?_
        cases hoption : isOption arg with
        | true => simp [honly arg (List.mem_filter.2 ⟨harg, hoption⟩)]
        | false =>
            have hne : arg ≠ "--json" := by
              rintro rfl
              rw [hjson] at hoption
              cases hoption
            simp [hne]
      have hmem : "--json" ∈ args.filter isOption ↔ "--json" ∈ args := by
        rw [List.mem_filter]
        exact and_iff_left hjson
      rw [hform, htexts] at hargs
      rw [List.cons_append, runArgs_of_ofArgs? hargs, hchosen]
      simp only [hmem]

/-- What `normalize` does if it is not: all is text. -/
lemma runArgs_normalize
    (hused : (runArgs ("normalize" :: args ++ trailing later) stream).status ≠ 2) :
    runArgs ("normalize" :: args ++ trailing later) stream =
      Request.run ⟨.canonical, args ++ later.getD []⟩ stream := by
  rw [Ne, normalize_misused_iff h] at hused
  have hnot : ∀ arg ∈ args, ¬ isOption arg = true := by
    intro arg harg
    rw [isOption_iff]
    exact fun hoption => hused ⟨arg, harg, hoption⟩
  have hargs := Request.ofArgs?_normalize (args ++ trailing later)
  rw [splitArgs_append_trailing h, List.filter_eq_nil_iff.2 hnot,
    List.filter_eq_self.2 (by simpa using hnot)] at hargs
  rw [List.cons_append, runArgs_of_ofArgs? hargs]

end Commands

/-! ## Changes of place -/

/-- One argument of a command is put into another place. -/
inductive Moved : List String → List String → Prop
  /-- The option goes anywhere before the end of options. -/
  | json {a b a' b' : List String} (hplace : a ++ b = a' ++ b') (h : "--" ∉ a ++ b)
      (later : Option (List String)) :
      Moved (a ++ "--json" :: b ++ trailing later) (a' ++ "--json" :: b' ++ trailing later)
  /-- The last text before the end of options becomes the first one behind it. -/
  | text {a b : List String} {text : String} (htext : ¬ StartsWithHyphen text)
      (h : "--" ∉ a ++ b) (hlast : ∀ arg ∈ b, StartsWithHyphen arg ∧ arg ≠ "-")
      (later : List String) :
      Moved (a ++ text :: b ++ "--" :: later) (a ++ b ++ "--" :: text :: later)

/-- **One change of place leaves the options and the texts as they are**, but for the order of the
options. -/
lemma Moved.splitArgs_eq {args args' : List String} (h : Moved args args') :
    (splitArgs args).1.Perm (splitArgs args').1 ∧ (splitArgs args).2 = (splitArgs args').2 := by
  cases h with
  | @json a b a' b' hplace h later =>
      have hmid : ∀ {c d : List String}, "--" ∉ c ++ d → "--" ∉ c ++ "--json" :: d := by
        intro c d hcd
        simpa using hcd
      rw [splitArgs_append_trailing (hmid h), splitArgs_append_trailing (hmid (hplace ▸ h))]
      have hoption : isOption "--json" = true := by decide
      constructor
      · have hperm : ∀ c d : List String,
            ((c ++ "--json" :: d).filter isOption).Perm ("--json" :: (c ++ d).filter isOption) := by
          intro c d
          have hfilter : ((c ++ "--json" :: d).filter isOption).Perm
              (("--json" :: (c ++ d)).filter isOption) := List.perm_middle.filter isOption
          rwa [List.filter_cons_of_pos hoption] at hfilter
        exact (hperm a b).trans (hplace ▸ (hperm a' b').symm)
      · have htexts : ∀ c d : List String, (c ++ "--json" :: d).filter (fun arg => !isOption arg) =
            (c ++ d).filter (fun arg => !isOption arg) := by
          intro c d
          simp [hoption]
        rw [htexts, htexts, hplace]
  | @text a b text htext h hlast later =>
      have hnot : isOption text = false := by
        rw [← Bool.not_eq_true, isOption_iff]
        exact fun hoption => htext hoption.1
      have hend : "--" ∉ a ++ text :: b := by
        have hne : "--" ≠ text := by
          rintro rfl
          exact htext (by decide)
        simpa [hne] using h
      have hb : b.filter (fun arg => !isOption arg) = [] := by
        simpa [List.filter_eq_nil_iff, isOption_iff] using hlast
      have hsplit := splitArgs_append_trailing hend (some later)
      have hsplit' := splitArgs_append_trailing h (some (text :: later))
      rw [trailing] at hsplit hsplit'
      rw [hsplit, hsplit']
      -- behind the text there are only options, so that it keeps its place among the texts
      simp [hnot, hb]

/-- One change of place leaves the outcome as it is. -/
lemma Moved.runArgs_eq {args args' : List String} (h : Moved args args') (command : String)
    (stream : List UInt8) :
    runArgs (command :: args) stream = runArgs (command :: args') stream := by
  obtain ⟨hoptions, htexts⟩ := h.splitArgs_eq
  rw [runArgs, runArgs, Request.ofArgs?_congr hoptions htexts]

/-- Any number of them does so too, in either direction. -/
lemma runArgs_eq_of_moved {args args' : List String} (h : Relation.EqvGen Moved args args')
    (command : String) (stream : List UInt8) :
    runArgs (command :: args) stream = runArgs (command :: args') stream := by
  induction h with
  | rel args args' h => exact h.runArgs_eq command stream
  | refl args => rfl
  | symm args args' _ ih => exact ih.symm
  | trans args args' args'' _ _ ih ih' => exact ih.trans ih'

/-- **Arguments are requests.**  Before the end of options, `parse` takes no option but `--json`,
and that once at most, while `normalize` takes none.  Only this decides whether a command line is
misused; a misused one prints nothing.  Any other is a request for its texts, those before the end
of options and then those behind it, in the form that the option chooses.  So it makes no difference
where among the first arguments `--json` is, nor which texts are before the end of options. -/
theorem arguments_are_requests :
    (∀ (args : List String) (later : Option (List String)) (stream : List UInt8), "--" ∉ args →
      let parse := runArgs ("parse" :: args ++ trailing later) stream
      let normalize := runArgs ("normalize" :: args ++ trailing later) stream
      (parse.status = 2 ↔
        (∃ arg ∈ args, StartsWithHyphen arg ∧ arg ≠ "-" ∧ arg ≠ "--json") ∨
          2 ≤ args.count "--json") ∧
      (normalize.status = 2 ↔ ∃ arg ∈ args, StartsWithHyphen arg ∧ arg ≠ "-") ∧
      (parse.status = 2 → parse.stdout = "") ∧ (normalize.status = 2 → normalize.stdout = "") ∧
      (parse.status ≠ 2 → parse =
        Request.run ⟨if "--json" ∈ args then .document else .report,
          args.filter (· ≠ "--json") ++ later.getD []⟩ stream) ∧
      (normalize.status ≠ 2 → normalize =
        Request.run ⟨.canonical, args ++ later.getD []⟩ stream)) ∧
    ∀ args args', Relation.EqvGen Moved args args' → ∀ command stream,
      runArgs (command :: args) stream = runArgs (command :: args') stream := by
  constructor
  · intro args later stream h parse normalize
    exact ⟨parse_misused_iff h later stream, normalize_misused_iff h later stream,
      stdout_of_status, stdout_of_status, runArgs_parse h later stream,
      runArgs_normalize h later stream⟩
  · intro args args' h
    exact runArgs_eq_of_moved h

/-- A lone hyphen is a text, and behind `--` so is everything.  Two arguments change places; then an
option that is not known, one that is there twice, and no argument at all. -/
theorem options_change_places_with_texts :
    let args := ["-", "--json", "a b()"]
    let later := some ["--json", "-x y()"]
    let moved := ["--json", "-", "--", "a b()", "--json", "-x y()"]
    let stream := utf8 "c d()\n".toList
    "--" ∉ args ∧
    (runArgs ("parse" :: args ++ trailing later) stream).status ≠ 2 ∧
    runArgs ("parse" :: args ++ trailing later) stream =
      Request.run ⟨.document, ["-", "a b()", "--json", "-x y()"]⟩ stream ∧
    (runArgs ("normalize" :: args ++ trailing later) stream).status = 2 ∧
    (runArgs ("normalize" :: args ++ trailing later) stream).stdout = "" ∧
    Relation.EqvGen Moved (args ++ trailing later) moved ∧
    runArgs ("parse" :: (args ++ trailing later)) stream = runArgs ("parse" :: moved) stream ∧
    (runArgs ("parse" :: ["-j"] ++ trailing none) stream).status = 2 ∧
    (runArgs ("parse" :: ["--json", "--json"] ++ trailing later) stream).status = 2 ∧
    (runArgs ("normalize" :: [] ++ trailing none) stream).status ≠ 2 ∧
    runArgs ("normalize" :: [] ++ trailing none) stream =
      Request.run ⟨.canonical, []⟩ stream := by
  intro args later moved stream
  obtain ⟨hcommands, hmoves⟩ := arguments_are_requests
  have hend : "--" ∉ args := by decide
  obtain ⟨hparse, hnormalize, -, hstdout, hrun, -⟩ := hcommands args later stream hend
  obtain ⟨hunknown, -⟩ := hcommands ["-j"] none stream (by decide)
  obtain ⟨htwice, -⟩ := hcommands ["--json", "--json"] later stream (by decide)
  obtain ⟨-, hnothing, -, -, -, hstream⟩ := hcommands [] none stream (by decide)
  have hused : (runArgs ("parse" :: args ++ trailing later) stream).status ≠ 2 := by
    rw [Ne, hparse]
    decide
  have hmisused : (runArgs ("normalize" :: args ++ trailing later) stream).status = 2 :=
    hnormalize.2 (by decide)
  have hempty : (runArgs ("normalize" :: [] ++ trailing none) stream).status ≠ 2 := by
    rw [Ne, hnothing]
    decide
  have hjson : Moved (args ++ trailing later) (["--json", "-", "a b()"] ++ trailing later) :=
    @Moved.json ["-"] ["a b()"] [] ["-", "a b()"] rfl (by decide) later
  have htext : Moved (["--json", "-", "a b()"] ++ trailing later) moved :=
    @Moved.text ["--json", "-"] [] "a b()" (by decide) (by decide) (by decide)
      ["--json", "-x y()"]
  have hmoved : Relation.EqvGen Moved (args ++ trailing later) moved :=
    .trans _ _ _ (.rel _ _ hjson) (.rel _ _ htext)
  exact ⟨hend, hused, hrun hused, hmisused, hstdout hmisused, hmoved, hmoves _ _ hmoved _ _,
    hunknown.2 (by decide), htwice.2 (by decide), hempty, hstream hempty⟩

end Signatures
