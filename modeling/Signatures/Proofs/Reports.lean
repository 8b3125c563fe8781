import Signatures.Proofs.Outcomes

/-!
# What a report reveals

A report is lines of text around words that may be anything: a hyphen, a number, or the label of
another field.  Still its lines can be told apart, by where they stand.

**Blocks.**  No line of a block is empty and no block is, so that the empty lines are where one
block ends and the next begins (`filter_splitOn_intercalate`, `blocksOf_report`).

**Lines.**  A block is four lines with a label of fixed length each, and behind them one line for
each parameter, in which the first space behind the dash ends the type.  So a block determines its
signature but for one thing: a missing modifier is shown as a hyphen, and a modifier may be one.
`Signature.ReportedAlike` is equality up to that.

* `Signature.WellFormed.reportLines_eq_iff` — signatures with the same block are reported alike.
* `Signature.report_eq_iff` — **reports are equal exactly when the signatures are reported alike**,
  one by one.
* **`reports_reveal_signatures`** — the same for what two commands print.
-/

namespace Signatures

/-- Equal signatures, or such that one has no modifier and the other's is a hyphen and no other
field differs. -/
structure Signature.ReportedAlike (a b : Signature) : Prop where
  modifier : a.modifier = b.modifier ∨ a.modifier = none ∧ b.modifier = some "-" ∨
    a.modifier = some "-" ∧ b.modifier = none
  returnType : a.returnType = b.returnType
  name : a.name = b.name
  params : a.params = b.params

/-! ## One signature -/

/-- The text that shows an absent value can be a value. -/
lemma getD_eq_getD_iff {α : Type} {a b : Option α} {shown : α} :
    a.getD shown = b.getD shown ↔
      a = b ∨ a = none ∧ b = some shown ∨ a = some shown ∧ b = none := by
  cases a with
  | none => cases b <;> simp [eq_comm]
  | some a => cases b <;> simp

/-- The first space of a parameter ends its type. -/
lemma Param.WellFormed.eq_of_chars_eq {p q : Param} (hp : p.WellFormed) (hq : q.WellFormed)
    (h : p.chars = q.chars) : p = q := by
  have hspace : isBlank ' ' = true := by decide
  obtain ⟨htype, hname⟩ := (append_cons_inj (hp.1.1.not_mem_of_isBlank hspace)
    (hq.1.1.not_mem_of_isBlank hspace)).1 h
  rw [String.toList_inj] at htype hname
  obtain ⟨type, name⟩ := p
  obtain rfl : type = q.type := htype
  obtain rfl : name = q.name := hname
  rfl

namespace Signature

variable {a b : Signature}

/-- A block is the four labelled fields and the parameters behind a dash. -/
lemma reportLines_eq (sig : Signature) :
    sig.reportLines =
      ("access_modifier: ".toList ++ (sig.modifier.getD "-").toList) ::
      ("return_type: ".toList ++ sig.returnType.toList) ::
      ("method_name: ".toList ++ sig.name.toList) ::
      ("arguments: ".toList ++ Nat.toDigits 10 sig.params.length) ::
      (sig.params.map Param.chars).map ("  - ".toList ++ ·) := by
  rw [reportLines, List.map_map]
  simp only [Function.comp_def, Param.chars, List.append_assoc, List.cons_append, List.nil_append]

lemma reportLines_ne_nil (sig : Signature) : sig.reportLines ≠ [] := by
  rw [reportLines_eq]
  exact List.cons_ne_nil _ _

/-- No line of a block is empty. -/
lemma nil_not_mem_reportLines (sig : Signature) : [] ∉ sig.reportLines := by
  simp [reportLines_eq]

/-- What is reported alike has the same block. -/
lemma ReportedAlike.reportLines_eq (h : a.ReportedAlike b) : a.reportLines = b.reportLines := by
  rw [Signature.reportLines_eq, Signature.reportLines_eq, getD_eq_getD_iff.2 h.modifier,
    h.returnType, h.name, h.params]

/-- **A block determines its signature** up to the one thing that it does not show. -/
lemma WellFormed.reportLines_eq_iff (ha : a.WellFormed) (hb : b.WellFormed) :
    a.reportLines = b.reportLines ↔ a.ReportedAlike b := by
  refine ⟨fun h => ?_, ReportedAlike.reportLines_eq⟩
  rw [reportLines_eq, reportLines_eq] at h
  simp only [List.cons.injEq, List.append_cancel_left_eq, String.toList_inj] at h
  obtain ⟨hmodifier, htype, hname, -, hlines⟩ := h
  have hchars : a.params.map Param.chars = b.params.map Param.chars :=
    List.map_injective_iff.2 (List.append_right_injective _) hlines
  refine ⟨getD_eq_getD_iff.1 hmodifier, htype, hname, ?_⟩
  rw [← List.forall₂_eq_eq_eq]
  exact forall₂_of_map_eq (fun _ _ hp hq => hp.eq_of_chars_eq hq) ha.2.2.2 hb.2.2.2 hchars

end Signature

/-! ## Several signatures -/

/-- Parts that are not empty and lack the separator are found again between separators, also when
there are none of them. -/
lemma filter_splitOn_intercalate {α : Type} [BEq α] [LawfulBEq α] {x : α} {parts : List (List α)}
    (h : ∀ part ∈ parts, x ∉ part ∧ part ≠ []) :
    (([x].intercalate parts).splitOn x).filter (fun part => !part.isEmpty) = parts := by
  cases parts with
  | nil => simp [List.splitOn_nil]
  | cons first others =>
      rw [List.splitOn_intercalate x (fun part hpart => (h part hpart).1) (List.cons_ne_nil _ _),
        List.filter_eq_self]
      intro part hpart
      simpa using (h part hpart).2

/-- The blocks of a report: runs of lines that are not empty. -/
def blocksOf (cs : List Char) : List (List (List Char)) :=
  ((cs.splitOn '\n').dropLast.splitOn []).filter fun block => !block.isEmpty

namespace Signature

variable {sigs sigs' : List Signature}

/-- **The blocks of a report are those of its signatures.** -/
lemma blocksOf_report (h : ∀ sig ∈ sigs, sig.WellFormed) :
    blocksOf (report sigs) = sigs.map reportLines := by
  rw [blocksOf, splitOn_report h, List.dropLast_concat, filter_splitOn_intercalate]
  refine List.forall_mem_map.2 fun sig _ => ?_
  exact ⟨sig.nil_not_mem_reportLines, sig.reportLines_ne_nil⟩

lemma map_reportLines_eq (h : List.Forall₂ ReportedAlike sigs sigs') :
    sigs.map reportLines = sigs'.map reportLines := by
  induction h with
  | nil => rfl
  | cons hab _ ih => rw [List.map_cons, List.map_cons, hab.reportLines_eq, ih]

/-- **Reports are equal exactly when the signatures are reported alike**, one by one. -/
theorem report_eq_iff (h : ∀ sig ∈ sigs, sig.WellFormed) (h' : ∀ sig ∈ sigs', sig.WellFormed) :
    report sigs = report sigs' ↔ List.Forall₂ ReportedAlike sigs sigs' := by
  constructor
  · intro heq
    have hblocks := congrArg blocksOf heq
    rw [blocksOf_report h, blocksOf_report h'] at hblocks
    exact forall₂_of_map_eq (fun _ _ ha hb => (ha.reportLines_eq_iff hb).1) h h' hblocks
  · intro halike
    rw [report_eq_unlines, report_eq_unlines, map_reportLines_eq halike]

end Signature

/-- A report that is printed is that of well-formed signatures. -/
lemma exists_report_of_status {args texts : List String} {stream : List UInt8}
    (hargs : Request.ofArgs? args = some ⟨.report, texts⟩)
    (h : (runArgs args stream).status = 0) :
    ∃ sigs, Request.signatures ⟨.report, texts⟩ stream = .ok sigs ∧
      (∀ sig ∈ sigs, sig.WellFormed) ∧
      (runArgs args stream).stdout.toList = Signature.report sigs := by
  rw [runArgs_of_ofArgs? hargs] at h ⊢
  obtain ⟨sigs, hsigs⟩ := Request.exists_of_status h
  refine ⟨sigs, hsigs, Request.wellFormed_of_signatures hsigs, ?_⟩
  rw [Request.run, hsigs, Outcome.stdout, String.toList_ofList]
  rfl

/-- **Reports reveal the signatures.**  Let two commands ask for reports, of any texts or streams,
and end well.  Then both have read signatures, and they print the same exactly when these are as
many and, one by one, equal but for a modifier that is missing in one and a hyphen in the other. -/
theorem reports_reveal_signatures {args args' texts texts' : List String}
    (hargs : Request.ofArgs? args = some ⟨.report, texts⟩)
    (hargs' : Request.ofArgs? args' = some ⟨.report, texts'⟩) {stream stream' : List UInt8}
    (h : (runArgs args stream).status = 0) (h' : (runArgs args' stream').status = 0) :
    ∃ sigs sigs', Request.signatures ⟨.report, texts⟩ stream = .ok sigs ∧
      Request.signatures ⟨.report, texts'⟩ stream' = .ok sigs' ∧
      ((runArgs args stream).stdout = (runArgs args' stream').stdout ↔
        List.Forall₂ Signature.ReportedAlike sigs sigs') := by
  obtain ⟨sigs, hsigs, hwell, hprint⟩ := exists_report_of_status hargs h
  obtain ⟨sigs', hsigs', hwell', hprint'⟩ := exists_report_of_status hargs' h'
  refine ⟨sigs, sigs', hsigs, hsigs', ?_⟩
  rw [← String.toList_inj, hprint, hprint']
  exact Signature.report_eq_iff hwell hwell'

/-- Two texts and two lines, which differ in a modifier only, with words that look like a line of
the report. -/
theorem hyphen_is_reported_as_no_modifier :
    let texts := ["int f(arguments: 0)", "a b c()"]
    let stream := utf8 "- int  f( arguments: 0 )\n\na b c()".toList
    Request.ofArgs? ("parse" :: texts) = some ⟨.report, texts⟩ ∧
    Request.ofArgs? ["parse"] = some ⟨.report, []⟩ ∧
    (runArgs ("parse" :: texts) []).status = 0 ∧ (runArgs ["parse"] stream).status = 0 ∧
    ∃ sigs sigs', Request.signatures ⟨.report, texts⟩ [] = .ok sigs ∧
      Request.signatures ⟨.report, []⟩ stream = .ok sigs' ∧ sigs ≠ sigs' ∧
      List.Forall₂ Signature.ReportedAlike sigs sigs' ∧
      (runArgs ("parse" :: texts) []).stdout = (runArgs ["parse"] stream).stdout := by
  intro texts stream
  have hargs : Request.ofArgs? ("parse" :: texts) = some ⟨.report, texts⟩ := by decide
  have hargs' : Request.ofArgs? ["parse"] = some ⟨.report, []⟩ := by decide
  have hread : Request.signatures ⟨.report, texts⟩ [] = .ok [⟨none, "int", "f",
      [⟨"arguments:", "0"⟩]⟩, ⟨some "a", "b", "c", []⟩] := by rfl
  have hread' : Request.signatures ⟨.report, []⟩ stream = .ok [⟨some "-", "int", "f",
      [⟨"arguments:", "0"⟩]⟩, ⟨some "a", "b", "c", []⟩] := by
    rw [Request.signatures, if_pos rfl, readStream_eq_readLines]
    rfl
  have h : (runArgs ("parse" :: texts) []).status = 0 := by
    rw [runArgs_of_ofArgs? hargs, Request.run, hread]
    rfl
  have h' : (runArgs ["parse"] stream).status = 0 := by
    rw [runArgs_of_ofArgs? hargs', Request.run, hread']
    rfl
  obtain ⟨sigs, sigs', hsigs, hsigs', hiff⟩ := reports_reveal_signatures hargs hargs' h h'
  obtain rfl := Except.ok.inj (hsigs.symm.trans hread)
  obtain rfl := Except.ok.inj (hsigs'.symm.trans hread')
  have halike : List.Forall₂ Signature.ReportedAlike
      [⟨none, "int", "f", [⟨"arguments:", "0"⟩]⟩, ⟨some "a", "b", "c", []⟩]
      [⟨some "-", "int", "f", [⟨"arguments:", "0"⟩]⟩, ⟨some "a", "b", "c", []⟩] :=
    .cons ⟨.inr (.inl ⟨rfl, rfl⟩), rfl, rfl, rfl⟩ (.cons ⟨.inl rfl, rfl, rfl, rfl⟩ .nil)
  exact ⟨hargs, hargs', h, h', _, _, hread, hread', by decide, halike, hiff.2 halike⟩

end Signatures
