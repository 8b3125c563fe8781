import Mathlib.Data.List.Basic
import Mathlib.Tactic.Lemma
import Signatures.Command.Outcome

/-!
# Messages keep to one line and lose nothing

A message shows a text that nobody has checked.  The text stands in it as `Quoted.encode` writes it,
and two things follow.

**Nothing moves.**  `IsPlain` names the characters that show as what they are and stay where they
stand.  The tables of `isHidden` cover every other character, so that a quoted text consists of
plain ones (`isPlain_of_mem_encode`), and so does a message (`isPlain_of_mem_message`).  A line feed
is not plain: whatever a command complains about, it does so in one line.

**Nothing is lost.**  `Fault.ofMessage?` takes a message apart and undoes the quoting.  A text that
itself looks like quoted text, or like the end of a message, is no obstacle, because undoing stops
at the mark that ends the quoted text and at no other (`decode?_encode`).

* **`messages_are_plain_and_lossless`** — both for every fault, and the line of a failing command.
-/

namespace Signatures

/-! ## Plain characters -/

/-- The characters that turn the direction of the text beside them. -/
def directionRanges : CodeRanges :=
  [(0x61C, 0x61C), (0x200E, 0x200F), (0x202A, 0x202E), (0x2066, 0x2069)]

/-- A character that stays in its line and shows as what it is: no control, which are the numbers
below the space and those from U+007F to U+009F, no mark of direction and no blank but the space. -/
structure IsPlain (c : Char) : Prop where
  control : 0x20 ≤ c.toNat ∧ (c.toNat < 0x7F ∨ 0x9F < c.toNat)
  direction : directionRanges.has c = false
  blank : isBlank c = true → c = ' '

instance (c : Char) : Decidable (IsPlain c) :=
  decidable_of_iff ((0x20 ≤ c.toNat ∧ (c.toNat < 0x7F ∨ 0x9F < c.toNat)) ∧
      directionRanges.has c = false ∧ (isBlank c = true → c = ' '))
    ⟨fun ⟨h₁, h₂, h₃⟩ => ⟨h₁, h₂, h₃⟩, fun h => ⟨h.control, h.direction, h.blank⟩⟩

/-- Plain characters are found by going through the text. -/
lemma isPlain_of_all {cs : List Char} (h : (cs.all fun c => decide (IsPlain c)) = true) :
    ∀ c ∈ cs, IsPlain c := by
  simpa using h

/-- A line feed is a control. -/
lemma feed_not_mem_of_isPlain {cs : List Char} (h : ∀ c ∈ cs, IsPlain c) : '\n' ∉ cs := by
  intro hmem
  exact absurd (h '\n' hmem).control.1 (by decide)

/-- What is not hidden is in no table of hidden characters, except for the space. -/
lemma not_has_of_not_isHidden {c : Char} (h : isHidden c = false) (hspace : c ≠ ' ')
    {ranges : CodeRanges} (hranges : ranges ⊆ hiddenRanges) : ranges.has c = false := by
  rw [Bool.eq_false_iff]
  intro hc
  rw [isHidden_of_has hranges hc hspace] at h
  cases h

/-- **What is not hidden is plain.**  Each blank is a control or a separator, and the marks of
direction are format characters. -/
lemma isPlain_of_not_isHidden {c : Char} (h : isHidden c = false) : IsPlain c := by
  rcases eq_or_ne c ' ' with rfl | hspace
  · decide
  have hcontrol : controlRanges.has c = false :=
    not_has_of_not_isHidden h hspace fun r hr => by simp [hiddenRanges, hr]
  have hseparator : separatorRanges.has c = false :=
    not_has_of_not_isHidden h hspace fun r hr => by simp [hiddenRanges, hr]
  have hformat : formatRanges.has c = false :=
    not_has_of_not_isHidden h hspace fun r hr => by simp [hiddenRanges, hr]
  constructor
  case control =>
    simp only [controlRanges, CodeRanges.has_cons, CodeRanges.has_nil, Bool.or_false,
      Bool.or_eq_false_iff, Bool.and_eq_false_iff, decide_eq_false_iff_not] at hcontrol
    omega
  case direction =>
    rw [Bool.eq_false_iff]
    intro hc
    rw [CodeRanges.has_of_ranges (by decide) hc] at hformat
    cases hformat
  case blank =>
    intro hc
    have hcover : (controlRanges ++ separatorRanges).has c = true :=
      CodeRanges.has_of_ranges (by decide) hc
    rw [CodeRanges.has_append, hcontrol, hseparator] at hcover
    cases hcover

/-! ## Quoted texts -/

namespace Quoted

lemma isPlain_of_mem_byNumber {c d : Char} (h : d ∈ byNumber c) : IsPlain d := by
  have hdigits : ∀ n < 16, IsPlain (Nat.digitChar n) := by decide
  simp only [byNumber, List.cons_append, List.mem_cons, List.mem_append, List.not_mem_nil,
    or_false] at h
  rcases h with rfl | rfl | rfl | h | rfl
  · decide
  · decide
  · decide
  · obtain ⟨n, hn, rfl⟩ := exists_of_mem_toDigits h
    exact hdigits n hn
  · decide

/-- Whatever the character is, it is written with plain ones. -/
lemma isPlain_of_mem_escape {c : Char} : ∀ d ∈ escape c, IsPlain d := by
  unfold escape
  split
  -- the six characters with a name of their own
  iterate 6 exact isPlain_of_all (by decide)
  · split
    · intro d hd
      exact isPlain_of_mem_byNumber hd
    · next hhidden =>
      intro d hd
      obtain rfl := List.mem_singleton.1 hd
      exact isPlain_of_not_isHidden (by simpa using hhidden)

/-- **A quoted text is plain.** -/
lemma isPlain_of_mem_encode (cs : List Char) : ∀ d ∈ encode cs, IsPlain d := by
  have hquote : IsPlain '"' := by decide
  intro d hd
  simp only [encode, List.cons_append, List.mem_cons, List.mem_append, List.mem_flatMap,
    List.not_mem_nil, or_false] at hd
  rcases hd with rfl | ⟨c, -, hd⟩ | rfl
  · exact hquote
  · exact isPlain_of_mem_escape d hd
  · exact hquote

end Quoted

/-! ## Messages -/

/-- The defect that some words name. -/
def Defect.ofReason? (cs : List Char) : Option Defect :=
  [noOpening, declarationWords, noClosing, argumentShape].find? (·.reason.toList = cs)

namespace Fault

/-- The fault that a message tells of.  The quoted text is undone, and the words behind it name the
defect. -/
def ofMessage? (cs : List Char) : Option Fault :=
  match cs.dropPrefix? "malformed signature ".toList with
  | none => if cs = undecodable.message.toList then some undecodable else none
  | some rest => do
    let (text, rest) ← Quoted.decode? rest
    let reason ← rest.dropPrefix? ": ".toList
    let defect ← Defect.ofReason? reason
    pure (malformed (String.ofList text) defect)

lemma toList_message (text : String) (defect : Defect) :
    (malformed text defect).message.toList =
      "malformed signature ".toList ++
        (Quoted.encode text.toList ++ (": ".toList ++ defect.reason.toList)) := by
  have hmessage : (malformed text defect).message =
      "malformed signature " ++ String.ofList (Quoted.encode text.toList) ++ ": " ++
        defect.reason := rfl
  have hquoted : (String.ofList (Quoted.encode text.toList)).toList = Quoted.encode text.toList :=
    String.toList_ofList
  rw [hmessage, String.toList_append, String.toList_append, String.toList_append, hquoted,
    List.append_assoc, List.append_assoc]

/-- **A message tells the fault.** -/
lemma ofMessage?_message (fault : Fault) : ofMessage? fault.message.toList = some fault := by
  cases fault with
  | malformed text defect =>
      have hprefix : ∀ front rest : List Char, (front ++ rest).dropPrefix? front = some rest :=
        fun front rest => List.dropPrefix?_append_of_beq rest (BEq.refl front)
      have hreason : Defect.ofReason? defect.reason.toList = some defect := by
        cases defect <;> decide
      rw [ofMessage?, toList_message, hprefix]
      simp only [Quoted.decode?_encode, Option.bind_eq_bind, Option.bind_some, hprefix, hreason,
        String.ofList_toList, Option.pure_def]
  | undecodable => rfl

lemma message_injective : Function.Injective message := by
  intro fault fault' h
  have hfault := ofMessage?_message fault
  rw [h, ofMessage?_message] at hfault
  exact (Option.some.inj hfault).symm

/-- **A message is plain.** -/
lemma isPlain_of_mem_message (fault : Fault) : ∀ c ∈ fault.message.toList, IsPlain c := by
  cases fault with
  | malformed text defect =>
      have hreason : ∀ c ∈ defect.reason.toList, IsPlain c := by
        cases defect <;> exact isPlain_of_all (by decide)
      rw [toList_message]
      simp only [List.forall_mem_append]
      exact ⟨isPlain_of_all (by decide), Quoted.isPlain_of_mem_encode text.toList,
        isPlain_of_all (by decide), hreason⟩
  | undecodable => exact isPlain_of_all (by decide)

end Fault

/-- A command that ends with status 1 has met a fault. -/
lemma exists_fault_of_status {args : List String} {stream : List UInt8}
    (h : (runArgs args stream).status = 1) :
    ∃ fault, runArgs args stream = .faulty fault := by
  cases hrun : runArgs args stream with
  | misused => rw [hrun] at h; cases h
  | faulty fault => exact ⟨fault, rfl⟩
  | printed text => rw [hrun] at h; cases h

/-- **Messages are plain and lossless.**  A message quotes the text and names the defect.  The
quoting can be undone and the fault taken back from the whole message, so that messages about
different texts or different defects are different.  All characters of a message are plain.
Therefore a command that ends with status 1 has written one line on standard error, which has no
line feed but the one at its end. -/
theorem messages_are_plain_and_lossless :
    (∀ text : String, ∀ defect : Defect, ∃ quoted : String,
      (Fault.malformed text defect).message =
        "malformed signature " ++ quoted ++ ": " ++ defect.reason ∧
      Quoted.decode? quoted.toList = some (text.toList, [])) ∧
    (∀ fault : Fault, Fault.ofMessage? fault.message.toList = some fault) ∧
    (∀ text text' : String, ∀ defect defect' : Defect,
      (Fault.malformed text defect).message = (Fault.malformed text' defect').message →
        text = text' ∧ defect = defect') ∧
    (∀ fault : Fault, ∀ c ∈ fault.message.toList, IsPlain c) ∧
    ∀ args stream, (runArgs args stream).status = 1 → ∃ fault : Fault,
      (runArgs args stream).stderr = some ("error: " ++ fault.message ++ "\n") ∧
      '\n' ∉ ("error: " ++ fault.message).toList := by
  refine ⟨?_, Fault.ofMessage?_message, ?_, Fault.isPlain_of_mem_message, ?_⟩
  · intro text defect
    refine ⟨String.ofList (Quoted.encode text.toList), rfl, ?_⟩
    have hdecode := Quoted.decode?_encode text.toList []
    rwa [List.append_nil, ← @String.toList_ofList (Quoted.encode text.toList)] at hdecode
  · intro text text' defect defect' h
    exact Fault.malformed.inj (Fault.message_injective h)
  · intro args stream h
    obtain ⟨fault, hrun⟩ := exists_fault_of_status h
    refine ⟨fault, by rw [hrun]; rfl, ?_⟩
    have hline : ∀ c ∈ ("error: " ++ fault.message).toList, IsPlain c := by
      rw [String.toList_append, List.forall_mem_append]
      exact ⟨isPlain_of_all (by decide), fault.isPlain_of_mem_message⟩
    exact feed_not_mem_of_isPlain hline

/-- A text that turns the direction, ends its line and holds what could be the end of a message:
its message is still told from the one that it mimics. -/
theorem mimicked_message_is_told_apart :
    let text := "\u202e\": missing '('\n\\u\x7ba\x7d"
    let fault := Fault.malformed text .noClosing
    runArgs ["parse", text] [] = .faulty fault ∧
    Fault.ofMessage? fault.message.toList = some fault ∧
    fault.message ≠ (Fault.malformed "\u202e" .noOpening).message ∧
    ('\\' ∈ fault.message.toList ∧ IsPlain '\\') ∧
    ∃ fault : Fault,
      (runArgs ["parse", text] []).stderr = some ("error: " ++ fault.message ++ "\n") ∧
      '\n' ∉ ("error: " ++ fault.message).toList := by
  intro text fault
  obtain ⟨-, htold, hinj, hplain, hline⟩ := messages_are_plain_and_lossless
  have hrun : runArgs ["parse", text] [] = .faulty fault := by
    unfold fault text
    rfl
  have hmem : '\\' ∈ fault.message.toList := by
    rw [Fault.toList_message]
    exact List.mem_append_right _ (List.mem_append_left _ (by decide +kernel))
  refine ⟨hrun, htold fault, ?_, ⟨hmem, hplain fault '\\' hmem⟩, hline ["parse", text] [] ?_⟩
  · intro h
    exact absurd (hinj _ _ _ _ h).2 (by decide)
  · rw [hrun]
    rfl

end Signatures
