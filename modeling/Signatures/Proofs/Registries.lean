import Mathlib.Data.List.Dedup
import Signatures.Registry
import Signatures.Proofs.Canonical

/-!
# A registry counts canonical texts

A registry compares signatures.  The signatures that texts stand for are well formed, and a
well-formed signature can be read back from its canonical text, so that comparing the texts comes to
the same (`Signature.eq_iff_text_eq`).  That is false of signatures made by hand.

`Registry.entered` is the registry that a run of texts leaves behind.  What one text adds to it is
said by `mem_enterText`; by induction the registry holds what the texts of the run stand for
(`mem_entered`), and each receipt is that of a text entered behind those before it
(`getElem?_enterTexts`).

* `canonicalTexts` — the different canonical texts among some texts.
* `Registry.size_entered` — **there are as many entries as different canonical texts**.
* **`registry_counts_canonical_texts`** — receipts, sizes and the order of the texts.
-/

namespace Signatures

/-! ## Canonical texts -/

/-- **Well-formed signatures are told apart by their texts.** -/
lemma Signature.eq_iff_text_eq {a b : Signature} (ha : a.WellFormed) (hb : b.WellFormed) :
    a = b ↔ a.text = b.text := by
  constructor
  · rintro rfl
    rfl
  · intro h
    have hread := ha.parse_text
    rw [h, hb.parse_text] at hread
    exact (Except.ok.inj hread).symm

/-- The canonical text of the signature that a text stands for, if there is one. -/
def canonicalText? (text : String) : Option String :=
  (Signature.parse text).toOption.map Signature.text

/-- The different canonical texts among some texts. -/
def canonicalTexts (texts : List String) : List String := (texts.filterMap canonicalText?).dedup

lemma canonicalText?_eq_some_iff {text shown : String} :
    canonicalText? text = some shown ↔
      ∃ sig, Signature.parse text = .ok sig ∧ sig.text = shown := by
  rw [canonicalText?]
  cases Signature.parse text <;> simp [Except.toOption]

lemma mem_canonicalTexts {texts : List String} {shown : String} :
    shown ∈ canonicalTexts texts ↔
      ∃ text ∈ texts, ∃ sig, Signature.parse text = .ok sig ∧ sig.text = shown := by
  simp only [canonicalTexts, List.mem_dedup, List.mem_filterMap, canonicalText?_eq_some_iff]

lemma nodup_canonicalTexts (texts : List String) : (canonicalTexts texts).Nodup :=
  List.nodup_dedup _

namespace Registry

variable {reg : Registry} {sig : Signature} {text : String}

/-! ## One text -/

/-- A text with a defect leaves the registry as it is. -/
lemma enterText_of_error {fault : Fault} (h : Signature.parse text = .error fault) :
    reg.enterText text = (reg, .error fault) := by
  rw [enterText, h]

lemma enterText_of_ok (h : Signature.parse text = .ok sig) :
    reg.enterText text =
      (reg.enter sig, .ok { isNew := decide (sig ∉ reg), size := (reg.enter sig).size }) := by
  rw [enterText, h]

/-- **A text adds what it stands for**, and nothing else. -/
lemma mem_enterText :
    sig ∈ (reg.enterText text).1 ↔ sig ∈ reg ∨ Signature.parse text = .ok sig := by
  cases hparse : Signature.parse text with
  | error fault => simp [enterText_of_error hparse]
  | ok other =>
      rw [enterText_of_ok hparse, mem_enter, Except.ok.injEq, or_comm, eq_comm]

/-! ## Texts in a row -/

/-- The registry after some texts. -/
def entered (reg : Registry) (texts : List String) : Registry :=
  texts.foldl (fun reg text => (reg.enterText text).1) reg

lemma entered_cons (reg : Registry) (text : String) (texts : List String) :
    reg.entered (text :: texts) = (reg.enterText text).1.entered texts := rfl

/-- The last text is entered into what the others left behind. -/
lemma entered_concat (reg : Registry) (texts : List String) (text : String) :
    reg.entered (texts ++ [text]) = ((reg.entered texts).enterText text).1 :=
  List.foldl_append

/-- **A run of texts adds what they stand for.** -/
lemma mem_entered {texts : List String} :
    sig ∈ reg.entered texts ↔ sig ∈ reg ∨ ∃ text ∈ texts, Signature.parse text = .ok sig := by
  induction texts generalizing reg with
  | nil => simp [entered]
  | cons text texts ih =>
      rw [entered_cons, ih, mem_enterText, or_assoc]
      simp only [List.mem_cons, exists_eq_or_imp]

/-- A receipt is that of its text, entered behind those before it. -/
lemma getElem?_enterTexts (reg : Registry) (texts : List String) (i : Nat) :
    (reg.enterTexts texts)[i]? =
      texts[i]?.map fun text => ((reg.entered (texts.take i)).enterText text).2 := by
  induction texts generalizing reg i with
  | nil => rfl
  | cons text texts ih =>
      cases i with
      | zero => rfl
      | succ i => exact ih (reg.enterText text).1 i

/-! ## Counting -/

/-- What texts add to the empty registry is well formed. -/
lemma wellFormed_of_mem_entered {texts : List String} (h : sig ∈ empty.entered texts) :
    sig.WellFormed := by
  rcases mem_entered.1 h with hempty | ⟨text, -, hparse⟩
  · exact absurd hempty (not_mem_empty sig)
  · exact Signature.wellFormed_of_parse hparse

/-- A signature is in the registry when its canonical text has been met. -/
lemma mem_entered_empty_iff {texts : List String} (hsig : sig.WellFormed) :
    sig ∈ empty.entered texts ↔ sig.text ∈ canonicalTexts texts := by
  rw [mem_canonicalTexts, mem_entered, or_iff_right (not_mem_empty sig)]
  constructor
  · rintro ⟨text, htext, hparse⟩
    exact ⟨text, htext, sig, hparse, rfl⟩
  · rintro ⟨text, htext, other, hparse, hshown⟩
    have hother := Signature.wellFormed_of_parse hparse
    obtain rfl := (Signature.eq_iff_text_eq hother hsig).2 hshown
    exact ⟨text, htext, hparse⟩

/-- **There are as many entries as different canonical texts.** -/
lemma size_entered (texts : List String) :
    (empty.entered texts).size = (canonicalTexts texts).length := by
  let sigs := (empty.entered texts).entries
  have hwell : ∀ sig ∈ sigs, sig.WellFormed := fun _ h => wellFormed_of_mem_entered h
  have hnodup : (sigs.map Signature.text).Nodup := by
    refine (empty.entered texts).nodup_entries.map_on ?_
    intro a ha b hb htext
    exact (Signature.eq_iff_text_eq (hwell a ha) (hwell b hb)).2 htext
  have hperm : (sigs.map Signature.text).Perm (canonicalTexts texts) := by
    refine (List.perm_ext_iff_of_nodup hnodup (nodup_canonicalTexts texts)).2 fun shown => ?_
    rw [List.mem_map]
    constructor
    · rintro ⟨sig, hsig, rfl⟩
      exact (mem_entered_empty_iff (hwell sig hsig)).1 hsig
    · intro hshown
      obtain ⟨text, -, sig, hparse, rfl⟩ := mem_canonicalTexts.1 hshown
      exact ⟨sig, (mem_entered_empty_iff (Signature.wellFormed_of_parse hparse)).2 hshown, rfl⟩
  rw [size, ← hperm.length_eq, List.length_map]

/-- What a text reports behind others: its fault, or whether its canonical text is a new one among
theirs, and how many there are with it. -/
lemma enterText_entered (texts : List String) (text : String) :
    ((empty.entered texts).enterText text).2 = (Signature.parse text).map fun sig =>
      { isNew := decide (sig.text ∉ canonicalTexts texts)
        size := (canonicalTexts (texts ++ [text])).length } := by
  cases hparse : Signature.parse text with
  | error fault => rw [enterText_of_error hparse]; rfl
  | ok sig =>
      have hmem := @mem_entered_empty_iff _ texts (Signature.wellFormed_of_parse hparse)
      have hafter : (empty.entered texts).enter sig = empty.entered (texts ++ [text]) := by
        rw [entered_concat, enterText_of_ok hparse]
      rw [enterText_of_ok hparse, hafter, size_entered]
      simp only [hmem, Except.map]

end Registry

/-- **A registry counts canonical texts.**  Of some texts that are entered in turn, each gives its
fault, or it is reported as new exactly when no text before it has the same canonical text, together
with the number of different canonical texts so far.  That is the size of the registry at every
point, a text with a defect leaves the registry as it is, and no order of the texts makes its size
another.  For signatures that are read are equal when their canonical texts are. -/
theorem registry_counts_canonical_texts :
    (∀ texts : List String, ∀ i text, texts[i]? = some text →
      (Registry.empty.enterTexts texts)[i]? = some ((Signature.parse text).map fun sig =>
        { isNew := decide (sig.text ∉ canonicalTexts (texts.take i))
          size := (canonicalTexts (texts.take (i + 1))).length }) ∧
      (Registry.empty.entered (texts.take (i + 1))).size =
        (canonicalTexts (texts.take (i + 1))).length ∧
      ∀ fault, Signature.parse text = .error fault →
        Registry.empty.entered (texts.take (i + 1)) = Registry.empty.entered (texts.take i)) ∧
    (∀ texts texts' : List String, texts.Perm texts' →
      (Registry.empty.entered texts).size = (Registry.empty.entered texts').size) ∧
    ∀ text text' sig sig', Signature.parse text = .ok sig → Signature.parse text' = .ok sig' →
      (sig = sig' ↔ sig.text = sig'.text) := by
  refine ⟨?_, ?_, ?_⟩
  · intro texts i text htext
    have htake : texts.take (i + 1) = texts.take i ++ [text] := by
      rw [List.take_add_one, htext, Option.toList_some]
    refine ⟨?_, Registry.size_entered _, ?_⟩
    · rw [Registry.getElem?_enterTexts, htext, Option.map_some, Registry.enterText_entered, htake]
    · intro fault hparse
      rw [htake, Registry.entered_concat, Registry.enterText_of_error hparse]
  · intro texts texts' hperm
    rw [Registry.size_entered, Registry.size_entered]
    exact ((hperm.filterMap canonicalText?).dedup).length_eq
  · intro text text' sig sig' hparse hparse'
    exact Signature.eq_iff_text_eq (Signature.wellFormed_of_parse hparse)
      (Signature.wellFormed_of_parse hparse')

/-- A text with a defect and then another spelling of the first text: neither adds anything. -/
theorem second_spelling_is_not_new :
    let texts := ["int f(int a)", "oops", "\tint  f( int a )", "int g()"]
    let first : Signature := ⟨none, "int", "f", [⟨"int", "a"⟩]⟩
    texts[1]? = some "oops" ∧ texts[2]? = some "\tint  f( int a )" ∧
    Signature.parse "oops" = .error (.malformed "oops" .noOpening) ∧
    Registry.empty.entered (texts.take 2) = Registry.empty.entered (texts.take 1) ∧
    Signature.parse "\tint  f( int a )" = .ok first ∧
    (Registry.empty.enterTexts texts)[2]? = some (.ok { isNew := false, size := 1 }) ∧
    texts.Perm texts.reverse ∧
    (Registry.empty.entered texts).size = (Registry.empty.entered texts.reverse).size ∧
    (first = first ↔ first.text = first.text) := by
  intro texts first
  obtain ⟨hrun, hperm, heq⟩ := registry_counts_canonical_texts
  have hfaulty : Signature.parse "oops" = .error (.malformed "oops" .noOpening) := by rfl
  have hparse : Signature.parse "\tint  f( int a )" = .ok first := by rfl
  obtain ⟨-, -, hkept⟩ := hrun texts 1 "oops" rfl
  obtain ⟨hreceipt, -, -⟩ := hrun texts 2 "\tint  f( int a )" rfl
  have hknown : first.text ∈ canonicalTexts (texts.take 2) := by decide +kernel
  have hcount : (canonicalTexts (texts.take 3)).length = 1 := by decide +kernel
  have hreverse : texts.Perm texts.reverse := texts.reverse_perm.symm
  refine ⟨rfl, rfl, hfaulty, hkept _ hfaulty, hparse, ?_, hreverse, hperm _ _ hreverse,
    heq _ _ _ _ hparse hparse⟩
  rw [hreceipt, hparse, hcount, Except.map, decide_eq_false (not_not_intro hknown)]

end Signatures
