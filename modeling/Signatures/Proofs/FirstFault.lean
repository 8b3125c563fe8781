import Signatures.Proofs.Streams

/-!
# The first fault

Texts in a row and lines in a row are read by one rule: each item gives a signature, nothing or a
fault, and the first fault is the answer.  `readEach` is that rule for items of any kind, so that
which fault is the answer is settled once.

* `readEach_eq_error_iff` — **the answer is a fault exactly when it is the first one**: no item
  before has any.
* `readLines_eq_readEach`, `Signature.parseAll_eq_readEach` — lines and texts are such items.
-/

namespace Signatures

section Each

variable {α β : Type} {read : α → Except Fault (Option Signature)}

/-- What some items hold, taken one by one up to the first fault. -/
def readEach (read : α → Except Fault (Option Signature)) : List α → Except Fault (List Signature)
  | [] => .ok []
  | item :: items => (read item).bind fun sig? => (readEach read items).map (sig?.toList ++ ·)

@[simp] lemma readEach_nil : readEach read [] = .ok [] := rfl

lemma readEach_cons (item : α) (items : List α) :
    readEach read (item :: items) =
      (read item).bind fun sig? => (readEach read items).map (sig?.toList ++ ·) := rfl

lemma readEach_map (f : β → α) (items : List β) :
    readEach read (items.map f) = readEach (fun item => read (f item)) items := by
  induction items with
  | nil => rfl
  | cons item items ih => rw [List.map_cons, readEach_cons, readEach_cons, ih]

/-- A fault of the first item is the answer. -/
lemma readEach_cons_of_error {item : α} {fault : Fault} (h : read item = .error fault)
    (items : List α) : readEach read (item :: items) = .error fault := by
  rw [readEach_cons, h]
  rfl

/-- If the first item has none, the fault is among the others. -/
lemma readEach_cons_eq_error_iff {item : α} {sig? : Option Signature} (h : read item = .ok sig?)
    {items : List α} {fault : Fault} :
    readEach read (item :: items) = .error fault ↔ readEach read items = .error fault := by
  rw [readEach_cons, h]
  cases readEach read items <;> simp [Except.bind, Except.map]

/-- **The answer is the first fault.** -/
theorem readEach_eq_error_iff {items : List α} {fault : Fault} :
    readEach read items = .error fault ↔ ∃ before item after, items = before ++ item :: after ∧
      (∀ i ∈ before, ∀ f, read i ≠ .error f) ∧ read item = .error fault := by
  constructor
  · intro h
    -- items are passed over from the front as long as they have no fault
    induction items with
    | nil => cases h
    | cons item items ih =>
        cases hread : read item with
        | error f =>
            rw [readEach_cons_of_error hread] at h
            cases h
            exact ⟨[], item, items, rfl, List.forall_mem_nil _, hread⟩
        | ok sig? =>
            obtain ⟨before, other, after, rfl, hbefore, hother⟩ :=
              ih ((readEach_cons_eq_error_iff hread).1 h)
            refine ⟨item :: before, other, after, rfl, List.forall_mem_cons.2 ⟨?_, hbefore⟩, hother⟩
            intro f hf
            rw [hread] at hf
            cases hf
  · rintro ⟨before, item, after, rfl, hbefore, hitem⟩
    -- what the items before hold is lost: the fault takes its place
    induction before with
    | nil => exact readEach_cons_of_error hitem after
    | cons first before ih =>
        obtain ⟨hfirst, hbefore⟩ := List.forall_mem_cons.1 hbefore
        cases hread : read first with
        | error f => exact absurd hread (hfirst f)
        | ok sig? => exact (readEach_cons_eq_error_iff hread).2 (ih hbefore)

/-- The answer is a fault exactly when an item has one. -/
lemma exists_readEach_error_iff {items : List α} :
    (∃ fault, readEach read items = .error fault) ↔
      ∃ item ∈ items, ∃ fault, read item = .error fault := by
  induction items with
  | nil => simp
  | cons item items ih =>
      simp only [List.mem_cons, exists_eq_or_imp, ← ih]
      cases hread : read item with
      | error fault => simp [readEach_cons_of_error hread]
      | ok sig? => simp [readEach_cons_eq_error_iff hread]

end Each

/-! ## Lines and texts -/

lemma readLines_eq_readEach (lines : List (List UInt8)) :
    readLines lines = readEach readLine lines := by
  induction lines with
  | nil => rfl
  | cons line lines ih =>
      rw [readLines, readEach_cons, ih]
      cases readLine line <;> rfl

/-- The fault of some lines is on one of them. -/
lemma exists_onLine_of_readLines {lines : List (List UInt8)} {fault : Fault}
    (h : readLines lines = .error fault) : ∃ line ∈ lines, fault.OnLine line := by
  rw [readLines_eq_readEach, readEach_eq_error_iff] at h
  obtain ⟨before, line, after, rfl, -, hline⟩ := h
  exact ⟨line, List.mem_append_right before List.mem_cons_self, readLine_eq_error_iff.1 hline⟩

lemma Signature.parseAll_eq_readEach (texts : List String) :
    parseAll texts = readEach (fun text => (parse text).map some) texts := by
  induction texts with
  | nil => rfl
  | cons text texts ih =>
      rw [parseAll_cons, readEach_cons, ih]
      cases parse text <;> rfl

end Signatures
