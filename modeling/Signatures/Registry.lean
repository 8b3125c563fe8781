import Signatures.Signature.Reader

/-!
# Equal signatures

What texts stand for is compared in two ways.

**Two texts.**  Signatures agree wholly, in their parameters only, or not at all.  When both texts
have a fault, the first one's is reported.

**Texts in a row.**  A registry holds signatures, each at most once.  Entering a text reads it; a
text with a defect changes nothing, and a signature that is there already is not entered again.

* `Agreement.ofTexts` — how far two texts agree.
* `mem_enter`, `size_enter` — what entering a signature does to membership and size.
* `Registry.enterText`, `Registry.enterTexts` — entering texts, with a receipt for each.
-/

namespace Signatures

/-! ## Two texts -/

/-- In what two signatures are equal. -/
structure Agreement where
  whole : Bool
  params : Bool
  deriving DecidableEq, Repr

/-- How far two signatures agree. -/
def Signature.agreement (a b : Signature) : Agreement where
  whole := decide (a = b)
  params := decide (a.params = b.params)

/-- Reads two texts and says how far they agree. -/
def Agreement.ofTexts (a b : String) : Except Fault Agreement :=
  match Signature.parse a with
  | .error fault => .error fault
  | .ok first => (Signature.parse b).map first.agreement

/-! ## Texts in a row -/

/-- Different signatures, the one entered last in front. -/
structure Registry where
  entries : List Signature
  nodup_entries : entries.Nodup

/-- What entering a signature reports: whether it was new, and how many there are now. -/
structure Receipt where
  isNew : Bool
  size : Nat
  deriving DecidableEq, Repr

namespace Registry

instance : Membership Signature Registry := ⟨fun reg sig => sig ∈ reg.entries⟩

instance (sig : Signature) (reg : Registry) : Decidable (sig ∈ reg) :=
  inferInstanceAs (Decidable (sig ∈ reg.entries))

/-- The registry without entries. -/
def empty : Registry := ⟨[], List.nodup_nil⟩

/-- How many signatures a registry holds. -/
def size (reg : Registry) : Nat := reg.entries.length

/-- The registry with a signature in it. -/
def enter (reg : Registry) (sig : Signature) : Registry :=
  if h : sig ∈ reg then reg else ⟨sig :: reg.entries, List.nodup_cons.2 ⟨h, reg.nodup_entries⟩⟩

/-- Reads a text and enters what it stands for. -/
def enterText (reg : Registry) (text : String) : Registry × Except Fault Receipt :=
  match Signature.parse text with
  | .error fault => (reg, .error fault)
  | .ok sig =>
    let after := reg.enter sig
    (after, .ok { isNew := decide (sig ∉ reg), size := after.size })

/-- Enters texts in turn and collects the receipts. -/
def enterTexts (reg : Registry) : List String → List (Except Fault Receipt)
  | [] => []
  | text :: texts =>
    let (after, receipt) := reg.enterText text
    receipt :: after.enterTexts texts

@[simp] theorem not_mem_empty (sig : Signature) : sig ∉ empty := List.not_mem_nil

theorem mem_enter {reg : Registry} {sig other : Signature} :
    other ∈ reg.enter sig ↔ other = sig ∨ other ∈ reg := by
  unfold enter
  split
  · next h =>
    constructor
    · exact Or.inr
    · rintro (rfl | ho)
      · exact h
      · exact ho
  · exact List.mem_cons

theorem size_enter (reg : Registry) (sig : Signature) :
    (reg.enter sig).size = if sig ∈ reg then reg.size else reg.size + 1 := by
  unfold enter
  split <;> rfl

end Registry

end Signatures
