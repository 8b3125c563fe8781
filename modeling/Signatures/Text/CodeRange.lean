/-!
# Sets of characters given by ranges of code points

A property of characters that a standard lists, such as being blank, is written down here as a list
of closed ranges of code points, in ascending order and apart from each other.  Membership asks
every range, so what a table contains does not depend on that order.
-/

namespace Signatures

/-- Closed ranges of code points, each as its first and its last member. -/
abbrev CodeRanges := List (Nat × Nat)

namespace CodeRanges

/-- Whether one of the ranges covers the character. -/
def has (ranges : CodeRanges) (c : Char) : Bool :=
  ranges.any fun (first, last) => first ≤ c.toNat && c.toNat ≤ last

/-- How many code points the ranges cover, when they are apart. -/
def size (ranges : CodeRanges) : Nat :=
  ranges.foldl (fun count (first, last) => count + (last + 1 - first)) 0

/-- Whether every range begins behind the end of the one before it. -/
def ascending : CodeRanges → Bool
  | [] => true
  | [r] => r.1 ≤ r.2
  | r :: s :: rest => r.1 ≤ r.2 && r.2 < s.1 && ascending (s :: rest)

theorem has_iff {ranges : CodeRanges} {c : Char} :
    ranges.has c = true ↔ ∃ r ∈ ranges, r.1 ≤ c.toNat ∧ c.toNat ≤ r.2 := by
  simp [has]

@[simp] theorem has_nil {c : Char} : has [] c = false := rfl

theorem has_cons {r : Nat × Nat} {ranges : CodeRanges} {c : Char} :
    has (r :: ranges) c = (decide (r.1 ≤ c.toNat) && decide (c.toNat ≤ r.2) || ranges.has c) := rfl

theorem has_append {a b : CodeRanges} {c : Char} : has (a ++ b) c = (a.has c || b.has c) := by
  simp [has]

/-- A table covers all that another one does if each range of that one lies in one of its own. -/
theorem has_of_ranges {a b : CodeRanges} (h : ∀ r ∈ a, ∃ s ∈ b, s.1 ≤ r.1 ∧ r.2 ≤ s.2) {c : Char}
    (hc : a.has c = true) : b.has c = true := by
  obtain ⟨r, hr, hfirst, hlast⟩ := has_iff.1 hc
  obtain ⟨s, hs, hsr⟩ := h r hr
  exact has_iff.2 ⟨s, hs, Nat.le_trans hsr.1 hfirst, Nat.le_trans hlast hsr.2⟩

end CodeRanges

end Signatures
