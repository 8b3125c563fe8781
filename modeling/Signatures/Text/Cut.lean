/-!
# Cutting a sequence at a mark

`cutAt? a l` is the part of `l` before the first `a` and the part after it, or nothing when `a` does
not occur.  A text is cut at its first parenthesis, a stream of bytes at its next line feed and a
list of arguments at its end of options, all by this one function.

* `cutAt?_eq_some_iff` — the two parts with the mark between them make up the sequence, and the
  mark is not in the first.  Nothing else is a cut.
* `cutAt?_eq_none_iff` — there is no cut exactly when the mark does not occur.
* `append_cons_inj` — two texts that are cut at a mark are equal when their parts are.
-/

namespace Signatures

variable {α : Type} [BEq α]

/-- The parts before and after the first occurrence of `a`. -/
def cutAt? (a : α) (l : List α) : Option (List α × List α) :=
  match l.dropWhile (· != a) with
  | [] => none
  | _ :: after => some (l.takeWhile (· != a), after)

variable [LawfulBEq α]

theorem cutAt?_append {a : α} {before : List α} (h : a ∉ before) (after : List α) :
    cutAt? a (before ++ a :: after) = some (before, after) := by
  have hpos : ∀ x ∈ before, (x != a) = true := by
    intro x hx
    simp only [bne_iff_ne]
    rintro rfl
    exact h hx
  simp [cutAt?, List.dropWhile_append_of_pos hpos, List.takeWhile_append_of_pos hpos]

theorem cutAt?_eq_none_iff {a : α} {l : List α} : cutAt? a l = none ↔ a ∉ l := by
  constructor
  · intro h hm
    obtain ⟨before, after, rfl, hb⟩ := List.eq_append_cons_of_mem hm
    simp [cutAt?_append hb] at h
  · intro h
    have hpos : ∀ x ∈ l, (x != a) = true := by
      intro x hx
      simp only [bne_iff_ne]
      rintro rfl
      exact h hx
    have hd : l.dropWhile (· != a) = [] := by
      simpa using @List.dropWhile_append_of_pos _ _ l [] hpos
    simp [cutAt?, hd]

theorem cutAt?_eq_some_iff {a : α} {l before after : List α} :
    cutAt? a l = some (before, after) ↔ l = before ++ a :: after ∧ a ∉ before := by
  constructor
  · intro h
    have hm : a ∈ l := by
      rcases Decidable.em (a ∈ l) with hm | hm
      · exact hm
      · simp [cutAt?_eq_none_iff.2 hm] at h
    obtain ⟨b, c, rfl, hb⟩ := List.eq_append_cons_of_mem hm
    simp only [cutAt?_append hb, Option.some.injEq, Prod.mk.injEq] at h
    obtain ⟨rfl, rfl⟩ := h
    exact ⟨rfl, hb⟩
  · rintro ⟨rfl, hb⟩
    exact cutAt?_append hb after

/-- A first mark is found in one place only. -/
theorem append_cons_inj {a : α} {b c x y : List α} (hb : a ∉ b) (hc : a ∉ c) :
    b ++ a :: x = c ++ a :: y ↔ b = c ∧ x = y := by
  constructor
  · intro h
    have hcut := congrArg (cutAt? a) h
    rw [cutAt?_append hb, cutAt?_append hc] at hcut
    simpa using hcut
  · rintro ⟨rfl, rfl⟩
    rfl

end Signatures
