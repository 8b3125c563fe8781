import Signatures.Text.CodeRange

/-!
# Blanks and words

A character is blank when it has the Unicode property `White_Space`: 25 characters in all, from the
tab to the ideographic space.  The zero-width space, the byte order mark and the four information
separators U+001C to U+001F are not among them.  Cutting a text into words, trimming it and asking
whether anything is on a line all go by this one class, which is why they never disagree.

A word is a longest run of characters that are not blank.  `words` cuts a text at every blank and
drops the empty pieces, so leading, trailing and repeated blanks leave no trace.

* `words_append_blank` — a blank between two texts keeps their words apart.
* `words_of_isWord` — a word is its own only word.
* `isWord_of_mem_words` — nothing but words comes out.
-/

namespace Signatures

/-! ## Blanks -/

/-- The blank characters. -/
def blankRanges : CodeRanges :=
  [(0x09, 0x0D), (0x20, 0x20), (0x85, 0x85), (0xA0, 0xA0), (0x1680, 0x1680), (0x2000, 0x200A),
   (0x2028, 0x2029), (0x202F, 0x202F), (0x205F, 0x205F), (0x3000, 0x3000)]

/-- Whether the character only separates: it belongs to no word. -/
def isBlank (c : Char) : Bool := blankRanges.has c

example : blankRanges.size = 25 ∧ blankRanges.ascending = true := by decide

example : isBlank '\u200b' = false ∧ isBlank '\ufeff' = false ∧ isBlank '\x1c' = false := by decide

/-- A text on which nothing is written. -/
def allBlank (cs : List Char) : Bool := cs.all isBlank

theorem allBlank_iff {cs : List Char} : allBlank cs = true ↔ ∀ c ∈ cs, isBlank c = true := by
  simp [allBlank]

/-! ## Words -/

/-- The longest runs of characters that are not blank, from left to right. -/
def words (cs : List Char) : List (List Char) :=
  (cs.splitOnP isBlank).filter fun w => !w.isEmpty

/-- A non-empty run without blanks. -/
def IsWord (w : List Char) : Prop := w ≠ [] ∧ ∀ c ∈ w, isBlank c = false

instance (w : List Char) : Decidable (IsWord w) :=
  decidable_of_iff (w ≠ [] ∧ w.all (fun c => !isBlank c) = true) (by simp [IsWord])

@[simp] theorem words_nil : words [] = [] := by simp [words, List.splitOnP_nil]

/-- A blank ends whatever word stands before it, and begins none. -/
theorem words_append_blank (left right : List Char) {b : Char} (hb : isBlank b = true) :
    words (left ++ b :: right) = words left ++ words right := by
  simp [words, List.splitOnP_append_cons left right hb, List.filter_append]

theorem words_cons_blank {b : Char} (hb : isBlank b = true) (cs : List Char) :
    words (b :: cs) = words cs := by
  simpa using words_append_blank [] cs hb

theorem words_of_isWord {w : List Char} (hw : IsWord w) : words w = [w] := by
  simp [words, List.splitOnP_eq_singleton hw.2, hw.1]

/-- A piece of a cut holds no character that was cut at. -/
theorem not_of_mem_splitOnP {p : Char → Bool} :
    ∀ {cs w : List Char}, w ∈ cs.splitOnP p → ∀ c ∈ w, p c = false
  | [], w, hw => by
    simp only [List.splitOnP_nil, List.mem_singleton] at hw
    subst hw
    simp
  | x :: xs, w, hw => by
    rw [List.splitOnP_cons_eq_if_modifyHead] at hw
    split at hw
    · rcases List.mem_cons.1 hw with rfl | hw
      · simp
      · exact not_of_mem_splitOnP hw
    · next hx =>
      -- the head piece grows by `x`, the others are pieces of the rest
      obtain ⟨r, rs, hr⟩ := List.exists_cons_of_ne_nil (List.splitOnP_ne_nil p xs)
      rw [hr, List.modifyHead_cons] at hw
      rcases List.mem_cons.1 hw with rfl | hw
      · intro c hc
        rcases List.mem_cons.1 hc with rfl | hc
        · simpa using hx
        · exact not_of_mem_splitOnP (hr ▸ List.mem_cons_self) c hc
      · exact not_of_mem_splitOnP (hr ▸ List.mem_cons_of_mem _ hw)

theorem not_mem_of_mem_splitOn {c : Char} {cs w : List Char} (hw : w ∈ cs.splitOn c) : c ∉ w := by
  intro hmem
  rw [List.splitOn_eq_splitOnP] at hw
  simpa using not_of_mem_splitOnP hw c hmem

theorem isWord_of_mem_words {cs w : List Char} (hw : w ∈ words cs) : IsWord w := by
  obtain ⟨hmem, hne⟩ := List.mem_filter.1 hw
  exact ⟨by simpa using hne, not_of_mem_splitOnP hmem⟩

example : words " int \t add ".toList = ["int".toList, "add".toList] := by decide

end Signatures
