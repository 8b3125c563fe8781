import Mathlib.Tactic.Lemma
import Signatures.Line.View

/-!
# Texts as bytes

A stream of bytes often is a text in UTF-8, and then its lines can be found on either side of the
encoding.  The reason is that a mark of ASCII is one byte and no other character has that byte
anywhere in it, so a line feed among the bytes is a line feed of the text.

* `utf8` — the bytes of a text.
* `lineText?_eq_some_iff`, `lineText?_eq_none_iff` — a line has a text when it is that text in
  UTF-8, and none when it is not valid.
* `mem_utf8_iff`, `getLast?_utf8_iff` — marks of ASCII keep their places.
* **`streamLines_utf8`** — the lines of an encoded text are the encoded lines of the text.
-/

namespace Signatures

/-- The bytes of a text in UTF-8. -/
def utf8 (cs : List Char) : List UInt8 := cs.flatMap String.utf8EncodeChar

@[simp] lemma utf8_nil : utf8 [] = [] := rfl

@[simp] lemma utf8_cons (c : Char) (cs : List Char) :
    utf8 (c :: cs) = String.utf8EncodeChar c ++ utf8 cs := rfl

@[simp] lemma utf8_append (a b : List Char) : utf8 (a ++ b) = utf8 a ++ utf8 b :=
  List.flatMap_append

lemma utf8_eq_nil_iff {cs : List Char} : utf8 cs = [] ↔ cs = [] := by
  cases cs with
  | nil => simp
  | cons c cs => simp [String.utf8EncodeChar_ne_nil]

/-! ## Decoding -/

/-- These are the bytes that a string is made of. -/
lemma toByteArray_utf8 (cs : List Char) : (utf8 cs).toByteArray = (String.ofList cs).toByteArray :=
  rfl

lemma toByteArray_inj {a b : List UInt8} (h : a.toByteArray = b.toByteArray) : a = b := by
  have hdata := congrArg (·.data.toList) h
  simpa using hdata

lemma lineText?_eq_some_iff {line : List UInt8} {text : String} :
    lineText? line = some text ↔ line = utf8 text.toList := by
  rw [lineText?, String.fromUTF8?]
  constructor
  · intro h
    split at h
    · cases h
      refine toByteArray_inj ?_
      rw [toByteArray_utf8, String.ofList_toList]
      rfl
    · cases h
  · rintro rfl
    have hvalid : (utf8 text.toList).toByteArray.IsValidUTF8 := ⟨text.toList, rfl⟩
    rw [dif_pos hvalid]
    simp only [toByteArray_utf8, String.ofList_toList]
    rfl

lemma lineText?_eq_none_iff {line : List UInt8} :
    lineText? line = none ↔ ¬ line.toByteArray.IsValidUTF8 := by
  rw [lineText?, String.fromUTF8?]
  split <;> simp_all

@[simp] lemma lineText?_utf8 (cs : List Char) : lineText? (utf8 cs) = some (String.ofList cs) := by
  rw [lineText?_eq_some_iff, String.toList_ofList]

/-! ## Marks of ASCII -/

lemma utf8EncodeChar_of_lt {c : Char} (h : c.toNat < 128) :
    String.utf8EncodeChar c = [UInt8.ofNat c.toNat] := by
  have hval : c.val.toNat ≤ 127 := Nat.le_of_lt_succ h
  simp only [String.utf8EncodeChar, if_pos hval, Char.toNat]

/-- Every byte of a character beyond ASCII is beyond ASCII. -/
lemma le_of_mem_utf8EncodeChar {c : Char} (h : 128 ≤ c.toNat) {b : UInt8}
    (hb : b ∈ String.utf8EncodeChar c) : 128 ≤ b.toNat := by
  have hval : ¬ c.val.toNat ≤ 127 := Nat.not_le_of_lt h
  simp only [String.utf8EncodeChar, if_neg hval] at hb
  split at hb
  · simp only [List.mem_cons, List.not_mem_nil, or_false] at hb
    rcases hb with rfl | rfl <;> simp <;> omega
  · split at hb
    · simp only [List.mem_cons, List.not_mem_nil, or_false] at hb
      rcases hb with rfl | rfl | rfl <;> simp <;> omega
    · simp only [List.mem_cons, List.not_mem_nil, or_false] at hb
      rcases hb with rfl | rfl | rfl | rfl <;> simp <;> omega

section Mark

variable (mark : Char) (hmark : mark.toNat < 128)

include hmark

/-- A mark of ASCII is one byte, and no other character has that byte in it. -/
lemma mem_utf8EncodeChar_iff {c : Char} :
    UInt8.ofNat mark.toNat ∈ String.utf8EncodeChar c ↔ c = mark := by
  have hbyte : (UInt8.ofNat mark.toNat).toNat = mark.toNat := by
    rw [UInt8.toNat_ofNat', Nat.mod_eq_of_lt]
    omega
  constructor
  · intro h
    rcases Nat.lt_or_ge c.toNat 128 with hc | hc
    · rw [utf8EncodeChar_of_lt hc, List.mem_singleton] at h
      have hnat := congrArg UInt8.toNat h
      rw [hbyte, UInt8.toNat_ofNat', Nat.mod_eq_of_lt (by omega)] at hnat
      exact Char.toNat_inj.1 hnat.symm
    · have hle := le_of_mem_utf8EncodeChar hc h
      omega
  · rintro rfl
    rw [utf8EncodeChar_of_lt hmark]
    exact List.mem_singleton_self _

lemma mem_utf8_iff {cs : List Char} : UInt8.ofNat mark.toNat ∈ utf8 cs ↔ mark ∈ cs := by
  simp only [utf8, List.mem_flatMap, mem_utf8EncodeChar_iff mark hmark]
  constructor
  · rintro ⟨c, hc, rfl⟩
    exact hc
  · intro h
    exact ⟨mark, h, rfl⟩

/-- A text that ends in a mark is one whose bytes do. -/
lemma getLast?_utf8_iff {cs : List Char} :
    (utf8 cs).getLast? = some (UInt8.ofNat mark.toNat) ↔ cs.getLast? = some mark := by
  rcases List.eq_nil_or_concat cs with rfl | ⟨front, c, rfl⟩
  · simp
  · rw [List.concat_eq_append, utf8_append, utf8_cons, utf8_nil, List.append_nil,
      List.getLast?_concat, Option.some.injEq]
    constructor
    · intro h
      rw [List.getLast?_append, List.getLast?_eq_some_getLast String.utf8EncodeChar_ne_nil,
        Option.some_or] at h
      exact (mem_utf8EncodeChar_iff mark hmark).1 (Option.some.inj h ▸ List.getLast_mem _)
    · rintro rfl
      rw [utf8EncodeChar_of_lt hmark, List.getLast?_concat]

end Mark

/-! ## Lines -/

/-- Lines are taken from the front, up to a last one that no feed ends. -/
lemma line_induction {α : Type} [DecidableEq α] (feed : α) {motive : List α → Prop}
    (last : ∀ line, feed ∉ line → motive line)
    (cut : ∀ line rest, feed ∉ line → motive rest → motive (line ++ feed :: rest)) (l : List α) :
    motive l := by
  induction hn : l.length using Nat.strongRecOn generalizing l with
  | ind n ih =>
      rcases Decidable.em (feed ∈ l) with hm | hm
      · obtain ⟨line, rest, rfl, hline⟩ := List.eq_append_cons_of_mem hm
        refine cut line rest hline (ih rest.length ?_ rest rfl)
        rw [← hn, List.length_append, List.length_cons]
        omega
      · exact last l hm

lemma lineFeed_mem_utf8_iff {cs : List Char} : lineFeed ∈ utf8 cs ↔ '\n' ∈ cs :=
  mem_utf8_iff '\n' (by decide)

lemma dropReturn_utf8 (cs : List Char) :
    dropReturn carriageReturn (utf8 cs) = utf8 (dropReturn '\r' cs) := by
  have hiff : (utf8 cs).getLast? = some carriageReturn ↔ cs.getLast? = some '\r' :=
    getLast?_utf8_iff '\r' (by decide)
  rw [dropReturn, dropReturn]
  by_cases h : cs.getLast? = some '\r'
  · rw [if_pos (hiff.2 h), if_pos h]
    obtain ⟨front, rfl⟩ := List.getLast?_eq_some_iff.1 h
    rw [utf8_append, List.dropLast_concat]
    exact List.dropLast_concat
  · rw [if_neg (mt hiff.1 h), if_neg h]

/-- **The lines of an encoded text** are its encoded lines. -/
theorem streamLines_utf8 (cs : List Char) :
    streamLines (utf8 cs) = (linesOf '\n' '\r' cs).map utf8 := by
  induction cs using line_induction '\n' with
  | last line h =>
      rcases Decidable.em (line = []) with rfl | hne
      · simp
      · rw [linesOf_last h hne, streamLines,
          linesOf_last (mt lineFeed_mem_utf8_iff.1 h) (mt utf8_eq_nil_iff.1 hne)]
        rfl
  | cut line rest h ih =>
      have hbytes : utf8 (line ++ '\n' :: rest) = utf8 line ++ lineFeed :: utf8 rest := by
        rw [utf8_append, utf8_cons]
        rfl
      rw [streamLines] at ih
      rw [hbytes, streamLines, linesOf_append (mt lineFeed_mem_utf8_iff.1 h), linesOf_append h,
        List.map_cons, dropReturn_utf8, ih]

end Signatures
