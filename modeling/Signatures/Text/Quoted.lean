import Signatures.Text.Category
import Signatures.Text.Cut
import Signatures.Text.Hexadecimal

/-!
# Quoted text

A text quoted inside a message stands between two quotation marks and keeps to one line: a
character that has no shape of its own, or would change the shape of its neighbour, is written by a
short name or by its number.  `Quoted.encode` writes the quoted form and `Quoted.decode?` undoes it.

* `isHidden_of_has` — but for the space, no character of a table stands as it is in a quoted text.
* `decode?_encode` — undoing the quoting gives the text back, whatever follows the closing mark.
-/

namespace Signatures

/-- All tables whose characters a quoted text does not show as they are. -/
def hiddenRanges : CodeRanges :=
  controlRanges ++ separatorRanges ++ formatRanges ++ privateUseRanges ++ fillerRanges ++
    markRanges ++ unassignedRanges

/-- Whether a quoted text writes the character by its number.  The ASCII space is the one separator
that it shows. -/
def isHidden (c : Char) : Bool := c != ' ' && hiddenRanges.has c

/-- Whatever one of the tables covers is hidden, except the space. -/
theorem isHidden_of_has {ranges : CodeRanges} (hranges : ranges ⊆ hiddenRanges) {c : Char}
    (h : ranges.has c = true) (hspace : c ≠ ' ') : isHidden c = true := by
  obtain ⟨r, hr, hc⟩ := CodeRanges.has_iff.1 h
  have hhidden : hiddenRanges.has c = true := CodeRanges.has_iff.2 ⟨r, hranges hr, hc⟩
  simp [isHidden, hspace, hhidden]

namespace Quoted

/-- The number of a character between braces, in lower-case hexadecimal without padding. -/
def byNumber (c : Char) : List Char :=
  '\\' :: 'u' :: '{' :: Nat.toDigits 16 c.toNat ++ ['}']

/-- How one character is written between quotation marks. -/
def escape (c : Char) : List Char :=
  match c with
  | '\x00' => ['\\', '0']
  | '\t' => ['\\', 't']
  | '\r' => ['\\', 'r']
  | '\n' => ['\\', 'n']
  | '"' => ['\\', '"']
  | '\\' => ['\\', '\\']
  | c => if isHidden c then byNumber c else [c]

/-- A text between quotation marks. -/
def encode (cs : List Char) : List Char := '"' :: cs.flatMap escape ++ ['"']

/-- The character that a letter after a backslash stands for. -/
def named? : Char → Option Char
  | '0' => some '\x00'
  | 't' => some '\t'
  | 'r' => some '\r'
  | 'n' => some '\n'
  | '"' => some '"'
  | '\\' => some '\\'
  | _ => none

/-- Undoes the quoting up to the closing mark.  The second part is what follows that mark. -/
def decodeBody? (cs : List Char) : Option (List Char × List Char) :=
  match cs with
  | [] => none
  | '"' :: rest => some ([], rest)
  | '\\' :: 'u' :: '{' :: rest =>
    match _cut : cutAt? '}' rest with
    | none => none
    | some (digits, rest) =>
      ((ofHex? digits).bind charOfNat?).bind fun c =>
        (decodeBody? rest).map fun (text, after) => (c :: text, after)
  | '\\' :: letter :: rest =>
    (named? letter).bind fun c =>
      (decodeBody? rest).map fun (text, after) => (c :: text, after)
  | c :: rest => (decodeBody? rest).map fun (text, after) => (c :: text, after)
termination_by cs.length
decreasing_by
  · obtain ⟨rfl, -⟩ := cutAt?_eq_some_iff.1 _cut
    simp only [List.length_cons, List.length_append]
    omega
  all_goals
    simp only [List.length_cons]
    omega

/-- The text that a quoted form at the front stands for, and what follows that form. -/
def decode? : List Char → Option (List Char × List Char)
  | '"' :: rest => decodeBody? rest
  | _ => none

theorem not_mem_toDigits (n : Nat) : '}' ∉ Nat.toDigits 16 n := by
  have hdigit : ∀ d < 16, '}' ≠ Nat.digitChar d := by decide
  intro h
  obtain ⟨d, hd, hd'⟩ := exists_of_mem_toDigits h
  exact hdigit d hd hd'

theorem decodeBody?_byNumber (c : Char) (rest : List Char) :
    decodeBody? (byNumber c ++ rest) =
      (decodeBody? rest).map fun (text, after) => (c :: text, after) := by
  have hcut := cutAt?_append (not_mem_toDigits c.toNat) rest
  simp only [byNumber, List.cons_append, List.append_assoc, List.nil_append]
  rw [decodeBody?]
  split
  · next h => simp [hcut] at h
  · next h =>
    simp only [hcut, Option.some.injEq, Prod.mk.injEq] at h
    obtain ⟨rfl, rfl⟩ := h
    simp [ofHex?_toDigits, charOfNat?_toNat]

/-- Undoing one escaped character gives that character and goes on behind it. -/
theorem decodeBody?_escape (c : Char) (rest : List Char) :
    decodeBody? (escape c ++ rest) =
      (decodeBody? rest).map fun (text, after) => (c :: text, after) := by
  unfold escape
  split
  case h_7 h0 ht hr hn hq hb =>
    split
    · exact decodeBody?_byNumber c rest
    · rw [List.singleton_append, decodeBody?]
      · exact hq
      · exact fun _ h => absurd h hb
      · exact fun _ _ h => absurd h hb
  all_goals
    rw [List.cons_append, List.cons_append, List.nil_append, decodeBody?]
    · rfl
    · simp

/-- Undoing the quoting gives the text back, whatever follows the closing mark. -/
theorem decode?_encode (cs after : List Char) :
    decode? (encode cs ++ after) = some (cs, after) := by
  simp only [encode, List.cons_append, List.append_assoc, List.nil_append, decode?]
  induction cs with
  | nil => simp [decodeBody?]
  | cons c cs ih => simp [List.flatMap_cons, decodeBody?_escape, ih]

example : encode "a \"b\"\n".toList = "\"a \\\"b\\\"\\n\"".toList := by decide +kernel

example : escape '\u200b' = "\\u\x7b200b\x7d".toList ∧ escape '\'' = ['\''] := by decide +kernel

end Quoted

end Signatures
