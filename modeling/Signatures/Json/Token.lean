import Signatures.Text.Hexadecimal
import Signatures.Json.Basic

/-!
# The tokens of a JSON text

A JSON text is a row of tokens.  Blanks may stand between tokens and mean nothing there; which
characters are blank is narrower here than in the texts that strings hold.

* `stringBody?` — reads a string up to its closing mark and undoes the escapes.
* `tokens?` — the tokens of a text, if it consists of tokens and blanks.
* `length_lt_of_stringBody?` — a string takes up part of the text, so that reading comes to an end.
-/

namespace Signatures

/-- What a JSON text is made of. -/
inductive Json.Token where
  | openArray
  | closeArray
  | openObject
  | closeObject
  | colon
  | comma
  | null
  | bool (value : Bool)
  | number (value : Numeral)
  | string (value : String)
  deriving DecidableEq, Repr

namespace Json

/-- The blanks between tokens. -/
def isGap (c : Char) : Bool := c = ' ' || c = '\t' || c = '\n' || c = '\r'

/-- The characters that numbers are written with. -/
def isNumeric (c : Char) : Bool :=
  c.isDigit || c = '-' || c = '+' || c = '.' || c = 'e' || c = 'E'

/-! ## Strings -/

/-- The character that a letter after a backslash stands for. -/
def named? : Char → Option Char
  | '"' => some '"'
  | '\\' => some '\\'
  | '/' => some '/'
  | 'b' => some '\x08'
  | 'f' => some '\x0c'
  | 'n' => some '\n'
  | 'r' => some '\r'
  | 't' => some '\t'
  | _ => none

/-- Four hexadecimal digits at the front. -/
def unit? : List Char → Option (Nat × List Char)
  | a :: b :: c :: d :: rest => (ofHex? [a, b, c, d]).map (·, rest)
  | _ => none

/-- The character above U+FFFF that two units stand for. -/
def charOfPair? (high low : Nat) : Option Char :=
  if 0xD800 ≤ high ∧ high < 0xDC00 ∧ 0xDC00 ≤ low ∧ low < 0xE000 then
    charOfNat? (0x10000 + 0x400 * (high - 0xD800) + (low - 0xDC00))
  else none

/-- A character given by number: by one unit, or by a pair of which neither is a character. -/
def numbered? (cs : List Char) : Option (Char × List Char) :=
  match unit? cs with
  | none => none
  | some (high, rest) =>
    match charOfNat? high, rest with
    | some c, rest => some (c, rest)
    | none, '\\' :: 'u' :: rest =>
      match unit? rest with
      | none => none
      | some (low, rest) => (charOfPair? high low).map (·, rest)
    | none, _ => none

/-- The first character that the inside of a string stands for. -/
def nextChar? : List Char → Option (Char × List Char)
  | '\\' :: 'u' :: rest => numbered? rest
  | '\\' :: letter :: rest => (named? letter).map (·, rest)
  | c :: rest => if c = '"' ∨ c = '\\' ∨ c.toNat < 0x20 then none else some (c, rest)
  | [] => none

theorem length_lt_of_unit? {cs rest : List Char} {n : Nat} (h : unit? cs = some (n, rest)) :
    rest.length < cs.length := by
  unfold unit? at h
  split at h
  · simp only [Option.map_eq_some_iff, Prod.mk.injEq] at h
    obtain ⟨_, -, -, rfl⟩ := h
    simp only [List.length_cons]
    omega
  · simp at h

theorem length_lt_of_numbered? {cs rest : List Char} {c : Char}
    (h : numbered? cs = some (c, rest)) : rest.length < cs.length := by
  unfold numbered? at h
  split at h
  · simp at h
  · next high tail htail =>
    have hlt := length_lt_of_unit? htail
    split at h
    · simp only [Option.some.injEq, Prod.mk.injEq] at h
      rw [← h.2]
      exact hlt
    · split at h
      · simp at h
      · next low tail' htail' =>
        have hlt' := length_lt_of_unit? htail'
        simp only [Option.map_eq_some_iff, Prod.mk.injEq] at h
        obtain ⟨_, -, -, rfl⟩ := h
        simp only [List.length_cons] at hlt
        omega
    · simp at h

theorem length_lt_of_nextChar? {cs rest : List Char} {c : Char}
    (h : nextChar? cs = some (c, rest)) : rest.length < cs.length := by
  unfold nextChar? at h
  split at h
  · have hlt := length_lt_of_numbered? h
    simp only [List.length_cons]
    omega
  · simp only [Option.map_eq_some_iff, Prod.mk.injEq] at h
    obtain ⟨_, -, -, rfl⟩ := h
    simp only [List.length_cons]
    omega
  · split at h
    · simp at h
    · simp only [Option.some.injEq, Prod.mk.injEq] at h
      simp [← h.2]
  · simp at h

/-- What the inside of a string stands for up to the closing mark, and what follows that mark. -/
def stringBody? (cs : List Char) : Option (List Char × List Char) :=
  match cs with
  | '"' :: rest => some ([], rest)
  | cs =>
    match _next : nextChar? cs with
    | none => none
    | some (c, rest) => (stringBody? rest).map fun (text, after) => (c :: text, after)
termination_by cs.length
decreasing_by exact length_lt_of_nextChar? _next

theorem length_lt_of_stringBody? {cs text rest : List Char}
    (h : stringBody? cs = some (text, rest)) : rest.length < cs.length := by
  induction hn : cs.length using Nat.strongRecOn generalizing cs text with
  | ind n ih =>
    rw [stringBody?.eq_def] at h
    split at h
    · simp only [Option.some.injEq, Prod.mk.injEq] at h
      rw [← hn, ← h.2, List.length_cons]
      omega
    · split at h
      · simp at h
      · next tail htail =>
        have hlt := length_lt_of_nextChar? htail
        simp only [Option.map_eq_some_iff, Prod.mk.injEq] at h
        obtain ⟨⟨_, _⟩, hbody, -, rfl⟩ := h
        have := ih _ (hn ▸ hlt) hbody rfl
        omega

/-! ## Tokens -/

/-- The token that one character makes, if it makes one by itself. -/
def mark? : Char → Option Token
  | '[' => some .openArray
  | ']' => some .closeArray
  | '{' => some .openObject
  | '}' => some .closeObject
  | ':' => some .colon
  | ',' => some .comma
  | _ => none

/-- The number that some characters write. -/
def number? (cs : List Char) : Option Token :=
  if h : isNumeral cs = true then some (.number ⟨cs, h⟩) else none

theorem number?_nil : number? [] = none := rfl

/-- The first token of a text that does not begin with a blank, and what follows it. -/
def nextToken? (cs : List Char) : Option (Token × List Char) :=
  match cs with
  | '"' :: rest => (stringBody? rest).map fun (text, after) => (.string (String.ofList text), after)
  | 'n' :: 'u' :: 'l' :: 'l' :: rest => some (.null, rest)
  | 't' :: 'r' :: 'u' :: 'e' :: rest => some (.bool true, rest)
  | 'f' :: 'a' :: 'l' :: 's' :: 'e' :: rest => some (.bool false, rest)
  | c :: rest =>
    match mark? c with
    | some token => some (token, rest)
    | none => (number? (cs.takeWhile isNumeric)).map (·, cs.dropWhile isNumeric)
  | [] => none

theorem length_lt_of_nextToken? {cs rest : List Char} {token : Token}
    (h : nextToken? cs = some (token, rest)) : rest.length < cs.length := by
  unfold nextToken? at h
  split at h
  · simp only [Option.map_eq_some_iff, Prod.mk.injEq] at h
    obtain ⟨⟨_, _⟩, hbody, -, rfl⟩ := h
    have hlt := length_lt_of_stringBody? hbody
    simp only [List.length_cons]
    omega
  · simp only [Option.some.injEq, Prod.mk.injEq] at h
    simp only [← h.2, List.length_cons]
    omega
  · simp only [Option.some.injEq, Prod.mk.injEq] at h
    simp only [← h.2, List.length_cons]
    omega
  · simp only [Option.some.injEq, Prod.mk.injEq] at h
    simp only [← h.2, List.length_cons]
    omega
  · next c tail _ _ _ _ =>
    split at h
    · simp only [Option.some.injEq, Prod.mk.injEq] at h
      simp [← h.2]
    · simp only [Option.map_eq_some_iff, Prod.mk.injEq] at h
      obtain ⟨_, hnumber, -, rfl⟩ := h
      have hrun : 0 < ((c :: tail).takeWhile isNumeric).length := by
        rw [List.length_pos_iff]
        intro hnil
        rw [hnil] at hnumber
        simp [number?_nil] at hnumber
      have hsum := congrArg List.length
        (@List.takeWhile_append_dropWhile _ isNumeric (c :: tail))
      rw [List.length_append] at hsum
      omega
  · simp at h

/-- The tokens of a text, if it consists of tokens and blanks. -/
def tokens? (cs : List Char) : Option (List Token) :=
  match cs with
  | [] => some []
  | c :: rest =>
    if isGap c then tokens? rest
    else
      match _next : nextToken? (c :: rest) with
      | none => none
      | some (token, after) => (tokens? after).map (token :: ·)
termination_by cs.length
decreasing_by
  · simp
  · exact length_lt_of_nextToken? _next

end Json

end Signatures
