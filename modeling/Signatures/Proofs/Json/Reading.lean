import Mathlib.Tactic.Lemma
import Signatures.Json.Reader
import Signatures.Json.Spelling
import Signatures.Proofs.Words

/-!
# Reading what is spelled

The reader and the spellings of `Signatures.Json.Spelling` agree: whatever is spelled is read as the
value that it is a spelling of.  The way there follows the layers of a text.

**Strings.**  `stringBody?_of_spelling` reads each piece of a string as the character it stands for,
a pair of surrogates too, and stops at the mark.

**Tokens.**  A token is read as far as its spelling goes (`nextToken?_of_spelling`).  This is the
only place where what follows matters: a number must not go on.  Blanks are passed over, so that a
spelled row is read as that row (`tokens?_of_spelling`).

**Values.**  The row of a value is read as that value, whatever tokens follow
(`value?_tokens`), and the depth that `ofTokens?` allows is enough.

* `parse?_of_spelling` — **every spelling of a value is read as that value**.
* `Spelling.unique` — **a text spells one value at most**.
-/

namespace Signatures.Json

open Token

/-! ## Strings -/

lemma unit?_append {digits : List Char} (h : digits.length = 4) (cs : List Char) :
    unit? (digits ++ cs) = (ofHex? digits).map (·, cs) := by
  match digits, h with
  | [a, b, c, d], _ => rfl

lemma toNat_lt (c : Char) : c.toNat < 0x110000 := by
  rcases c.valid with h | ⟨-, h⟩
  · exact Nat.lt_trans h (by decide)
  · exact h

/-- A surrogate is the number of no character. -/
lemma charOfNat?_surrogate {n : Nat} (hlow : 0xD800 ≤ n) (hhigh : n < 0xE000) :
    charOfNat? n = none := by
  have hvalid : ¬ n.isValidChar := by
    simp only [Nat.isValidChar]
    omega
  have hzero : Char.ofNat n = '\x00' := dif_neg hvalid
  rw [charOfNat?, hzero, if_neg]
  have : '\x00'.toNat = 0 := rfl
  omega

lemma numbered?_unit {digits : List Char} {c : Char} (hlength : digits.length = 4)
    (hdigits : ofHex? digits = some c.toNat) (cs : List Char) :
    numbered? (digits ++ cs) = some (c, cs) := by
  simp [numbered?, unit?_append hlength, hdigits, charOfNat?_toNat]

lemma numbered?_pair {high low : List Char} {c : Char} {n : Nat} (hc : c.toNat = 0x10000 + n)
    (hhigh : high.length = 4 ∧ ofHex? high = some (0xD800 + n / 0x400))
    (hlow : low.length = 4 ∧ ofHex? low = some (0xDC00 + n % 0x400)) (cs : List Char) :
    numbered? (high ++ '\\' :: 'u' :: low ++ cs) = some (c, cs) := by
  have hn : n < 0x100000 := by
    have := toNat_lt c
    omega
  have hsurrogate : charOfNat? (0xD800 + n / 0x400) = none :=
    charOfNat?_surrogate (by omega) (by omega)
  have hpair : charOfPair? (0xD800 + n / 0x400) (0xDC00 + n % 0x400) = some c := by
    rw [charOfPair?, if_pos (by omega)]
    have hsum : 0x10000 + 0x400 * (0xD800 + n / 0x400 - 0xD800) + (0xDC00 + n % 0x400 - 0xDC00) =
        c.toNat := by omega
    rw [hsum, charOfNat?_toNat]
  simp [numbered?, unit?_append hhigh.1, hhigh.2, hsurrogate, unit?_append hlow.1, hlow.2, hpair]

/-- One more character, for none begins with the closing mark. -/
lemma stringBody?_of_nextChar? {w cs : List Char} {c : Char} (h : nextChar? w = some (c, cs)) :
    stringBody? w = (stringBody? cs).map fun (text, after) => (c :: text, after) := by
  have hquote : ∀ rest, w ≠ '"' :: rest := by
    rintro rest rfl
    simp [nextChar?] at h
  rw [stringBody?]
  · split <;> simp_all
  · exact hquote

/-- **The inside of a string is read up to its mark**, whatever follows. -/
lemma stringBody?_of_spelling {w s : List Char} (h : StringSpelling w s) (cs : List Char) :
    stringBody? (w ++ '"' :: cs) = some (s, cs) := by
  induction h with
  | nil => rw [List.nil_append, stringBody?]
  | @plain c w s hcontrol hquote hbackslash _ ih =>
      have hnext : nextChar? (c :: w ++ '"' :: cs) = some (c, w ++ '"' :: cs) := by
        have hno : ¬ (c = '"' ∨ c = '\\' ∨ c.toNat < 0x20) := by
          simp only [hquote, hbackslash, false_or]
          omega
        rw [List.cons_append, nextChar?, if_neg hno]
        · exact fun _ h => absurd h hbackslash
        · exact fun _ _ h => absurd h hbackslash
      rw [stringBody?_of_nextChar? hnext, ih]
      rfl
  | @named letter c w s hletter _ ih =>
      have hnext : nextChar? ('\\' :: letter :: w ++ '"' :: cs) = some (c, w ++ '"' :: cs) := by
        have hu : letter ≠ 'u' := by
          rintro rfl
          cases hletter
        rw [List.cons_append, List.cons_append, nextChar?, hletter]
        · rfl
        · exact hu
      rw [stringBody?_of_nextChar? hnext, ih]
      rfl
  | @unit digits c w s hlength hdigits _ ih =>
      have hnext : nextChar? ('\\' :: 'u' :: digits ++ w ++ '"' :: cs) =
          some (c, w ++ '"' :: cs) := by
        simp only [List.append_assoc, List.cons_append, nextChar?]
        exact numbered?_unit hlength hdigits _
      rw [stringBody?_of_nextChar? hnext, ih]
      rfl
  | @pair high low c n w s hc hhigh hlow _ ih =>
      have hnext : nextChar? ('\\' :: 'u' :: high ++ '\\' :: 'u' :: low ++ w ++ '"' :: cs) =
          some (c, w ++ '"' :: cs) := by
        have := numbered?_pair hc hhigh hlow (w ++ '"' :: cs)
        simp only [List.append_assoc, List.cons_append, nextChar?] at this ⊢
        exact this
      rw [stringBody?_of_nextChar? hnext, ih]
      rfl

/-! ## Numbers -/

lemma isNumeric_of_next? {place next : Numeral.Place} {c : Char}
    (h : place.next? c = some next) : isNumeric c = true := by
  rw [isNumeric]
  unfold Numeral.Place.next? at h
  split at h <;> simp_all

/-- What is no numeral stays none, however it goes on. -/
lemma foldl_next?_none (cs : List Char) :
    cs.foldl (fun place? c => place?.bind (Numeral.Place.next? · c)) none = none := by
  induction cs with
  | nil => rfl
  | cons c cs ih => exact ih

lemma isNumeric_of_foldl {cs : List Char} {place : Numeral.Place}
    (h : (cs.foldl (fun place? c => place?.bind (·.next? c)) (some place)).isSome = true) :
    ∀ c ∈ cs, isNumeric c = true := by
  induction cs generalizing place with
  | nil => exact fun _ h => absurd h List.not_mem_nil
  | cons c cs ih =>
      rw [List.foldl_cons, Option.bind_some] at h
      cases hnext : place.next? c with
      | none =>
          rw [hnext, foldl_next?_none] at h
          cases h
      | some next =>
          rw [hnext] at h
          exact List.forall_mem_cons.mpr ⟨isNumeric_of_next? hnext, ih h⟩

/-- A numeral is written with the characters of numbers. -/
lemma isNumeric_of_mem_chars (value : Numeral) : ∀ c ∈ value.chars, isNumeric c = true := by
  have h := value.isNumeral_chars
  rw [isNumeral, Option.any_eq_true] at h
  obtain ⟨place, hplace, -⟩ := h
  exact isNumeric_of_foldl (Option.isSome_of_eq_some hplace)

lemma chars_ne_nil (value : Numeral) : value.chars ≠ [] := by
  intro hnil
  have h := value.isNumeral_chars
  rw [hnil] at h
  exact Bool.noConfusion h

/-! ## Tokens -/

lemma not_isNumeric_of_mark? {c : Char} {token : Token} (h : mark? c = some token) :
    isNumeric c = false := by
  unfold mark? at h
  split at h <;> first | rfl | cases h

lemma not_isNumeric_of_isGap {c : Char} (h : isGap c = true) : isNumeric c = false := by
  simp only [isGap, Bool.or_eq_true, decide_eq_true_eq] at h
  rcases h with ((rfl | rfl) | rfl) | rfl <;> rfl

/-- **A number is read as far as it can go on.** -/
lemma nextToken?_number (value : Numeral) {cs : List Char} (hcs : EndsNumeral cs) :
    nextToken? (value.chars ++ cs) = some (.number value, cs) := by
  have hmem := isNumeric_of_mem_chars value
  have hnot : ∀ c ∈ ((value.chars ++ cs).dropWhile isNumeric).head?, isNumeric c = false := by
    intro c hc
    have := List.head?_dropWhile_not isNumeric (value.chars ++ cs)
    rw [hc] at this
    exact this
  obtain ⟨htake, hdrop⟩ : (value.chars ++ cs).takeWhile isNumeric = value.chars ∧
      (value.chars ++ cs).dropWhile isNumeric = cs :=
    span_inj (fun _ h => List.mem_takeWhile_imp h) hmem hnot hcs List.takeWhile_append_dropWhile
  have hnumber : number? value.chars = some (.number value) := dif_pos value.isNumeral_chars
  obtain ⟨c, w, hchars⟩ := List.exists_cons_of_ne_nil (chars_ne_nil value)
  rw [hchars] at htake hdrop hnumber hmem ⊢
  have hc := hmem c List.mem_cons_self
  have hmark : mark? c = none := by
    cases h : mark? c with
    | none => rfl
    | some token => rw [not_isNumeric_of_mark? h] at hc; cases hc
  have hne : ∀ d, isNumeric d = false → c = d → False := by
    rintro d hd rfl
    rw [hd] at hc
    cases hc
  rw [List.cons_append, nextToken?, hmark]
  · simp only
    rw [← List.cons_append, htake, hdrop, hnumber]
    rfl
  · exact hne '"' rfl
  · exact fun _ h _ => hne 'n' rfl h
  · exact fun _ h _ => hne 't' rfl h
  · exact fun _ h _ => hne 'f' rfl h

/-- **A spelled token is the first that is read.** -/
lemma nextToken?_of_spelling {token : Token} {w cs : List Char} (h : token.Spelling w)
    (hend : (∃ value, token = .number value) → EndsNumeral cs) :
    nextToken? (w ++ cs) = some (token, cs) := by
  cases h with
  | number value => exact nextToken?_number value (hend ⟨value, rfl⟩)
  | @string w s hw =>
      have htext : '"' :: w ++ ['"'] ++ cs = '"' :: (w ++ '"' :: cs) := by simp
      rw [htext, nextToken?, stringBody?_of_spelling hw]
      rfl
  | _ => rfl

/-- A token does not begin with a blank. -/
lemma exists_cons_of_spelling {token : Token} {w : List Char} (h : token.Spelling w) :
    ∃ c rest, w = c :: rest ∧ isGap c = false := by
  cases h with
  | number value =>
      obtain ⟨c, rest, hchars⟩ := List.exists_cons_of_ne_nil (chars_ne_nil value)
      have hc := isNumeric_of_mem_chars value c (hchars ▸ List.mem_cons_self)
      refine ⟨c, rest, hchars, ?_⟩
      cases hgap : isGap c with
      | false => rfl
      | true => rw [not_isNumeric_of_isGap hgap] at hc; cases hc
  | _ => exact ⟨_, _, rfl, rfl⟩

lemma tokens?_gaps {gaps : List Char} (h : IsGaps gaps) (cs : List Char) :
    tokens? (gaps ++ cs) = tokens? cs := by
  induction gaps with
  | nil => rfl
  | cons c gaps ih =>
      obtain ⟨hc, hgaps⟩ := List.forall_mem_cons.mp h
      rw [List.cons_append, tokens?, if_pos hc]
      exact ih hgaps

lemma tokens?_of_nextToken? {c : Char} {rest after : List Char} {token : Token}
    (hc : isGap c = false) (h : nextToken? (c :: rest) = some (token, after)) :
    tokens? (c :: rest) = (tokens? after).map (token :: ·) := by
  have hgap : ¬ isGap c = true := by simp [hc]
  rw [tokens?, if_neg hgap]
  split <;> simp_all

/-- **A spelled row is the row that is read.** -/
lemma tokens?_of_spelling {row : List Token} {cs : List Char} (h : RowSpelling row cs) :
    tokens? cs = some row := by
  induction h with
  | @done gaps hgaps =>
      have := tokens?_gaps hgaps []
      rw [List.append_nil] at this
      rw [this, tokens?]
  | @token gaps w cs token row hgaps htoken hend _ ih =>
      have hnext := nextToken?_of_spelling htoken hend
      obtain ⟨c, rest, rfl, hc⟩ := exists_cons_of_spelling htoken
      rw [List.cons_append] at hnext
      rw [tokens?_gaps hgaps, List.cons_append, tokens?_of_nextToken? hc hnext, ih]
      rfl

/-! ## Values -/

lemma exists_tokens_eq_cons (value : Json) :
    ∃ token row, value.tokens = token :: row ∧ token ≠ closeArray := by
  cases value <;> exact ⟨_, _, rfl, Token.noConfusion⟩

lemma intercalate_elementRows (v w : Json) (vs : List Json) :
    [comma].intercalate (elementRows (v :: w :: vs)) =
      v.tokens ++ comma :: [comma].intercalate (elementRows (w :: vs)) := by
  simp [elementRows]

lemma intercalate_memberRows (key : String) (v : Json) (m : String × Json)
    (ms : List (String × Json)) :
    [comma].intercalate (memberRows ((key, v) :: m :: ms)) =
      .string key :: colon ::
        (v.tokens ++ comma :: [comma].intercalate (memberRows (m :: ms))) := by
  simp [memberRows]

/-- An array with elements is read by its elements, for no value begins with a closing bracket. -/
lemma value?_array (v : Json) (vs : List Json) (n : Nat) (rest : List Token) :
    value? (n + 1) ((array (v :: vs)).tokens ++ rest) =
      (elements? n ([comma].intercalate (elementRows (v :: vs)) ++ closeArray :: rest)).map
        fun (elements, rest) => (.array elements, rest) := by
  obtain ⟨token, row, hv, hne⟩ := exists_tokens_eq_cons v
  have hrow : ∃ row, [comma].intercalate (elementRows (v :: vs)) = token :: row := by
    cases vs with
    | nil => exact ⟨row, by simp [elementRows, hv]⟩
    | cons w vs => exact ⟨_, by rw [intercalate_elementRows, hv, List.cons_append]⟩
  obtain ⟨row, hrow⟩ := hrow
  simp only [tokens, hrow, List.cons_append, List.append_assoc, List.nil_append]
  rw [value?]
  exact fun _ hrow => hne (List.cons.inj hrow).1

/-- An object with members is read by its members, for a key is no closing brace. -/
lemma value?_object (m : String × Json) (ms : List (String × Json)) (n : Nat)
    (rest : List Token) :
    value? (n + 1) ((object (m :: ms)).tokens ++ rest) =
      (members? n ([comma].intercalate (memberRows (m :: ms)) ++ closeObject :: rest)).map
        fun (members, rest) => (.object members, rest) := by
  have hrow : ∃ row, [comma].intercalate (memberRows (m :: ms)) = .string m.1 :: row := by
    cases ms with
    | nil => exact ⟨_, by rw [memberRows, memberRows, List.intercalate_singleton]⟩
    | cons n ns => exact ⟨_, intercalate_memberRows m.1 m.2 n ns⟩
  obtain ⟨row, hrow⟩ := hrow
  simp only [tokens, hrow, List.cons_append, List.append_assoc, List.nil_append]
  rw [value?]
  exact fun _ hrow => Token.noConfusion (List.cons.inj hrow).1

-- By recursion on the value.  A level takes one step down and a further item one step on, each of
-- which has a token of its own, so two steps for every token of the row are enough.
mutual

/-- **The row of a value is read as that value**, whatever follows. -/
lemma value?_tokens : ∀ (value : Json) {n : Nat}, 2 * value.tokens.length ≤ n + 1 →
    ∀ rest, value? n (value.tokens ++ rest) = some (value, rest)
  | .null, n + 1, _, _ => rfl
  | .bool _, n + 1, _, _ => rfl
  | .number _, n + 1, _, _ => rfl
  | .string _, n + 1, _, _ => rfl
  | .array [], n + 1, _, _ => rfl
  | .object [], n + 1, _, _ => rfl
  | .array (v :: vs), n + 1, h, rest => by
      simp only [tokens, List.length_append, List.length_cons, List.length_nil] at h
      obtain ⟨n, rfl⟩ := Nat.exists_eq_succ_of_ne_zero (show n ≠ 0 by omega)
      rw [value?_array, elements?_rows (v :: vs) (List.cons_ne_nil v vs) (by omega)]
      rfl
  | .object (m :: ms), n + 1, h, rest => by
      simp only [tokens, List.length_append, List.length_cons, List.length_nil] at h
      obtain ⟨n, rfl⟩ := Nat.exists_eq_succ_of_ne_zero (show n ≠ 0 by omega)
      rw [value?_object, members?_rows (m :: ms) (List.cons_ne_nil m ms) (by omega)]
      rfl
termination_by structural value => value

lemma elements?_rows : ∀ (values : List Json) {n : Nat}, values ≠ [] →
    2 * ([comma].intercalate (elementRows values)).length ≤ n + 1 →
    ∀ rest, elements? (n + 1) ([comma].intercalate (elementRows values) ++ closeArray :: rest) =
      some (values, rest)
  | [v], n, _, h, rest => by
      simp only [elementRows, List.intercalate_singleton] at h ⊢
      rw [elements?, value?_tokens v h]
  | v :: w :: vs, n, _, h, rest => by
      simp only [intercalate_elementRows, List.length_append, List.length_cons] at h
      obtain ⟨n, rfl⟩ := Nat.exists_eq_succ_of_ne_zero (show n ≠ 0 by omega)
      have hrest :=
        elements?_rows (w :: vs) (List.cons_ne_nil w vs) (show _ ≤ n + 1 by omega) rest
      rw [intercalate_elementRows, List.append_assoc, elements?, value?_tokens v (by omega)]
      simp only [List.cons_append, hrest, Option.map_some]
termination_by structural values => values

lemma members?_rows : ∀ (members : List (String × Json)) {n : Nat}, members ≠ [] →
    2 * ([comma].intercalate (memberRows members)).length ≤ n + 1 →
    ∀ rest, members? (n + 1) ([comma].intercalate (memberRows members) ++ closeObject :: rest) =
      some (members, rest)
  | [(key, v)], n, _, h, rest => by
      simp only [memberRows, List.intercalate_singleton, List.length_cons] at h ⊢
      rw [List.cons_append, List.cons_append, members?, value?_tokens v (by omega)]
  | (key, v) :: m :: ms, n, _, h, rest => by
      simp only [intercalate_memberRows, List.length_append, List.length_cons] at h
      obtain ⟨n, rfl⟩ := Nat.exists_eq_succ_of_ne_zero (show n ≠ 0 by omega)
      have hrest :=
        members?_rows (m :: ms) (List.cons_ne_nil m ms) (show _ ≤ n + 1 by omega) rest
      rw [intercalate_memberRows, List.cons_append, List.cons_append, List.append_assoc, members?,
        value?_tokens v (by omega)]
      simp only [List.cons_append, hrest, Option.map_some]
termination_by structural members => members

end

lemma ofTokens?_tokens (value : Json) : ofTokens? value.tokens = some value := by
  have hvalue := value?_tokens value (show _ ≤ 2 * value.tokens.length + 1 by omega) []
  rw [List.append_nil] at hvalue
  rw [ofTokens?, hvalue]

/-- **Every spelling of a value is read as that value.** -/
theorem parse?_of_spelling {value : Json} {cs : List Char} (h : Spelling value cs) :
    parse? cs = some value := by
  rw [parse?, tokens?_of_spelling h, Option.bind_some, ofTokens?_tokens]

/-- **A text spells one value at most.** -/
theorem Spelling.unique {v v' : Json} {cs : List Char} (h : Spelling v cs) (h' : Spelling v' cs) :
    v = v' :=
  Option.some.inj (parse?_of_spelling h ▸ parse?_of_spelling h')

end Signatures.Json
