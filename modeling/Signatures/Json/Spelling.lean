import Signatures.Json.Token

/-!
# The spellings of a JSON value

What RFC 8259 says a text stands for, without any reading from left to right.  A value is a row of
tokens; a token has one spelling or, if it is a string, many; and between tokens there may be
blanks.

* `Json.tokens` — the row of a value.
* `StringSpelling` — how the inside of a string is spelled: a character stands for itself unless it
  is a quotation mark, a backslash or a control, and every character has escapes.
* `Token.Spelling` — how a token is spelled.
* `RowSpelling`, `Json.Spelling` — how a row of tokens and a value are.
-/

namespace Signatures.Json

open Token

mutual

/-- The row of tokens that a value is. -/
def tokens : Json → List Token
  | null => [.null]
  | bool value => [.bool value]
  | number value => [.number value]
  | string value => [.string value]
  | array elements => openArray :: [comma].intercalate (elementRows elements) ++ [closeArray]
  | object members => openObject :: [comma].intercalate (memberRows members) ++ [closeObject]
termination_by structural value => value

/-- The rows of the elements of an array. -/
def elementRows : List Json → List (List Token)
  | [] => []
  | value :: rest => value.tokens :: elementRows rest
termination_by structural values => values

/-- The rows of the members of an object. -/
def memberRows : List (String × Json) → List (List Token)
  | [] => []
  | (key, value) :: rest => (.string key :: colon :: value.tokens) :: memberRows rest
termination_by structural members => members

end

/-- Blanks between tokens, or none. -/
def IsGaps (cs : List Char) : Prop := ∀ c ∈ cs, isGap c = true

/-- The first text is, between quotation marks, a spelling of the second. -/
inductive StringSpelling : List Char → List Char → Prop
  | nil : StringSpelling [] []
  | plain {c : Char} {w s : List Char} (hcontrol : 0x20 ≤ c.toNat) (hquote : c ≠ '"')
      (hbackslash : c ≠ '\\') (h : StringSpelling w s) : StringSpelling (c :: w) (c :: s)
  /-- A letter after a backslash. -/
  | named {letter c : Char} {w s : List Char} (hletter : named? letter = some c)
      (h : StringSpelling w s) : StringSpelling ('\\' :: letter :: w) (c :: s)
  /-- The number of a character in four hexadecimal digits. -/
  | unit {digits : List Char} {c : Char} {w s : List Char} (hlength : digits.length = 4)
      (hdigits : ofHex? digits = some c.toNat) (h : StringSpelling w s) :
      StringSpelling ('\\' :: 'u' :: digits ++ w) (c :: s)
  /-- The two surrogates of a character above U+FFFF. -/
  | pair {high low : List Char} {c : Char} {n : Nat} {w s : List Char} (hc : c.toNat = 0x10000 + n)
      (hhigh : high.length = 4 ∧ ofHex? high = some (0xD800 + n / 0x400))
      (hlow : low.length = 4 ∧ ofHex? low = some (0xDC00 + n % 0x400)) (h : StringSpelling w s) :
      StringSpelling ('\\' :: 'u' :: high ++ '\\' :: 'u' :: low ++ w) (c :: s)

/-- How a token is spelled. -/
inductive Token.Spelling : Token → List Char → Prop
  | openArray : Spelling .openArray ['[']
  | closeArray : Spelling .closeArray [']']
  | openObject : Spelling .openObject ['{']
  | closeObject : Spelling .closeObject ['}']
  | colon : Spelling .colon [':']
  | comma : Spelling .comma [',']
  | null : Spelling .null "null".toList
  | true : Spelling (.bool true) "true".toList
  | false : Spelling (.bool false) "false".toList
  | number (value : Numeral) : Spelling (.number value) value.chars
  | string {w s : List Char} (h : StringSpelling w s) :
      Spelling (.string (String.ofList s)) ('"' :: w ++ ['"'])

/-- No number goes on in this text. -/
def EndsNumeral (cs : List Char) : Prop := ∀ c ∈ cs.head?, isNumeric c = false

/-- How a row of tokens is spelled: with blanks before each token and after the last.  A number ends
where it cannot go on. -/
inductive RowSpelling : List Token → List Char → Prop
  | done {gaps : List Char} (hgaps : IsGaps gaps) : RowSpelling [] gaps
  | token {gaps w cs : List Char} {token : Token} {row : List Token} (hgaps : IsGaps gaps)
      (htoken : token.Spelling w) (hend : (∃ value, token = .number value) → EndsNumeral cs)
      (h : RowSpelling row cs) : RowSpelling (token :: row) (gaps ++ (w ++ cs))

/-- The text is a spelling of the value. -/
def Spelling (value : Json) (cs : List Char) : Prop := RowSpelling value.tokens cs

end Signatures.Json
