import Signatures.Json.Token

/-!
# Reading JSON

A text stands for at most one value: its tokens are read from left to right, and the first of them
says what kind of value is meant.  Members keep their order and a key may come twice.

* `value?` — the value at the front of a row of tokens, by a depth that bounds the reading.
* `parse?` — the value of a whole text.
-/

namespace Signatures.Json

open Token

mutual

/-- The value at the front, and the tokens after it. -/
def value? (depth : Nat) (tokens : List Token) : Option (Json × List Token) :=
  match depth, tokens with
  | 0, _ => none
  | _, .null :: rest => some (.null, rest)
  | _, .bool b :: rest => some (.bool b, rest)
  | _, .number n :: rest => some (.number n, rest)
  | _, .string s :: rest => some (.string s, rest)
  | _, openArray :: closeArray :: rest => some (.array [], rest)
  | depth + 1, openArray :: rest =>
    (elements? depth rest).map fun (elements, rest) => (.array elements, rest)
  | _, openObject :: closeObject :: rest => some (.object [], rest)
  | depth + 1, openObject :: rest =>
    (members? depth rest).map fun (members, rest) => (.object members, rest)
  | _, _ => none

/-- Elements up to the closing bracket, one at least. -/
def elements? (depth : Nat) (tokens : List Token) : Option (List Json × List Token) :=
  match depth with
  | 0 => none
  | depth + 1 =>
    match value? depth tokens with
    | some (value, closeArray :: rest) => some ([value], rest)
    | some (value, comma :: rest) =>
      (elements? depth rest).map fun (elements, rest) => (value :: elements, rest)
    | _ => none

/-- Members up to the closing brace, one at least. -/
def members? (depth : Nat) (tokens : List Token) : Option (List (String × Json) × List Token) :=
  match depth, tokens with
  | depth + 1, .string key :: colon :: rest =>
    match value? depth rest with
    | some (value, closeObject :: rest) => some ([(key, value)], rest)
    | some (value, comma :: rest) =>
      (members? depth rest).map fun (members, rest) => ((key, value) :: members, rest)
    | _ => none
  | _, _ => none

end

/-- The value that a row of tokens stands for.  Going down a level and going on to a further element
each take a token and at most two steps, so twice the number of tokens bounds the reading. -/
def ofTokens? (tokens : List Token) : Option Json :=
  match value? (2 * tokens.length) tokens with
  | some (value, []) => some value
  | _ => none

/-- The value that a text stands for. -/
def parse? (cs : List Char) : Option Json := (tokens? cs).bind ofTokens?

end Signatures.Json
