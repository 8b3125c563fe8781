import Signatures.Json.Basic

/-!
# Writing JSON

One printer serves every layout.  A `Json.Layout` says what stands before each element or member,
before the closing bracket of a list that has any, and between a key and its value; the rest of a
document does not depend on it.

* `Json.Layout.compact` — no blank at all.
* `Json.Layout.indented` — every element and member on a line of its own, two spaces further in.
* `Json.quoted` — strings, the same in every layout.
* `Json.write` — a value at a depth.
-/

namespace Signatures.Json

/-- The blanks of a document. -/
structure Layout where
  /-- What goes before an element, a member or a closing bracket at this depth. -/
  newline (depth : Nat) : List Char
  /-- What goes between a key and its value. -/
  colon : List Char

namespace Layout

/-- No blanks. -/
def compact : Layout where
  newline _ := []
  colon := [':']

/-- A line for each element and each member, indented by two spaces a level. -/
def indented : Layout where
  newline depth := '\n' :: List.replicate (2 * depth) ' '
  colon := [':', ' ']

end Layout

/-- How a string shows one character.  A quotation mark, a backslash and the controls below U+0020
are escaped, five of these by a letter of their own; all else stands as it is. -/
def escape (c : Char) : List Char :=
  match c with
  | '"' => ['\\', '"']
  | '\\' => ['\\', '\\']
  | '\x08' => ['\\', 'b']
  | '\x0c' => ['\\', 'f']
  | '\n' => ['\\', 'n']
  | '\r' => ['\\', 'r']
  | '\t' => ['\\', 't']
  | c =>
    if c.toNat < 0x20 then
      ['\\', 'u', '0', '0', Nat.digitChar (c.toNat / 16), Nat.digitChar (c.toNat % 16)]
    else [c]

/-- A string between its quotation marks. -/
def quoted (s : String) : List Char := '"' :: s.toList.flatMap escape ++ ['"']

/-- Written items between two brackets, which enclose nothing at all when there are no items. -/
def enclosed (layout : Layout) (depth : Nat) (opening closing : Char) :
    List (List Char) → List Char
  | [] => [opening, closing]
  | items =>
    let newline := layout.newline (depth + 1)
    opening :: newline ++ (',' :: newline).intercalate items ++ layout.newline depth ++ [closing]

mutual

/-- The text of a value whose closing bracket stands at the depth. -/
def write (layout : Layout) (depth : Nat) : Json → List Char
  | null => "null".toList
  | bool value => (if value then "true" else "false").toList
  | number value => value.chars
  | string value => quoted value
  | array elements => enclosed layout depth '[' ']' (writeElements layout (depth + 1) elements)
  | object members => enclosed layout depth '\x7b' '\x7d' (writeMembers layout (depth + 1) members)
termination_by structural value => value

/-- The texts of the elements of an array. -/
def writeElements (layout : Layout) (depth : Nat) : List Json → List (List Char)
  | [] => []
  | value :: rest => value.write layout depth :: writeElements layout depth rest
termination_by structural values => values

/-- The texts of the members of an object. -/
def writeMembers (layout : Layout) (depth : Nat) : List (String × Json) → List (List Char)
  | [] => []
  | (key, value) :: rest =>
    (quoted key ++ layout.colon ++ value.write layout depth) :: writeMembers layout depth rest
termination_by structural members => members

end

/-- A document without blanks. -/
def compact (value : Json) : String := String.ofList (value.write .compact 0)

/-- A document laid out for reading. -/
def pretty (value : Json) : String := String.ofList (value.write .indented 0)

example : pretty (.object [("a", .array []), ("b", .array [.null])]) =
    "\x7b\n  \"a\": [],\n  \"b\": [\n    null\n  ]\n\x7d" := by decide

end Signatures.Json
