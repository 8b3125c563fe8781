/-!
# JSON values

The values of RFC 8259.  The members of an object keep their order, because a written document shows
it, and nothing keeps a key from coming twice.

A number is kept as its digits stand: `1.50` and `1.5e0` are different numerals, and nothing here
computes with either.  Their grammar is a sign, a whole part without a leading zero, a fraction and
an exponent, of which only the whole part is required.

* `isNumeral` — the texts of that grammar, by one pass from left to right.
* `Json` — a value.
-/

namespace Signatures

/-! ## Numbers -/

/-- How far into a numeral one has read. -/
inductive Numeral.Place where
  | start | sign | zero | whole | point | fraction | exponent | exponentSign | exponentDigits
  deriving DecidableEq, Repr

namespace Numeral.Place

/-- The places at which a numeral may end. -/
def isEnd : Place → Bool
  | zero | whole | fraction | exponentDigits => true
  | _ => false

/-- Whether a digit may follow, and what it then belongs to. -/
def digit? : Place → Option Place
  | whole => some whole
  | point | fraction => some fraction
  | exponent | exponentSign | exponentDigits => some exponentDigits
  | _ => none

/-- The place after one more character, if a numeral may go on with it. -/
def next? (place : Place) (c : Char) : Option Place :=
  match place, c with
  | start, '-' => some sign
  | start, '0' | sign, '0' => some zero
  | zero, '.' | whole, '.' => some point
  | zero, 'e' | whole, 'e' | fraction, 'e' => some exponent
  | zero, 'E' | whole, 'E' | fraction, 'E' => some exponent
  | exponent, '+' | exponent, '-' => some exponentSign
  | start, c | sign, c => if c.isDigit then some whole else none
  | place, c => if c.isDigit then place.digit? else none

end Numeral.Place

/-- Whether a text is a number of RFC 8259. -/
def isNumeral (cs : List Char) : Bool :=
  (cs.foldl (fun place? c => place?.bind (·.next? c)) (some Numeral.Place.start)).any (·.isEnd)

/-- A number as it is written. -/
structure Numeral where
  chars : List Char
  isNumeral_chars : isNumeral chars = true
  deriving DecidableEq, Repr

example : isNumeral "-12.50e+3".toList = true ∧ isNumeral "0".toList = true := by decide

example : isNumeral "01".toList = false ∧ isNumeral "1.".toList = false := by decide

/-! ## Values -/

/-- A JSON value. -/
inductive Json where
  | null
  | bool (value : Bool)
  | number (value : Numeral)
  | string (value : String)
  | array (elements : List Json)
  | object (members : List (String × Json))
  deriving Repr

end Signatures
