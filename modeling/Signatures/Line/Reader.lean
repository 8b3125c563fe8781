import Signatures.Signature.Reader
import Signatures.Text.Cut

/-!
# Signatures from a stream

A stream holds a signature on every line that is not blank.  Lines are taken one at a time and the
first fault ends the reading: what comes after it has no say.

A line ends at a line feed or at the end of the stream.  The line feed is not part of it, nor is a
carriage return directly before that line feed; every other carriage return stays.  A stream that
ends in a line feed has no further line after it.

* `nextLine?` — the first line of a stream and the stream after it.
* `length_lt_of_nextLine?` — taking a line leaves a shorter stream, so that reading comes to an end.
* `lineText?` — the text of a line, if its bytes are one.
* `readLine` — what a single line contributes.
* `readStream` — the signatures of all lines.
-/

namespace Signatures

/-! ## Lines -/

/-- The byte that ends a line. -/
def lineFeed : UInt8 := 10

/-- The byte that belongs to a line end when it stands directly before a line feed. -/
def carriageReturn : UInt8 := 13

/-- A line without the one mark that may end it. -/
def dropReturn {α : Type} [DecidableEq α] (mark : α) (line : List α) : List α :=
  if line.getLast? = some mark then line.dropLast else line

/-- The first line of a stream and what follows it, or nothing at the end of the stream. -/
def nextLine? (stream : List UInt8) : Option (List UInt8 × List UInt8) :=
  if stream = [] then none else
  match cutAt? lineFeed stream with
  | some (line, rest) => some (dropReturn carriageReturn line, rest)
  | none => some (stream, [])

theorem nextLine?_append {line : List UInt8} (h : lineFeed ∉ line) (rest : List UInt8) :
    nextLine? (line ++ lineFeed :: rest) = some (dropReturn carriageReturn line, rest) := by
  simp [nextLine?, cutAt?_append h]

theorem length_lt_of_nextLine? {stream line rest : List UInt8}
    (h : nextLine? stream = some (line, rest)) : rest.length < stream.length := by
  unfold nextLine? at h
  split at h
  · simp at h
  · next hne =>
    split at h
    · next hcut =>
      obtain ⟨rfl, -⟩ := cutAt?_eq_some_iff.1 hcut
      simp only [Option.some.injEq, Prod.mk.injEq] at h
      obtain ⟨-, rfl⟩ := h
      simp only [List.length_append, List.length_cons]
      omega
    · simp only [Option.some.injEq, Prod.mk.injEq] at h
      obtain ⟨-, rfl⟩ := h
      exact List.length_pos_iff.2 hne

/-! ## Reading -/

/-- The text that some bytes encode in UTF-8. -/
def lineText? (line : List UInt8) : Option String := String.fromUTF8? line.toByteArray

/-- The signature on a line, or nothing on a blank one.  The text is read as it stands, so that a
fault shows the blanks around it. -/
def readLine (line : List UInt8) : Except Fault (Option Signature) :=
  match lineText? line with
  | none => .error .undecodable
  | some text => if allBlank text.toList then .ok none else (Signature.parse text).map some

/-- The signatures on the lines of a stream, or the first fault met. -/
def readStream (stream : List UInt8) : Except Fault (List Signature) :=
  match _taken : nextLine? stream with
  | none => .ok []
  | some (line, rest) =>
    match readLine line with
    | .error fault => .error fault
    | .ok sig? => (readStream rest).map (sig?.toList ++ ·)
termination_by stream.length
decreasing_by exact length_lt_of_nextLine? _taken

/-- A line without a fault puts what it holds before what the rest of the stream holds. -/
theorem readStream_of_ok {stream line rest : List UInt8} {sig? : Option Signature}
    (hline : nextLine? stream = some (line, rest)) (h : readLine line = .ok sig?) :
    readStream stream = (readStream rest).map (sig?.toList ++ ·) := by
  rw [readStream]
  split <;> simp_all

end Signatures
