import Signatures.Line.Reader

/-!
# All lines at once

Taking one line after another gives the lines that cutting at every line feed gives.  The cut is
stated for any type of members, so that the lines of a stream of bytes and the lines of a text are
one notion.

* `linesOf` — all lines of a sequence.
* `readStream_eq_readLines` — **reading a stream is reading its lines**, in order and up to the
  first fault.
-/

namespace Signatures

section Cut

variable {α : Type} [DecidableEq α]

/-- The pieces between feeds, each but the last without the return that may end it.  An empty last
piece is no line. -/
def linesOf (feed mark : α) (l : List α) : List (List α) :=
  (l.splitOn feed).dropLast.map (dropReturn mark) ++
    ((l.splitOn feed).getLast?.filter fun line => !line.isEmpty).toList

@[simp] theorem linesOf_nil (feed mark : α) : linesOf feed mark [] = [] := by
  simp [linesOf, List.splitOn_nil]

/-- A feed ends the line before it. -/
theorem linesOf_append {feed mark : α} {line : List α} (h : feed ∉ line) (rest : List α) :
    linesOf feed mark (line ++ feed :: rest) = dropReturn mark line :: linesOf feed mark rest := by
  obtain ⟨piece, pieces, hp⟩ := List.exists_cons_of_ne_nil (List.splitOn_ne_nil feed rest)
  simp [linesOf, List.splitOn_append_cons_self_of_not_mem h, hp, List.getLast?_cons]

/-- What no feed ends is a line if anything is on it. -/
theorem linesOf_last {feed mark : α} {line : List α} (h : feed ∉ line) (hne : line ≠ []) :
    linesOf feed mark line = [line] := by
  simp [linesOf, List.splitOn_eq_singleton h, hne]

end Cut

/-- The lines of a stream of bytes. -/
abbrev streamLines (stream : List UInt8) : List (List UInt8) :=
  linesOf lineFeed carriageReturn stream

/-- What some lines hold, up to the first fault. -/
def readLines : List (List UInt8) → Except Fault (List Signature)
  | [] => .ok []
  | line :: lines =>
    match readLine line with
    | .error fault => .error fault
    | .ok sig? => (readLines lines).map (sig?.toList ++ ·)

theorem streamLines_eq_of_nextLine? {stream line rest : List UInt8}
    (h : nextLine? stream = some (line, rest)) : streamLines stream = line :: streamLines rest := by
  unfold nextLine? at h
  split at h
  · simp at h
  · next hne =>
    split at h
    · next before after hcut =>
      obtain ⟨rfl, hfeed⟩ := cutAt?_eq_some_iff.1 hcut
      simp only [Option.some.injEq, Prod.mk.injEq] at h
      obtain ⟨rfl, rfl⟩ := h
      exact linesOf_append hfeed _
    · next hcut =>
      simp only [Option.some.injEq, Prod.mk.injEq] at h
      obtain ⟨rfl, rfl⟩ := h
      simpa using linesOf_last (cutAt?_eq_none_iff.1 hcut) hne

theorem eq_nil_of_nextLine? {stream : List UInt8} (h : nextLine? stream = none) : stream = [] := by
  unfold nextLine? at h
  split at h
  · assumption
  · split at h <;> simp at h

/-- **Reading a stream is reading its lines.** -/
theorem readStream_eq_readLines (stream : List UInt8) :
    readStream stream = readLines (streamLines stream) := by
  fun_induction readStream stream with
  | case1 stream h => rw [eq_nil_of_nextLine? h, streamLines, linesOf_nil, readLines]
  | case2 stream line rest h fault hline =>
    rw [streamLines_eq_of_nextLine? h, readLines, hline]
  | case3 stream line rest h sig? hline ih =>
    rw [streamLines_eq_of_nextLine? h, readLines, hline, ih]

end Signatures
