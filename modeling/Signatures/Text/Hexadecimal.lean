/-!
# Hexadecimal numbers

Reading back what `Nat.toDigits 16` writes.  Both cases of the letters are read.

* `exists_of_mem_toDigits` — nothing but digits is written.
* `ofHex?_toDigits` — the digits of a number stand for that number.
-/

namespace Signatures

/-- The value of a hexadecimal digit. -/
def hexDigit? (c : Char) : Option Nat :=
  if '0' ≤ c ∧ c ≤ '9' then some (c.toNat - '0'.toNat)
  else if 'a' ≤ c ∧ c ≤ 'f' then some (c.toNat - 'a'.toNat + 10)
  else if 'A' ≤ c ∧ c ≤ 'F' then some (c.toNat - 'A'.toNat + 10)
  else none

/-- The number that some hexadecimal digits stand for. -/
def ofHex? (digits : List Char) : Option Nat :=
  digits.foldlM (fun n c => (hexDigit? c).map (16 * n + ·)) 0

/-- The character with a number, if there is one. -/
def charOfNat? (n : Nat) : Option Char :=
  if (Char.ofNat n).toNat = n then some (Char.ofNat n) else none

theorem hexDigit?_digitChar {d : Nat} (h : d < 16) : hexDigit? (Nat.digitChar d) = some d := by
  revert d
  decide

/-- Nothing but digits is written. -/
theorem exists_of_mem_toDigits {n : Nat} {c : Char} (h : c ∈ Nat.toDigits 16 n) :
    ∃ d, d < 16 ∧ c = Nat.digitChar d := by
  induction n using Nat.strongRecOn with
  | ind n ih =>
    rw [Nat.toDigits_eq_if (by omega)] at h
    split at h
    · next hn => exact ⟨n, hn, List.mem_singleton.1 h⟩
    · rcases List.mem_append.1 h with h | h
      · exact ih (n / 16) (by omega) h
      · exact ⟨n % 16, Nat.mod_lt n (by omega), List.mem_singleton.1 h⟩

theorem ofHex?_toDigits (n : Nat) : ofHex? (Nat.toDigits 16 n) = some n := by
  induction n using Nat.strongRecOn with
  | ind n ih =>
    rw [Nat.toDigits_eq_if (by omega)]
    split
    · next h => simp [ofHex?, hexDigit?_digitChar h]
    · next h =>
      have hrest := ih (n / 16) (by omega)
      have hlast := hexDigit?_digitChar (Nat.mod_lt n (show 0 < 16 by omega))
      simp only [ofHex?] at hrest
      simp only [ofHex?, List.foldlM_append, hrest, List.foldlM_cons, List.foldlM_nil, hlast]
      simp only [Option.map_some, Option.bind_eq_bind, Option.bind_some, Option.pure_def,
        Option.some.injEq]
      omega

theorem charOfNat?_toNat (c : Char) : charOfNat? c.toNat = some c := by
  simp [charOfNat?]

end Signatures
