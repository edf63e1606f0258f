/-!
# Hexadecimal digits

One digit for each number below sixteen, written with small letters and read with letters of either
case.

## Main results

* `hexValue?_hexDigit`: what is written reads back.
-/

namespace RollCall.Text

/-- The digit of a number below sixteen, small letters above nine. -/
def hexDigit (n : Nat) : Char :=
  if n < 10 then Char.ofNat (48 + n) else Char.ofNat (87 + n)

/-- The two digits of a byte. -/
def hexByte (b : UInt8) : List Char :=
  [hexDigit (b.toNat / 16), hexDigit (b.toNat % 16)]

/-- The value of a hexadecimal digit. -/
def hexValue? (c : Char) : Option Nat :=
  if '0' ≤ c && c ≤ '9' then some (c.toNat - 48)
  else if 'a' ≤ c && c ≤ 'f' then some (c.toNat - 87)
  else if 'A' ≤ c && c ≤ 'F' then some (c.toNat - 55)
  else none

/-- What is written reads back. -/
theorem hexValue?_hexDigit {n : Nat} (h : n < 16) : hexValue? (hexDigit n) = some n := by
  have : ∀ m : Fin 16, hexValue? (hexDigit m) = some m.val := by decide
  exact this ⟨n, h⟩

/-- The number that exactly `width` hexadecimal digits at the front of a text spell, read on from
`n`, and the rest. -/
def hexNumber? : Nat → Nat → List Char → Option (Nat × List Char)
  | 0, n, cs => some (n, cs)
  | width + 1, n, c :: cs => do hexNumber? width (n * 16 + (← hexValue? c)) cs
  | _ + 1, _, [] => none

end RollCall.Text
