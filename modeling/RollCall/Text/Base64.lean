/-!
# Base64

Bytes written with sixty-four letters, four letters for three bytes. Reading passes over every
character that is neither a letter nor the padding sign; padding ends the bytes once the last group
of four is filled up with it, and only then may a group be incomplete.
-/

namespace RollCall.Base64

/-- The value of a letter. -/
def value? (c : Char) : Option Nat :=
  if 'A' ≤ c && c ≤ 'Z' then some (c.toNat - 65)
  else if 'a' ≤ c && c ≤ 'z' then some (c.toNat - 71)
  else if '0' ≤ c && c ≤ '9' then some (c.toNat + 4)
  else if c == '+' then some 62
  else if c == '/' then some 63
  else none

/-- The bytes read, last first, the number of letters of the open group, the bits that its letters
have left over, and the padding signs in a row. -/
structure Progress where
  read : List UInt8
  letters : Nat
  bits : Nat
  padding : Nat

/-- One letter more. A letter brings six bits, and eight bits make a byte. -/
def Progress.take (p : Progress) (v : Nat) : Progress :=
  match p.letters with
  | 0 => ⟨p.read, 1, v, 0⟩
  | 1 => ⟨UInt8.ofNat (p.bits * 4 + v / 16) :: p.read, 2, v % 16, 0⟩
  | 2 => ⟨UInt8.ofNat (p.bits * 16 + v / 4) :: p.read, 3, v % 4, 0⟩
  | _ => ⟨UInt8.ofNat (p.bits * 64 + v) :: p.read, 0, 0, 0⟩

/-- The bytes of the rest of a text. -/
def decodeFrom (p : Progress) : List Char → Option (List UInt8)
  | [] => if p.letters = 0 then some p.read.reverse else none
  | c :: cs =>
    if c == '=' then
      if p.letters < 2 then decodeFrom p cs
      else if 4 ≤ p.letters + p.padding + 1 then some p.read.reverse
      else decodeFrom { p with padding := p.padding + 1 } cs
    else
      match value? c with
      | none => decodeFrom p cs
      | some v => decodeFrom (p.take v) cs

/-- The bytes that a text stands for. -/
def decode? (cs : List Char) : Option (List UInt8) :=
  decodeFrom ⟨[], 0, 0, 0⟩ cs

end RollCall.Base64
