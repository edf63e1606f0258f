import RollCall.Text.Hex

/-!
# UTF-8

`decode` reads bytes as UTF-8 and says, where it cannot, which bytes are at fault and why. A
sequence is refused at its first byte that no well-formed sequence could hold there, so the bytes
at fault are the longest beginning of a well-formed sequence: one byte when the leading byte is
none, otherwise the leading byte and those continuation bytes that still fitted. `encode` is the
inverse on all texts.

## Main definitions

* `Utf8.Fault`: where a byte string stops being UTF-8, and why.
* `Utf8.decode`, `Utf8.encode`.
-/

namespace RollCall.Utf8

/-- Why a sequence of bytes is not UTF-8. -/
inductive Reason
  /-- No sequence begins with this byte. -/
  | badStart
  /-- A byte that should continue the sequence does not. -/
  | badContinuation
  /-- The bytes end inside a sequence. -/
  | truncated
  deriving DecidableEq, Repr

/-- The place at which a byte string stops being UTF-8: the position of the sequence at fault, its
leading byte, the number of its bytes that were read, and the reason. -/
structure Fault where
  position : Nat
  leading : UInt8
  length : Nat
  reason : Reason
  deriving DecidableEq, Repr

/-- The wording of a reason. -/
def Reason.message : Reason → String
  | .badStart => "invalid start byte"
  | .badContinuation => "invalid continuation byte"
  | .truncated => "unexpected end of data"

/-- The wording of a fault: one byte is shown, several are counted. -/
def Fault.message (f : Fault) : String :=
  let place :=
    if f.length ≤ 1 then
      "byte 0x" ++ String.ofList (Text.hexByte f.leading) ++ " in position " ++ toString f.position
    else
      "bytes in position " ++ toString f.position ++ "-" ++ toString (f.position + f.length - 1)
  "'utf-8' codec can't decode " ++ place ++ ": " ++ f.reason.message

/-! ### Reading -/

/-- A byte of the form `10xxxxxx`. -/
def isContinuation (b : UInt8) : Bool :=
  0x80 ≤ b && b ≤ 0xBF

/-- What the leading byte of a sequence promises: how many bytes follow, the range of the first of
them, and the bits it contributes itself. -/
structure Lead where
  follow : Nat
  low : UInt8
  high : UInt8
  bits : Nat
  deriving DecidableEq, Repr

/-- The promise of a leading byte, or nothing if no sequence begins with it. The narrower ranges
leave out overlong forms, surrogates and what lies above U+10FFFF. -/
def lead? (b : UInt8) : Option Lead :=
  let n := b.toNat
  if n < 0x80 then some ⟨0, 0x80, 0xBF, n⟩
  else if n < 0xC2 then none
  else if n < 0xE0 then some ⟨1, 0x80, 0xBF, n - 0xC0⟩
  else if n == 0xE0 then some ⟨2, 0xA0, 0xBF, 0⟩
  else if n == 0xED then some ⟨2, 0x80, 0x9F, 0xD⟩
  else if n < 0xF0 then some ⟨2, 0x80, 0xBF, n - 0xE0⟩
  else if n == 0xF0 then some ⟨3, 0x90, 0xBF, 0⟩
  else if n < 0xF4 then some ⟨3, 0x80, 0xBF, n - 0xF0⟩
  else if n == 0xF4 then some ⟨3, 0x80, 0x8F, 4⟩
  else none

/-- What is open while a sequence is being read: where it began, its leading byte, the bytes read
so far, those still missing, the range of the next one, and the bits gathered. -/
structure Pending where
  position : Nat
  leading : UInt8
  seen : Nat
  missing : Nat
  low : UInt8
  high : UInt8
  bits : Nat
  deriving DecidableEq, Repr

/-- The fault of an open sequence. -/
def Pending.fault (p : Pending) (reason : Reason) : Fault :=
  ⟨p.position, p.leading, p.seen, reason⟩

/-- Reads the bytes from position `i` on with the sequence `open?` still open; `read` holds the
characters before it, last first. -/
def decodeFrom (open? : Option Pending) (i : Nat) (read : List Char) :
    List UInt8 → Except Fault (List Char)
  | [] =>
    match open? with
    | none => .ok read.reverse
    | some p => .error (p.fault .truncated)
  | b :: bs =>
    match open? with
    | some p =>
      if p.low ≤ b && b ≤ p.high then
        let bits := p.bits * 64 + (b.toNat - 0x80)
        if p.missing ≤ 1 then
          decodeFrom none (i + 1) (Char.ofNat bits :: read) bs
        else
          decodeFrom (some ⟨p.position, p.leading, p.seen + 1, p.missing - 1, 0x80, 0xBF, bits⟩)
            (i + 1) read bs
      else .error (p.fault .badContinuation)
    | none =>
      match lead? b with
      | none => .error ⟨i, b, 1, .badStart⟩
      | some l =>
        if l.follow = 0 then decodeFrom none (i + 1) (Char.ofNat l.bits :: read) bs
        else decodeFrom (some ⟨i, b, 1, l.follow, l.low, l.high, l.bits⟩) (i + 1) read bs

/-- The characters that the bytes spell in UTF-8. -/
def decode (bytes : List UInt8) : Except Fault (List Char) :=
  decodeFrom none 0 [] bytes

/-! ### Writing -/

/-- The bytes of one character. -/
def encodeChar (c : Char) : List UInt8 :=
  let n := c.toNat
  if n < 0x80 then [UInt8.ofNat n]
  else if n < 0x800 then [UInt8.ofNat (0xC0 + n / 64), UInt8.ofNat (0x80 + n % 64)]
  else if n < 0x10000 then
    [UInt8.ofNat (0xE0 + n / 4096), UInt8.ofNat (0x80 + n / 64 % 64), UInt8.ofNat (0x80 + n % 64)]
  else
    [UInt8.ofNat (0xF0 + n / 262144), UInt8.ofNat (0x80 + n / 4096 % 64),
      UInt8.ofNat (0x80 + n / 64 % 64), UInt8.ofNat (0x80 + n % 64)]

/-- The bytes of a list of characters. -/
def encode (cs : List Char) : List UInt8 :=
  cs.flatMap encodeChar

/-- The text that the bytes spell, if they are UTF-8. -/
def text? (bytes : List UInt8) : Option String :=
  match decode bytes with
  | .ok cs => some (String.ofList cs)
  | .error _ => none

end RollCall.Utf8
