/-!
# Binary floating-point numbers

A `Binary64` is a number of the IEEE 754 binary64 format, held as a sign, a mantissa and an
exponent rather than as machine bits, so that its arithmetic is arithmetic on natural numbers. A
finite number is `± mantissa · 2 ^ exponent`. `ofRatio` rounds a quotient to the nearest number of
the format, a tie to the even mantissa; every operation is the exact one followed by `ofRatio`, and
so is every reader.

Canonical numbers have a mantissa below `2 ^ 53`, an exponent from `-1074` to `971`, and a mantissa
of at least `2 ^ 52` unless the exponent is `-1074`; `ofRatio` builds no others. Where a quotient
is multiplied by a power with an exponent of either sign, `power` gives the factor of its numerator
or, for the opposite exponent, of its denominator.

## Main definitions

* `Binary64.ofRatio`, `Binary64.ofInt`, `Binary64.ofDecimal`: rounding into the format.
* `Binary64.add`, `Binary64.mul`, `Binary64.lt`, `Binary64.le`.
* `Binary64.truncate?`: the integer part.
-/

namespace RollCall

/-- A binary floating-point number with 53 bits of precision. -/
inductive Binary64
  /-- The result of an operation without a value. -/
  | nan
  /-- An infinity. -/
  | infinite (negative : Bool)
  /-- The number `± mantissa · 2 ^ exponent`. -/
  | finite (negative : Bool) (mantissa : Nat) (exponent : Int)
  deriving DecidableEq, Repr, Inhabited

namespace Binary64

instance : Inhabited Binary64 := ⟨.nan⟩

/-- The least exponent of the format. -/
def minExponent : Int := -1074

/-- The greatest exponent of the format. -/
def maxExponent : Int := 971

/-- The least mantissa of a number whose exponent is not the least, `2 ^ 52`. -/
def minMantissa : Nat := 0x10000000000000

/-- The zero of a sign. -/
def zero (negative : Bool) : Binary64 := .finite negative 0 minExponent

/-! ### Rounding -/

/-- The power of a number with an exponent; one, if the exponent is negative. -/
def power (base : Nat) (exponent : Int) : Nat :=
  Nat.pow base exponent.toNat

/-- The natural number nearest to `num / den`; of two equally near, the even one. -/
def nearest (num den : Nat) : Nat :=
  let q := num / den
  let r := num % den
  if 2 * r < den then q
  else if 2 * r = den then (if q % 2 = 0 then q else q + 1)
  else q + 1

/-- The exponent of the largest power of two that is at most `num / den`, both positive. -/
def log2Ratio (num den : Nat) : Int :=
  let l := (Nat.log2 num : Int) - Nat.log2 den
  if den * power 2 l ≤ num * power 2 (-l) then l else l - 1

/-- The number of the format nearest to `num / den`, with the given sign; too large a quotient
becomes infinite. -/
def ofRatio (negative : Bool) (num den : Nat) : Binary64 :=
  if num = 0 then zero negative
  else
    let e := max (log2Ratio num den - 52) minExponent
    let m := nearest (num * power 2 (-e)) (den * power 2 e)
    let (m, e) := if m = 2 * minMantissa then (minMantissa, e + 1) else (m, e)
    if maxExponent < e then .infinite negative else .finite negative m e

/-- The number of the format nearest to an integer. -/
def ofInt (n : Int) : Binary64 :=
  ofRatio (n < 0) n.natAbs 1

/-- The number of decimal digits of a natural number. -/
def decimalLength (n : Nat) : Nat :=
  if n < 10 then 1 else decimalLength (n / 10) + 1

/-- The number of the format nearest to `digits · 10 ^ exponent`. Beyond the range of the format
the power of ten is never formed. -/
def ofDecimal (negative : Bool) (digits : Nat) (exponent : Int) : Binary64 :=
  if digits = 0 then zero negative
  else
    let top := (decimalLength digits : Int) + exponent
    if 310 < top then .infinite negative
    else if top < -330 then zero negative
    else ofRatio negative (digits * power 10 exponent) (power 10 (-exponent))

/-! ### Order and sign -/

/-- Numerator and denominator of a finite number, without its sign. -/
def ratio (mantissa : Nat) (exponent : Int) : Nat × Nat :=
  (mantissa * power 2 exponent, power 2 (-exponent))

/-- The signed numerator of a finite number over the denominator of `ratio`. -/
def numerator (negative : Bool) (mantissa : Nat) (exponent : Int) : Int :=
  let n : Int := (ratio mantissa exponent).1
  if negative then -n else n

/-- Whether the first number is below the second; never so for a number without a value. -/
def lt : Binary64 → Binary64 → Bool
  | .nan, _ => false
  | _, .nan => false
  | .infinite s, .infinite t => s && !t
  | .infinite s, .finite .. => s
  | .finite .., .infinite t => !t
  | .finite s m e, .finite t n f =>
    numerator s m e * (ratio n f).2 < numerator t n f * (ratio m e).2

/-- Whether the two numbers are equal as numbers: the two zeros are, and no number without a value
equals anything. -/
def eq : Binary64 → Binary64 → Bool
  | .nan, _ => false
  | _, .nan => false
  | .infinite s, .infinite t => s == t
  | .infinite _, .finite .. => false
  | .finite .., .infinite _ => false
  | .finite s m e, .finite t n f =>
    numerator s m e * (ratio n f).2 = numerator t n f * (ratio m e).2

/-- Whether the first number is at most the second. -/
def le (a b : Binary64) : Bool :=
  lt a b || eq a b

/-- The number with the other sign. -/
def neg : Binary64 → Binary64
  | .nan => .nan
  | .infinite s => .infinite !s
  | .finite s m e => .finite (!s) m e

/-! ### Arithmetic -/

/-- The sum, rounded once. -/
def add : Binary64 → Binary64 → Binary64
  | .nan, _ => .nan
  | _, .nan => .nan
  | .infinite s, .infinite t => if s = t then .infinite s else .nan
  | .infinite s, .finite .. => .infinite s
  | .finite .., .infinite t => .infinite t
  | .finite s m e, .finite t n f =>
    let sum := numerator s m e * (ratio n f).2 + numerator t n f * (ratio m e).2
    if sum = 0 then zero (s && t)
    else ofRatio (sum < 0) sum.natAbs ((ratio m e).2 * (ratio n f).2)

/-- The difference, rounded once. -/
def sub (a b : Binary64) : Binary64 :=
  add a (neg b)

/-- The product, rounded once. -/
def mul : Binary64 → Binary64 → Binary64
  | .nan, _ => .nan
  | _, .nan => .nan
  | .infinite s, .infinite t => .infinite (s != t)
  | .infinite s, .finite t n _ => if n = 0 then .nan else .infinite (s != t)
  | .finite s m _, .infinite t => if m = 0 then .nan else .infinite (s != t)
  | .finite s m e, .finite t n f =>
    ofRatio (s != t) ((ratio m e).1 * (ratio n f).1) ((ratio m e).2 * (ratio n f).2)

/-- The smaller of two numbers; the first unless the second is below it. -/
def min (a b : Binary64) : Binary64 :=
  if lt b a then b else a

/-- The integer part of a finite number, toward zero. -/
def truncate? : Binary64 → Option Int
  | .finite s m e =>
    let q : Int := ((ratio m e).1 / (ratio m e).2 : Nat)
    some (if s then -q else q)
  | _ => none

/-- Whether a number is finite and an integer. -/
def isInteger : Binary64 → Bool
  | .finite _ m e => (ratio m e).1 % (ratio m e).2 == 0
  | _ => false

/-- Whether a number is a zero. -/
def isZero : Binary64 → Bool
  | .finite _ m _ => m == 0
  | _ => false

end Binary64

end RollCall
