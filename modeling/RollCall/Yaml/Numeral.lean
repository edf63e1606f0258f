import RollCall.Decimal.Numeral
import RollCall.Text.Blank
import RollCall.Text.Digit
import RollCall.Text.Hex
import RollCall.Yaml.Fault

/-!
# The numbers that scalars stand for

A scalar that is to be a number is read without its underscores. After one sign an integer has the
base two behind `0b`, sixteen behind `0x` and eight behind any other `0`; the parts of a numeral
with colons are its places in base sixty, however large each of them is. Within a part, white space
around it and a second sign are allowed, and the digits may be those of any script.

## Main definitions

* `Numeral.integer`: the integer that a text stands for.
* `Numeral.real`: the floating-point number that a text stands for.
-/

namespace RollCall.Yaml.Numeral

/-- The greatest number of decimal digits of an integer. -/
def maxDigits : Nat := 4300

/-! ### Symbols -/

/-- The character that a symbol counts as in a part: a digit as the ASCII digit of its value, and a
half of a surrogate pair as something that no numeral holds. -/
def partChar : Text.Symbol → Char
  | .char c => (Text.asciiDigit? c).getD c
  | .half _ => '?'

/-- The characters of a part without the white space around them. -/
def partChars (part : List Text.Symbol) : List Char :=
  Text.trimList Text.isSpace (part.map partChar)

/-- A text without its underscores. -/
def ungroup (text : List Text.Symbol) : List Text.Symbol :=
  text.filter (· != .char '_')

/-- A text split into its sign and the rest. It may not be empty. -/
def split : List Text.Symbol → Reading (Bool × List Text.Symbol)
  | [] => failed .emptyNumeral
  | .char '-' :: ss => .ok (true, ss)
  | .char '+' :: ss => .ok (false, ss)
  | ss => .ok (false, ss)

/-- The parts of a text between its colons. -/
def places (text : List Text.Symbol) : List (List Text.Symbol) :=
  text.splitOn (.char ':')

/-! ### Integers -/

/-- The value of a digit of a base up to sixteen. -/
def digit? (base : Nat) (c : Char) : Option Nat :=
  (Text.hexValue? c).filter (· < base)

/-- The text behind the mark of a base, if it is there and something follows it. -/
def dropBase (base : Nat) : List Char → List Char
  | '0' :: m :: c :: cs =>
    let mark := Text.asciiLower m
    if (base == 2 && mark == 'b') || (base == 8 && mark == 'o') || (base == 16 && mark == 'x') then
      c :: cs
    else '0' :: m :: c :: cs
  | cs => cs

/-- The number that the digits of a base spell, read on from `n`. -/
def digitsFrom? (base n : Nat) : List Char → Option Nat
  | [] => some n
  | c :: cs =>
    match digit? base c with
    | some d => digitsFrom? base (n * base + d) cs
    | none => none

/-- The integer that a part spells in a base. The decimal digits at its front are counted before
anything behind them is looked at. -/
def inBase (base : Nat) (part : List Text.Symbol) : Reading Int :=
  let (negative, cs) := Decimal.splitSign (partChars part)
  let ds := dropBase base cs
  let count := (ds.takeWhile Decimal.isDigit).length
  if base == 10 && maxDigits < count then failed (.longNumeral count)
  else
    match ds, digitsFrom? base 0 ds with
    | _ :: _, some n => .ok (if negative then -(n : Int) else n)
    | _, _ => failed (.notIntegerNumeral base part)

/-- The integer that a text without its sign stands for. -/
def unsigned (text : List Text.Symbol) : Reading Int := do
  match text with
  | [] => failed .emptyNumeral
  | [.char '0'] => return 0
  | .char '0' :: .char 'b' :: part => inBase 2 part
  | .char '0' :: .char 'x' :: part => inBase 16 part
  | .char '0' :: _ => inBase 8 text
  | text =>
    let places ← (places text).mapM (inBase 10)
    return places.foldl (fun n place => n * 60 + place) 0

/-- The integer that a text stands for. -/
def integer (text : List Text.Symbol) : Reading Int := do
  let (negative, text) ← split (ungroup text)
  let n ← unsigned text
  return if negative then -n else n

/-! ### Floating-point numbers -/

/-- The number that a part spells. -/
def decimal (part : List Text.Symbol) : Reading Binary64 :=
  match Decimal.real? (partChars part) with
  | some x => .ok x
  | none => failed (.notRealNumeral part)

/-- The greatest exponent of a power of sixty within the range of floating-point numbers. -/
def maxExponent : Nat := 173

/-- The sum of the places of a numeral in base sixty, the lowest first, onto `sum`. Each place and
each sum is rounded. -/
def sumFrom (sum : Binary64) (exponent : Nat) : List Binary64 → Reading Binary64
  | [] => .ok sum
  | place :: places =>
    if maxExponent < exponent then failed .hugePower
    else
      let weight := Binary64.ofInt (Binary64.power 60 exponent)
      sumFrom (sum.add (place.mul weight)) (exponent + 1) places

/-- The floating-point number that a text without its sign stands for. -/
def unsignedReal (text : List Text.Symbol) : Reading Binary64 := do
  if text == Text.Symbol.ofChars ".inf".toList then return .infinite false
  else if text == Text.Symbol.ofChars ".nan".toList then return .nan
  else
    match places text with
    | [part] => decimal part
    | parts =>
      let places ← parts.mapM decimal
      sumFrom (.zero false) 0 places.reverse

/-- The floating-point number that a text stands for, in letters of either case. -/
def real (text : List Text.Symbol) : Reading Binary64 := do
  let (negative, text) ← split (Text.lowerSymbols (ungroup text))
  let x ← unsignedReal text
  return if negative then x.neg else x

end RollCall.Yaml.Numeral
