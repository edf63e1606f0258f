import RollCall.Binary64.Basic
import RollCall.Decimal.Digits

/-!
# The decimal text of a binary number

A finite number is written with the fewest decimal digits that read back as the same number, and
of those texts the nearest to it. `shortest` finds these digits; a `Layout` decides how they are
set: which powers of ten are written with a point only, and how an exponent looks. `fixed` writes a
number with a given count of decimal places, correctly rounded, a tie to the even digit.

## Main definitions

* `Binary64.shortest`: digits and power of ten of the shortest text.
* `Binary64.text`: the text in messages and answers.
* `Binary64.fixed`: fixed decimal places.
-/

namespace RollCall.Binary64

/-! ### The shortest digits -/

/-- The exponent of the largest power of ten that is at most `num / den`, both positive. -/
def log10Ratio (num den : Nat) : Int :=
  let estimate := log2Ratio num den * 30103 / 100000
  let fits (k : Int) : Bool := power 10 k * den ≤ num * power 10 (-k)
  ([estimate + 2, estimate + 1, estimate, estimate - 1].find? fits).getD (estimate - 2)

/-- The reals that round to a positive number, as numerators over a common denominator: the lower
end, the number, the upper end, whether the ends belong to it, and the denominator. -/
structure Interval where
  low : Nat
  value : Nat
  high : Nat
  closed : Bool
  den : Nat

/-- The interval of the reals that round to `mantissa · 2 ^ exponent`. Below a power of two the
neighbour is only half as far away. -/
def interval (mantissa : Nat) (exponent : Int) : Interval :=
  let scale := power 2 exponent
  let below := if mantissa = minMantissa ∧ minExponent < exponent then 1 else 2
  { low := (4 * mantissa - below) * scale
    value := 4 * mantissa * scale
    high := (4 * mantissa + 2) * scale
    closed := mantissa % 2 == 0
    den := 4 * power 2 (-exponent) }

/-- Whether `digits · 10 ^ k` lies in the interval. -/
def Interval.holds (i : Interval) (digits : Nat) (k : Int) : Bool :=
  let x := digits * power 10 k * i.den
  let scale := power 10 (-k)
  if i.closed then i.low * scale ≤ x && x ≤ i.high * scale
  else i.low * scale < x && x < i.high * scale

/-- The point of the grid of step `10 ^ k` that lies in the interval and is nearest to the number,
if there is one; of two equally near, the even one. -/
def Interval.onGrid? (i : Interval) (k : Int) : Option Nat :=
  let num := i.value * power 10 (-k)
  let den := i.den * power 10 k
  let q := num / den
  let near := nearest num den
  let far := if near = q then q + 1 else q
  if i.holds near k then some near
  else if i.holds far k then some far
  else none

/-- The fewest digits that read back, with their power of ten, tried on finer and finer grids. -/
def Interval.search (i : Interval) : Nat → Int → Nat × Int
  | 0, k => (nearest (i.value * power 10 (-k)) (i.den * power 10 k), k)
  | n + 1, k =>
    match i.onGrid? k with
    | some d => (d, k)
    | none => i.search n (k - 1)

/-- The digits of the shortest decimal text of `mantissa · 2 ^ exponent` and their power of ten. -/
def shortest (mantissa : Nat) (exponent : Int) : Nat × Int :=
  let i := interval mantissa exponent
  i.search 16 (log10Ratio i.value i.den)

/-! ### Setting the digits -/

/-- How digits are set: the powers of ten written without an exponent, from `lowest` up to but not
including `limit`, the least number of digits of an exponent, and the words for what has no
digits. -/
structure Layout where
  lowest : Int
  limit : Int
  exponentWidth : Nat
  infinity : String
  noValue : String

/-- The layout of every number in messages and answers. -/
def Layout.plain : Layout := ⟨-4, 16, 2, "inf", "nan"⟩

/-- The digits without zeros at the end, at least one digit. -/
def dropTrailingZeros (ds : List Char) : List Char :=
  match (ds.reverse.dropWhile (· == '0')).reverse with
  | [] => ['0']
  | ds => ds

/-- The exponent part of a text. -/
def Layout.exponent (l : Layout) (x : Int) : List Char :=
  let ds := Decimal.digits x.natAbs
  'e' :: (if x < 0 then '-' else '+') ::
    (List.replicate (l.exponentWidth - ds.length) '0' ++ ds)

/-- The digits with a point or an exponent, where the first digit stands for `10 ^ x`. -/
def Layout.set (l : Layout) (ds : List Char) (x : Int) : List Char :=
  if l.lowest ≤ x && x < l.limit then
    if x < 0 then '0' :: '.' :: (List.replicate (-x - 1).toNat '0' ++ ds)
    else
      let whole := ds.take (x.toNat + 1) ++ List.replicate (x.toNat + 1 - ds.length) '0'
      let places := ds.drop (x.toNat + 1)
      whole ++ '.' :: (if places.isEmpty then ['0'] else places)
  else
    match ds with
    | [] => []
    | [d] => d :: l.exponent x
    | d :: places => d :: '.' :: (places ++ l.exponent x)

/-- The text of a number in a layout. -/
def Layout.render (l : Layout) : Binary64 → List Char
  | .nan => l.noValue.toList
  | .infinite s => (if s then ['-'] else []) ++ l.infinity.toList
  | .finite s m e =>
    let sign := if s then ['-'] else []
    if m = 0 then sign ++ ['0', '.', '0']
    else
      let (d, k) := shortest m e
      let ds := Decimal.digits d
      sign ++ l.set (dropTrailingZeros ds) (k + ds.length - 1)

/-- The text of a number in messages and answers. -/
def text (x : Binary64) : String :=
  String.ofList (Layout.plain.render x)

/-- The text of a number with `places` decimal places. -/
def fixed (places : Nat) : Binary64 → String
  | .nan => Layout.plain.noValue
  | .infinite s => (if s then "-" else "") ++ Layout.plain.infinity
  | .finite s m e =>
    let ds := Decimal.digits (nearest ((ratio m e).1 * power 10 places) (ratio m e).2)
    let ds := List.replicate (places + 1 - ds.length) '0' ++ ds
    let whole := ds.take (ds.length - places)
    let rest := ds.drop (ds.length - places)
    String.ofList ((if s then ['-'] else []) ++ whole ++ (if places = 0 then [] else '.' :: rest))

end RollCall.Binary64
