import RollCall.Binary64.Basic
import RollCall.Decimal.Digits
import RollCall.Text.Case

/-!
# Numerals

The texts that are read as numbers. A real numeral is an optional sign and either digits with an
optional point and an optional exponent, or one of the words `inf`, `infinity` and `nan` in any
case. A bare integer numeral is an optional minus sign and digits without leading zeros; an integer
numeral may also have a plus sign, leading zeros, single underscores that group its digits, and a
point followed by zeros. Only ASCII digits count.

## Main definitions

* `Decimal.real?`: the value of a real numeral.
* `Decimal.ungroup?`: a numeral without the underscores that group its digits.
* `Decimal.integer?`: the value of a bare integer numeral.
* `Decimal.bare?`: the bare numeral of an integer numeral.
-/

namespace RollCall.Decimal

/-- A text split into its sign and the rest; without a sign it counts as positive. -/
def splitSign : List Char → Bool × List Char
  | '-' :: cs => (true, cs)
  | '+' :: cs => (false, cs)
  | cs => (false, cs)

/-- The value of an exponent after its letter: an optional sign and at least one digit. -/
def exponent? (cs : List Char) : Option Int :=
  let (negative, ds) := splitSign cs
  if ds.isEmpty || !ds.all isDigit then none
  else some (if negative then -(ofDigits ds : Int) else ofDigits ds)

/-- The value of an unsigned numeral of digits, as digits and a power of ten. -/
def magnitude? (cs : List Char) : Option (Nat × Int) :=
  let (whole, r) := cs.span isDigit
  let (places, r) :=
    match r with
    | '.' :: r => r.span isDigit
    | r => ([], r)
  if whole.isEmpty && places.isEmpty then none
  else
    let value := ofDigits (whole ++ places)
    let shift : Int := -(places.length : Int)
    match r with
    | [] => some (value, shift)
    | c :: r => if c == 'e' || c == 'E' then (exponent? r).map fun x => (value, shift + x) else none

/-- The value of a real numeral. -/
def real? (cs : List Char) : Option Binary64 :=
  let (negative, cs) := splitSign cs
  let word := String.ofList (cs.map Text.asciiLower)
  if word == "inf" || word == "infinity" then some (.infinite negative)
  else if word == "nan" then some .nan
  else (magnitude? cs).map fun (digits, exponent) => .ofDecimal negative digits exponent

/-- Whether two underscores stand side by side. -/
def hasDoubled : List Char → Bool
  | '_' :: '_' :: _ => true
  | _ :: cs => hasDoubled cs
  | [] => false

/-- The text without its underscores, if it neither begins nor ends with one and no two are side by
side. -/
def ungroup? (cs : List Char) : Option (List Char) :=
  if cs.head? == some '_' || cs.getLast? == some '_' || hasDoubled cs then none
  else some (cs.filter (· != '_'))

/-! ### Integers -/

/-- A text split at a minus sign at its front. -/
def splitMinus : List Char → Bool × List Char
  | '-' :: cs => (true, cs)
  | cs => (false, cs)

/-- The value of a bare integer numeral: an optional minus sign and digits, of which the first is
not a zero unless it is the only one. -/
def integer? (cs : List Char) : Option Int :=
  let (negative, ds) := splitMinus cs
  let isBare :=
    match ds with
    | [] => false
    | '0' :: ds => ds.isEmpty
    | ds => ds.all isDigit
  if isBare then some (if negative then -(ofDigits ds : Int) else ofDigits ds) else none

/-- The number of digits at the front of a text that are read as a bare integer numeral before
anything behind them is looked at. A zero is read at once. -/
def integerLength (cs : List Char) : Nat :=
  match (splitMinus cs).2.takeWhile isDigit with
  | '0' :: _ => 0
  | ds => ds.length

/-- The text behind a zero at its front and the zeros and underscores after that; `last` is the
character before the text. Of zeros alone the last stays, as does the one before a point. -/
def dropZerosFrom? (last : Char) : List Char → Option (List Char)
  | [] => some [last]
  | c :: cs =>
    if c == '0' || c == '_' then dropZerosFrom? c cs
    else if isDigit c then some (c :: cs)
    else if c == '.' then some (last :: c :: cs)
    else none

/-- A text that begins with a digit without the zeros at its front. -/
def dropZeros? : List Char → Option (List Char)
  | '0' :: cs => dropZerosFrom? '0' cs
  | c :: cs => if isDigit c then some (c :: cs) else none
  | [] => none

/-- A text without a point and the zeros behind it, if nothing but zeros is behind it. -/
def dropEmptyPlaces (cs : List Char) : List Char :=
  match cs.dropWhile (· != '.') with
  | '.' :: d :: ds => if (d :: ds).all (· == '0') then cs.takeWhile (· != '.') else cs
  | _ => cs

/-- The bare numeral of an integer numeral, which may have either sign, zeros at its front, single
underscores between its digits, and a point with zeros at its end. -/
def bare? (cs : List Char) : Option (List Char) := do
  let (negative, cs) := splitSign cs
  let cs := dropEmptyPlaces (← dropZeros? cs)
  let cs := (ungroup? cs).getD cs
  return if negative then '-' :: cs else cs

end RollCall.Decimal
