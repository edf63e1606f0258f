import RollCall.Decimal.Numeral
import RollCall.Json.Basic
import RollCall.Text.Hex

/-!
# Reading JSON

Strict JSON with three additions: the words `NaN`, `Infinity` and `-Infinity` are numbers. Blanks
are the space, the tab, the line feed and the carriage return. A string holds no raw control
character and no half of a surrogate pair. Arrays and objects nest at most `maxDepth` deep, and the
integer part of a number has at most `maxDigits` digits.

Every reader takes the front of a list of characters and gives back the rest.

## Main definitions

* `Json.read?`: the value of a whole document.
* `Json.value?`: the value at the front of a text.
-/

namespace RollCall.Json

/-- The greatest depth of nested arrays and objects. -/
def maxDepth : Nat := 200

/-- The greatest number of digits before the point of a number. -/
def maxDigits : Nat := 4300

/-- The blanks between tokens. -/
def isGap (c : Char) : Bool :=
  c == ' ' || c == '\t' || c == '\n' || c == '\r'

/-- The text after the blanks at its front. -/
def skip (cs : List Char) : List Char :=
  cs.dropWhile isGap

/-! ### Strings -/

/-- The value of four hexadecimal digits. -/
def unit? (a b c d : Char) : Option Nat := do
  let a ← Text.hexValue? a
  let b ← Text.hexValue? b
  let c ← Text.hexValue? c
  let d ← Text.hexValue? d
  return ((a * 16 + b) * 16 + c) * 16 + d

/-- The character that stands for itself or for a control after a backslash. -/
def simpleEscape? (c : Char) : Option Char :=
  match c with
  | '"' => some '"'
  | '\\' => some '\\'
  | '/' => some '/'
  | 'b' => some (Char.ofNat 8)
  | 'f' => some (Char.ofNat 12)
  | 'n' => some '\n'
  | 'r' => some '\r'
  | 't' => some '\t'
  | _ => none

/-- Whether a UTF-16 unit is the first of a pair. -/
def isHigh (n : Nat) : Bool := 0xD800 ≤ n && n < 0xDC00

/-- Whether a UTF-16 unit is the second of a pair. -/
def isLow (n : Nat) : Bool := 0xDC00 ≤ n && n < 0xE000

/-- The character of a pair of UTF-16 units. -/
def ofPair (high low : Nat) : Char :=
  Char.ofNat (0x10000 + (high - 0xD800) * 0x400 + (low - 0xDC00))

/-- The rest of a string after its opening mark; `read` holds the characters so far, last first. -/
def string? (read : List Char) : List Char → Option (List Char × List Char)
  | '"' :: cs => some (read.reverse, cs)
  | '\\' :: 'u' :: a :: b :: c :: d :: '\\' :: 'u' :: e :: f :: g :: h :: cs =>
    match unit? a b c d with
    | none => none
    | some n =>
      if isHigh n then
        match unit? e f g h with
        | some m => if isLow m then string? (ofPair n m :: read) cs else none
        | none => none
      else if isLow n then none
      else string? (Char.ofNat n :: read) ('\\' :: 'u' :: e :: f :: g :: h :: cs)
  | '\\' :: 'u' :: a :: b :: c :: d :: cs =>
    match unit? a b c d with
    | none => none
    | some n => if isHigh n || isLow n then none else string? (Char.ofNat n :: read) cs
  | '\\' :: c :: cs =>
    match simpleEscape? c with
    | some x => string? (x :: read) cs
    | none => none
  | c :: cs => if c.toNat < 0x20 || c == '\\' then none else string? (c :: read) cs
  | [] => none
termination_by cs => cs.length

/-! ### Numbers -/

/-- The digits at the front of a text. -/
def takeDigits (cs : List Char) : List Char × List Char :=
  cs.span Decimal.isDigit

/-- The digits before the point: a single zero, or digits that do not begin with one. -/
def whole? (cs : List Char) : Option (List Char × List Char) :=
  match takeDigits cs with
  | ([], _) => none
  | ('0' :: _ :: _, _) => none
  | (ds, r) => if maxDigits < ds.length then none else some (ds, r)

/-- The point and the digits after it, if there is a point. -/
def places? : List Char → Option (Option (List Char) × List Char)
  | '.' :: cs =>
    match takeDigits cs with
    | ([], _) => none
    | (ds, r) => some (some ds, r)
  | cs => some (none, cs)

/-- The exponent, if there is one. -/
def power? (cs : List Char) : Option (Option Int × List Char) :=
  match cs with
  | c :: r =>
    if c == 'e' || c == 'E' then
      let (negative, r) := Decimal.splitSign r
      match takeDigits r with
      | ([], _) => none
      | (ds, r) =>
        some (some (if negative then -(Decimal.ofDigits ds : Int) else Decimal.ofDigits ds), r)
    else some (none, cs)
  | [] => some (none, cs)

/-- A number of digits, its sign already read. -/
def number? (negative : Bool) (cs : List Char) : Option (Json × List Char) := do
  let (ds, r) ← whole? cs
  let (places, r) ← places? r
  let (power, r) ← power? r
  match places, power with
  | none, none =>
    let n : Int := Decimal.ofDigits ds
    return (.int (if negative then -n else n), r)
  | _, _ =>
    let fraction := places.getD []
    return (.real (.ofDecimal negative (Decimal.ofDigits (ds ++ fraction))
      (power.getD 0 - fraction.length)), r)

/-- The text after a word at its front. -/
def word? : List Char → List Char → Option (List Char)
  | [], cs => some cs
  | _ :: _, [] => none
  | w :: ws, c :: cs => if w == c then word? ws cs else none

/-! ### Values -/

mutual

/-- The value at the front of a text, nested at most `depth` deep. Every call spends one unit of
the budget; `read?` gives enough for the length of the text. -/
def value? : Nat → Nat → List Char → Option (Json × List Char)
  | 0, _, _ => none
  | budget + 1, depth, cs =>
    match skip cs with
    | '"' :: r => (string? [] r).map fun (s, r) => (.text (String.ofList s), r)
    | '[' :: r =>
      match depth with
      | 0 => none
      | depth + 1 =>
        match skip r with
        | ']' :: r => some (.array [], r)
        | r => items? budget depth [] r
    | '{' :: r =>
      match depth with
      | 0 => none
      | depth + 1 =>
        match skip r with
        | '}' :: r => some (.object [], r)
        | r => members? budget depth [] r
    | 'n' :: r => (word? ['u', 'l', 'l'] r).map fun r => (.null, r)
    | 't' :: r => (word? ['r', 'u', 'e'] r).map fun r => (.bool true, r)
    | 'f' :: r => (word? ['a', 'l', 's', 'e'] r).map fun r => (.bool false, r)
    | 'N' :: r => (word? ['a', 'N'] r).map fun r => (.real .nan, r)
    | 'I' :: r =>
      (word? ['n', 'f', 'i', 'n', 'i', 't', 'y'] r).map fun r => (.real (.infinite false), r)
    | '-' :: 'I' :: r =>
      (word? ['n', 'f', 'i', 'n', 'i', 't', 'y'] r).map fun r => (.real (.infinite true), r)
    | '-' :: r => number? true r
    | r => number? false r

/-- The items of an array up to its closing bracket; `read` holds those so far, last first. -/
def items? : Nat → Nat → List Json → List Char → Option (Json × List Char)
  | 0, _, _, _ => none
  | budget + 1, depth, read, cs =>
    match value? budget depth cs with
    | none => none
    | some (v, r) =>
      match skip r with
      | ',' :: r => items? budget depth (v :: read) r
      | ']' :: r => some (.array (v :: read).reverse, r)
      | _ => none

/-- The members of an object up to its closing brace; `read` holds those so far, last first. -/
def members? : Nat → Nat → List (String × Json) → List Char → Option (Json × List Char)
  | 0, _, _, _ => none
  | budget + 1, depth, read, cs =>
    match skip cs with
    | '"' :: r =>
      match string? [] r with
      | none => none
      | some (name, r) =>
        match skip r with
        | ':' :: r =>
          match value? budget depth r with
          | none => none
          | some (v, r) =>
            match skip r with
            | ',' :: r => members? budget depth ((String.ofList name, v) :: read) r
            | '}' :: r => some (.object ((String.ofList name, v) :: read).reverse, r)
            | _ => none
        | _ => none
    | _ => none

end

/-- The value of a document: one value with blanks around it and nothing else. -/
def read? (cs : List Char) : Option Json :=
  match value? (2 * cs.length + 2) maxDepth cs with
  | some (v, r) => if (skip r).isEmpty then some v else none
  | none => none

end RollCall.Json
