import RollCall.Decimal.Numeral
import RollCall.Problem
import RollCall.Text.Blank
import RollCall.Text.Utf8
import RollCall.Value

/-!
# Lenient conversions

Settings come from files in which types are loose, so a field takes every value that clearly stands
for one of its type: bytes that spell a text, a text that spells a number, a number or a word for a
truth value. Each conversion either gives the value or names the problem.

## Main definitions

* `Value.toText`, `Value.toSecret`: texts.
* `Value.toNumber`: floating-point numbers.
* `Value.toInteger`: integers.
* `Value.toBool`: truth values.
-/

namespace RollCall.Value

/-- A text, from a text or from bytes that are UTF-8. -/
def toText : Value → Except Problem String
  | .text s => .ok s
  | .broken symbols => .ok (Text.Symbol.joined symbols)
  | .bytes bs =>
    match Utf8.text? bs with
    | some s => .ok s
    | none => .error .notUnicode
  | _ => .error .notText

/-- A text that is to be kept secret; a refusal says nothing about it. -/
def toSecret : Value → Except Problem String
  | .text s => .ok s
  | .broken symbols => .ok (Text.Symbol.joined symbols)
  | .bytes bs =>
    match Utf8.text? bs with
    | some s => .ok s
    | none => .error .notText
  | _ => .error .notText

/-- The number that a text spells: a numeral with white space around it, or one without white space
in which single underscores group the digits. -/
def readNumber? (cs : List Char) : Option Binary64 :=
  Decimal.real? (Text.trimList Text.isSpace cs) <|> (Decimal.ungroup? cs).bind Decimal.real?

/-- A floating-point number, from a number, a truth value or a text. -/
def toNumber : Value → Except Problem Binary64
  | .bool b => .ok (.ofInt (if b then 1 else 0))
  | .int n =>
    match Binary64.ofInt n with
    | .infinite _ => .error .notNumber
    | x => .ok x
  | .float x => .ok x
  | .text s =>
    match readNumber? s.toList with
    | some x => .ok x
    | none => .error .unreadableNumber
  | .broken _ => .error .notUnicode
  | .bytes bs =>
    match (Utf8.decode bs).toOption.bind readNumber? with
    | some x => .ok x
    | none => .error .unreadableNumber
  | _ => .error .notNumber

/-- The greatest number of digits of a numeral that is read as an integer. -/
def maxDigits : Nat := 4300

/-- The integer that a bare numeral stands for. -/
def readBare (cs : List Char) : Except Problem Int :=
  if maxDigits < Decimal.integerLength cs then .error .tooLarge
  else
    match Decimal.integer? cs with
    | some n => .ok n
    | none => .error .unreadableInteger

/-- The integer that a text spells. A text that is no bare numeral may be one once white space
around it is trimmed and its digits are cleared of what does not count. -/
def readInteger (cs : List Char) : Except Problem Int :=
  match readBare cs with
  | .error .unreadableInteger =>
    match Decimal.bare? (Text.trimList Text.isSpace cs) with
    | some cs => readBare cs
    | none => .error .unreadableInteger
  | r => r

/-- The integers that a floating-point number may stand for lie strictly between these bounds. -/
def integerBound : Int := 0x8000000000000000

/-- The integer that a floating-point number is. -/
def integerOfNumber (x : Binary64) : Except Problem Int :=
  match x.truncate? with
  | none => .error .notFinite
  | some n =>
    if !x.isInteger then .error .fractional
    else if -integerBound < n && n < integerBound then .ok n
    else .error .tooLarge

/-- An integer, from a number, a truth value or a text. -/
def toInteger : Value → Except Problem Int
  | .bool b => .ok (if b then 1 else 0)
  | .int n => .ok n
  | .float x => integerOfNumber x
  | .text s => readInteger s.toList
  | .broken _ => .error .notUnicode
  | .bytes bs =>
    match Utf8.decode bs with
    | .ok cs => readInteger cs
    | .error _ => .error .unreadableInteger
  | _ => .error .notInteger

/-- The words for true. -/
def trueWords : List String := ["1", "on", "t", "true", "y", "yes"]

/-- The words for false. -/
def falseWords : List String := ["0", "off", "f", "false", "n", "no"]

/-- The truth value that a word stands for, in any case. -/
def readBool (s : String) : Except Problem Bool :=
  let word := Text.lowerAscii s
  if trueWords.contains word then .ok true
  else if falseWords.contains word then .ok false
  else .error .unreadableBool

/-- The truth value that a floating-point number stands for; any other whole number within range is
taken for an unknown word. -/
def boolOfNumber (x : Binary64) : Except Problem Bool :=
  if x.isZero then .ok false
  else if x.eq (.ofInt 1) then .ok true
  else
    match integerOfNumber x with
    | .ok _ => .error .unreadableBool
    | .error _ => .error .notBool

/-- A truth value, from a truth value, a number or a word. -/
def toBool : Value → Except Problem Bool
  | .bool b => .ok b
  | .int n =>
    if n == 0 then .ok false
    else if n == 1 then .ok true
    else if -integerBound ≤ n && n < integerBound then .error .unreadableBool
    else .error .notBool
  | .float x => boolOfNumber x
  | .text s => readBool s
  | .broken _ => .error .notUnicode
  | .bytes bs =>
    match Utf8.text? bs with
    | some s => readBool s
    | none => .error .unreadableBool
  | _ => .error .notBool

end RollCall.Value
