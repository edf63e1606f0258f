import RollCall.Text.Printable
import RollCall.Text.Utf8
import RollCall.Value

/-!
# The text of a value

Messages that show a value show its *literal*: texts in quotes, bytes with a `b` in front, lists in
square brackets and mappings in braces. `display` is the same except that a text stands for itself.

A text is quoted with apostrophes, or with quotation marks if it holds an apostrophe and no
quotation mark. The quote, the backslash and everything that does not print are escaped.
-/

namespace RollCall.Value

/-- The last `width` hexadecimal digits of a number, in front of `rest`. -/
def hexOnto : Nat → Nat → List Char → List Char
  | 0, _, rest => rest
  | width + 1, n, rest => hexOnto width (n / 16) (Text.hexDigit (n % 16) :: rest)

/-- A character inside a quoted text. -/
def quoteChar (quote c : Char) : List Char :=
  if c == quote || c == '\\' then ['\\', c]
  else if c == '\n' then ['\\', 'n']
  else if c == '\r' then ['\\', 'r']
  else if c == '\t' then ['\\', 't']
  else if Text.isPrintable c then [c]
  else if c.toNat < 0x100 then '\\' :: 'x' :: hexOnto 2 c.toNat []
  else if c.toNat < 0x10000 then '\\' :: 'u' :: hexOnto 4 c.toNat []
  else '\\' :: 'U' :: hexOnto 8 c.toNat []

/-- The quote of a text: the apostrophe unless only it occurs. -/
def quoteFor (cs : List Char) : Char :=
  if cs.contains '\'' && !cs.contains '"' then '"' else '\''

/-- A symbol inside a quoted text: a half is always escaped. -/
def quoteSymbol (quote : Char) : Text.Symbol → List Char
  | .char c => quoteChar quote c
  | .half distance => '\\' :: 'u' :: hexOnto 4 (Text.Symbol.half distance).code []

/-- The symbols of a text in quotes. -/
def quotedSymbols (symbols : List Text.Symbol) : List Char :=
  let q := quoteFor (symbols.filterMap Text.Symbol.char?)
  q :: (symbols.flatMap (quoteSymbol q) ++ [q])

/-- A text in quotes. -/
def quoted (s : String) : List Char :=
  quotedSymbols (Text.Symbol.ofChars s.toList)

/-- Bytes in quotes: printing ASCII as itself, everything else as two hexadecimal digits. -/
def quotedBytes (bs : List UInt8) : List Char :=
  let cs := bs.map fun b => Char.ofNat b.toNat
  let q := quoteFor cs
  let shown (c : Char) : List Char :=
    if c.toNat < 0x7F then quoteChar q c else '\\' :: 'x' :: hexOnto 2 c.toNat []
  'b' :: q :: (cs.flatMap shown ++ [q])

mutual

/-- The literal of a value. -/
def literal : Value → List Char
  | .null => "None".toList
  | .bool b => (if b then "True" else "False").toList
  | .int n => Decimal.integer n
  | .float x => x.text.toList
  | .text s => quoted s
  | .broken symbols => quotedSymbols symbols
  | .bytes bs => quotedBytes bs
  | .list items => '[' :: (literals items ++ [']'])
  | .map entries => '{' :: (entryLiterals entries ++ ['}'])
  | .set members => '{' :: (literals members ++ ['}'])
  | .moment => "datetime".toList

/-- The literals of several values, with a comma and a space between them. -/
def literals : List Value → List Char
  | [] => []
  | [v] => literal v
  | v :: vs => literal v ++ ',' :: ' ' :: literals vs

/-- The literals of the entries of a mapping. -/
def entryLiterals : List (Value × Value) → List Char
  | [] => []
  | [(k, v)] => literal k ++ ':' :: ' ' :: literal v
  | (k, v) :: es => literal k ++ ':' :: ' ' :: (literal v ++ ',' :: ' ' :: entryLiterals es)

end

/-- The text of a value in a message: a text stands for itself, everything else for its literal. -/
def display : Value → String
  | .text s => s
  | .broken symbols => Text.Symbol.joined symbols
  | v => String.ofList v.literal

end RollCall.Value
