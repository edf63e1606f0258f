import RollCall.Binary64.Text
import RollCall.Json.Basic
import RollCall.Value.Literal

/-!
# Writing JSON

JSON text in printable ASCII only: every other character, and DEL, is escaped with four hexadecimal
digits, those above U+FFFF as a pair of surrogates. A `Spacing` says what stands after an item and
after a member's name.

## Main definitions

* `Json.render`: the text of a value.
* `Json.quote`: the text of a string.
-/

namespace RollCall.Json

/-- What separates items, and what separates a name from its value. -/
structure Spacing where
  item : List Char
  name : List Char

/-- No blanks at all. -/
def Spacing.compact : Spacing := ⟨[','], [':']⟩

/-- A space after each separator. -/
def Spacing.airy : Spacing := ⟨[',', ' '], [':', ' ']⟩

/-- The four-digit escape of a UTF-16 unit. -/
def escapeUnit (n : Nat) : List Char :=
  '\\' :: 'u' :: Value.hexOnto 4 n []

/-- A character inside a string. -/
def escapeChar (c : Char) : List Char :=
  if c == '"' then ['\\', '"']
  else if c == '\\' then ['\\', '\\']
  else if c == '\n' then ['\\', 'n']
  else if c == '\r' then ['\\', 'r']
  else if c == '\t' then ['\\', 't']
  else if c.toNat == 8 then ['\\', 'b']
  else if c.toNat == 12 then ['\\', 'f']
  else if 0x20 ≤ c.toNat && c.toNat < 0x7F then [c]
  else if c.toNat < 0x10000 then escapeUnit c.toNat
  else
    let n := c.toNat - 0x10000
    escapeUnit (0xD800 + n / 0x400) ++ escapeUnit (0xDC00 + n % 0x400)

/-- A string in quotation marks. -/
def quote (s : String) : List Char :=
  '"' :: (s.toList.flatMap escapeChar ++ ['"'])

/-- The words for numbers that are not finite. -/
def layout : Binary64.Layout := ⟨-4, 16, 2, "Infinity", "NaN"⟩

mutual

/-- The text of a value. -/
def render (sp : Spacing) : Json → List Char
  | .null => ['n', 'u', 'l', 'l']
  | .bool true => ['t', 'r', 'u', 'e']
  | .bool false => ['f', 'a', 'l', 's', 'e']
  | .int n => Decimal.integer n
  | .real x => layout.render x
  | .text s => quote s
  | .array items => '[' :: (renderItems sp items ++ [']'])
  | .object members => '{' :: (renderMembers sp members ++ ['}'])

/-- The items of an array. -/
def renderItems (sp : Spacing) : List Json → List Char
  | [] => []
  | [v] => render sp v
  | v :: vs => render sp v ++ (sp.item ++ renderItems sp vs)

/-- The members of an object. -/
def renderMembers (sp : Spacing) : List (String × Json) → List Char
  | [] => []
  | [(n, v)] => quote n ++ (sp.name ++ render sp v)
  | (n, v) :: ms => quote n ++ (sp.name ++ (render sp v ++ (sp.item ++ renderMembers sp ms)))

end

end RollCall.Json
