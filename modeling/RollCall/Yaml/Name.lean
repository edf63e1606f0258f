import RollCall.Decimal.Digits
import RollCall.Text.Hex
import RollCall.Text.Utf8
import RollCall.Yaml.Cursor
import RollCall.Yaml.Token

/-!
# Names

Anchors, tags and directives are written with names: words of letters, digits, hyphens and
underscores, and resource identifiers, in which a percent sign and two digits stand for a byte.

## Main definitions

* `Name.anchor`: the name of an anchor.
* `Name.tag`: the tag at a cursor.
* `Name.directive`: the directive at a cursor.
-/

namespace RollCall.Yaml.Name

/-- Whether a character is an ASCII letter or digit. -/
def isLetterOrDigit (c : Char) : Bool :=
  Decimal.isDigit c || ('A' ≤ c && c ≤ 'Z') || ('a' ≤ c && c ≤ 'z')

/-- The characters of words. -/
def isWordChar (c : Char) : Bool :=
  isLetterOrDigit c || c == '-' || c == '_'

/-- The characters of resource identifiers. -/
def isUriChar (c : Char) : Bool :=
  isLetterOrDigit c || "-;/?:@&=+$,_.!~*'()[]%".toList.contains c

/-- The word at a cursor, which may not be empty, and the cursor behind it. -/
def word (c : Cursor) : Reading (String × Cursor) :=
  let (cs, c) := c.takeWhile isWordChar
  if cs.isEmpty then malformed else .ok (String.ofList cs, c)

/-- What may stand behind the name of an anchor. -/
def endsAnchor (next : Option Char) : Bool :=
  isGap next || next.any ("?:,]\x7d%@\x60".toList.contains ·)

/-- The name of an anchor, whose mark stands at the cursor, and the cursor behind it. -/
def anchor (c : Cursor) : Reading (String × Cursor) := do
  let (name, c) ← word (c.advance 1)
  require (endsAnchor c.next?)
  return (name, c)

/-! ### Resource identifiers -/

/-- The bytes that the escapes at the front of a text stand for, in reverse, and the number of
characters that they are written with. -/
def escapedOnto (bytes : List UInt8) (width : Nat) : List Char → Reading (List UInt8 × Nat)
  | '%' :: a :: b :: cs =>
    match Text.hexValue? a, Text.hexValue? b with
    | some a, some b => escapedOnto (UInt8.ofNat (a * 16 + b) :: bytes) (width + 3) cs
    | _, _ => malformed
  | '%' :: _ => malformed
  | _ => .ok (bytes, width)

/-- The characters that the escapes at a cursor stand for, and the cursor behind them. -/
def escaped (c : Cursor) : Reading (List Char × Cursor) := do
  let (bytes, width) ← escapedOnto [] 0 c.rest
  match Utf8.decode bytes.reverse with
  | .ok cs => return (cs, c.advance width)
  | .error _ => malformed

/-- The rest of a resource identifier after the characters read, in reverse. There are no more of
them than the text `fuel` has characters. -/
def uriOnto (fuel read : List Char) (c : Cursor) : Reading (String × Cursor) :=
  match fuel with
  | [] => .ok (String.ofList read.reverse, c)
  | _ :: fuel =>
    match c.next? with
    | some '%' =>
      match escaped c with
      | .ok (cs, c) => uriOnto fuel (cs.reverseAux read) c
      | .error f => .error f
    | next =>
      if next.any isUriChar then uriOnto fuel (next.toList ++ read) (c.advance 1)
      else .ok (String.ofList read.reverse, c)

/-- The resource identifier at a cursor, which may not be empty, and the cursor behind it. -/
def uri (c : Cursor) : Reading (String × Cursor) :=
  if c.next?.any isUriChar then uriOnto c.rest [] c else malformed

/-! ### Tags -/

/-- The handle at a cursor: an exclamation mark, or a word between two of them, and the cursor
behind it. -/
def handle (c : Cursor) : Reading (String × Cursor) := do
  require (c.next? == some '!')
  let c := c.advance 1
  if c.next? == some ' ' then return ("!", c)
  let (cs, c) := c.takeWhile isWordChar
  require (c.next? == some '!')
  return (String.ofList ('!' :: cs ++ ['!']), c.advance 1)

/-- The tag at a cursor, which stands at its exclamation mark, and the cursor behind it. -/
def tag (c : Cursor) : Reading (TagName × Cursor) := do
  let behind := c.advance 1
  let (name, c) ←
    if behind.next? == some '<' then do
      let (suffix, c) ← uri (behind.advance 1)
      require (c.next? == some '>')
      pure (⟨none, suffix⟩, c.advance 1)
    else if isGap behind.next? then pure (⟨none, "!"⟩, behind)
    else if (behind.rest.takeWhile fun d => !isStop (some d)).contains '!' then do
      let (name, c) ← handle c
      let (suffix, c) ← uri c
      pure (⟨some name, suffix⟩, c)
    else do
      let (suffix, c) ← uri behind
      pure (⟨some "!", suffix⟩, c)
  require (isStop c.next?)
  return (name, c)

/-! ### Directives -/

/-- The greatest number of digits of a version. -/
def maxDigits : Nat := 4300

/-- The number at a cursor, and the cursor behind it. -/
def number (c : Cursor) : Reading (Nat × Cursor) :=
  let (ds, c) := c.takeWhile Decimal.isDigit
  if ds.isEmpty then malformed
  else if maxDigits < ds.length then failed (.longNumeral ds.length)
  else .ok (Decimal.ofDigits ds, c)

/-- The two numbers of a version with a point between them; the first counts. -/
def version (c : Cursor) : Reading (Directive × Cursor) := do
  let (major, c) ← number c.skipSpaces
  require (c.next? == some '.')
  let (_, c) ← number (c.advance 1)
  require (isStop c.next?)
  return (.version major, c)

/-- A handle and what it stands for. -/
def handleExpansion (c : Cursor) : Reading (Directive × Cursor) := do
  let (name, c) ← handle c.skipSpaces
  require (c.next? == some ' ')
  let (expansion, c) ← uri c.skipSpaces
  require (isStop c.next?)
  return (.handle name expansion, c)

/-- The directive at a cursor, which stands at its percent sign, and the cursor at the next line. -/
def directive (c : Cursor) : Reading (Directive × Cursor) := do
  let (name, c) ← word (c.advance 1)
  require (isStop c.next?)
  let (d, c) ←
    if name == "YAML" then version c
    else if name == "TAG" then handleExpansion c
    else pure (.other, c.skipWhile fun d => !isBreak d)
  let c := c.skipSpaces.skipComment
  require (isLineEnd c.next?)
  return (d, c.takeBreak.2)

end RollCall.Yaml.Name
