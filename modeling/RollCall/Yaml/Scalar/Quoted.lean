import RollCall.Text.Hex
import RollCall.Text.Symbol
import RollCall.Yaml.Cursor
import RollCall.Yaml.Fault

/-!
# Quoted scalars

A quoted scalar stands between apostrophes or between quotation marks. Its line breaks are folded
and the blanks around them dropped. Between apostrophes, two of them stand for one; between
quotation marks, a backslash begins an escape, which may name half of a surrogate pair.

## Main definitions

* `Quoted.scan`: the quoted scalar at a cursor.
-/

namespace RollCall.Yaml.Quoted

/-- The character that a letter after a backslash stands for. -/
def simpleEscape? : Char → Option Char
  | '0' => some (Char.ofNat 0x00)
  | 'a' => some (Char.ofNat 0x07)
  | 'b' => some (Char.ofNat 0x08)
  | 't' => some '\t'
  | '\t' => some '\t'
  | 'n' => some '\n'
  | 'v' => some (Char.ofNat 0x0B)
  | 'f' => some (Char.ofNat 0x0C)
  | 'r' => some '\r'
  | 'e' => some (Char.ofNat 0x1B)
  | ' ' => some ' '
  | '"' => some '"'
  | '\\' => some '\\'
  | '/' => some '/'
  | 'N' => some (Char.ofNat 0x85)
  | '_' => some (Char.ofNat 0xA0)
  | 'L' => some (Char.ofNat 0x2028)
  | 'P' => some (Char.ofNat 0x2029)
  | _ => none

/-- The number of hexadecimal digits after a letter after a backslash. -/
def escapeWidth? : Char → Option Nat
  | 'x' => some 2
  | 'u' => some 4
  | 'U' => some 8
  | _ => none

/-- How far a scalar is read: its symbols in reverse, and the cursor. -/
structure Progress where
  read : List Text.Symbol
  cursor : Cursor

namespace Progress

/-- One character more, which took `width` characters to write. -/
def push (p : Progress) (c : Char) (width : Nat) : Progress :=
  ⟨.char c :: p.read, p.cursor.advance width⟩

/-- Some characters more, given in reverse, with the cursor behind them. -/
def pushReversed (p : Progress) (cs : List Char) (c : Cursor) : Progress :=
  ⟨Text.Symbol.ofChars cs ++ p.read, c⟩

/-- The symbol of a number more, which took `width` characters to write. -/
def pushNumber (p : Progress) (n width : Nat) : Reading Progress :=
  if 0x7FFFFFFF < n then failed .hugeCharacter
  else
    match Text.Symbol.ofCode? n with
    | some symbol => .ok ⟨symbol :: p.read, p.cursor.advance width⟩
    | none => failed .noCharacter

end Progress

/-- The line breaks at a cursor with the blanks between them, as they are kept, in reverse. A
marker may not begin a line. -/
def breaksOnto (breaks : List Char) (place : Place) (isLineStart : Bool) :
    List Char → Reading (List Char × Cursor)
  | [] => .ok (breaks, ⟨place, []⟩)
  | c :: cs =>
    if isLineStart && isMarker (c :: cs) then malformed
    else if isPad c then breaksOnto breaks (place.after c) false cs
    else if isBreak c then breaksOnto (breakChar c :: breaks) (place.after c) true cs
    else .ok (breaks, ⟨place, c :: cs⟩)

/-- The blanks at the cursor, or the folded line breaks among them. -/
def takeBlanks (p : Progress) : Reading Progress :=
  let (blanks, c) := p.cursor.takeWhile isPad
  match c.takeBreak with
  | (none, c) =>
    if c.rest.isEmpty then malformed else .ok (p.pushReversed blanks.reverse c)
  | (some first, c) =>
    match breaksOnto [] c.place true c.rest with
    | .error f => .error f
    | .ok (more, c) => .ok (p.pushReversed (folded first more.reverse).reverse c)

/-- The escape at the cursor, which stands at a backslash. An escaped line break leaves only the
breaks after it. -/
def takeEscape (p : Progress) : Reading Progress :=
  let after := p.cursor.advance 1
  match after.rest with
  | [] => malformed
  | e :: cs =>
    match simpleEscape? e, escapeWidth? e with
    | some c, _ => .ok (p.push c 2)
    | none, some width =>
      match Text.hexNumber? width 0 cs with
      | some (n, _) => p.pushNumber n (2 + width)
      | none => malformed
    | none, none =>
      if isBreak e then
        match breaksOnto [] (after.place.after e) true cs with
        | .error f => .error f
        | .ok (more, c) => .ok (p.pushReversed more c)
      else malformed

/-- The rest of a scalar that began with `quote`, in no more steps than the text `fuel` has
characters. -/
def scanFrom (quote : Char) : List Char → Progress → Reading Progress
  | [], _ => malformed
  | _ :: fuel, p =>
    match p.cursor.rest with
    | [] => malformed
    | c :: cs =>
      if c == quote then
        if quote == '\'' && cs.head? == some '\'' then scanFrom quote fuel (p.push '\'' 2)
        else .ok ⟨p.read, p.cursor.advance 1⟩
      else if isGap (some c) then
        match takeBlanks p with
        | .error f => .error f
        | .ok p => scanFrom quote fuel p
      else if c == '\\' && quote == '"' then
        match takeEscape p with
        | .error f => .error f
        | .ok p => scanFrom quote fuel p
      else scanFrom quote fuel (p.push c 1)

/-- The symbols of the quoted scalar at a cursor, and the cursor behind it. -/
def scan (quote : Char) (c : Cursor) : Reading (List Text.Symbol × Cursor) :=
  match scanFrom quote c.rest ⟨[], c.advance 1⟩ with
  | .error f => .error f
  | .ok p => .ok (p.read.reverse, p.cursor)

end RollCall.Yaml.Quoted
