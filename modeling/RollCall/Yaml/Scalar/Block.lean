import RollCall.Decimal.Digits
import RollCall.Yaml.Cursor
import RollCall.Yaml.Fault

/-!
# Block scalars

A block scalar is made of the indented lines below its header. A literal one keeps its line breaks;
a folded one makes a space of a single break between two lines that do not begin with a blank. The
header may say how deep the lines are indented, and whether the line breaks at the end are dropped,
cut down to one, or kept.

## Main definitions

* `Block.scan`: the block scalar at a cursor.
-/

namespace RollCall.Yaml.Block

/-- What becomes of the line breaks at the end. -/
inductive Ending
  /-- None is left. -/
  | drop
  /-- The first is left. -/
  | cut
  /-- All are left. -/
  | keep
  deriving DecidableEq, Repr

/-- What a header says: the ending and the additional indentation. -/
structure Header where
  ending : Ending
  increment : Option Nat
  deriving DecidableEq, Repr

/-- The ending that a mark asks for. -/
def ending? : Option Char → Option Ending
  | some '+' => some .keep
  | some '-' => some .drop
  | _ => none

/-- The additional indentation that a digit asks for; a zero is a fault. -/
def increment? : Option Char → Reading (Option Nat)
  | some c =>
    if Decimal.isDigit c then
      if Decimal.digitValue c = 0 then malformed else .ok (some (Decimal.digitValue c))
    else .ok none
  | none => .ok none

/-- The marks of a header in either order, and the cursor behind them. -/
def marks (c : Cursor) : Reading (Header × Cursor) := do
  match ending? c.next? with
  | some ending =>
    let c := c.advance 1
    match ← increment? c.next? with
    | some n => return (⟨ending, some n⟩, c.advance 1)
    | none => return (⟨ending, none⟩, c)
  | none =>
    match ← increment? c.next? with
    | some n =>
      let c := c.advance 1
      match ending? c.next? with
      | some ending => return (⟨ending, some n⟩, c.advance 1)
      | none => return (⟨.cut, some n⟩, c)
    | none => return (⟨.cut, none⟩, c)

/-- The header of a block scalar after its first mark, and the cursor at the next line. -/
def header (c : Cursor) : Reading (Header × Cursor) := do
  let (h, c) ← marks c
  require (isStop c.next?)
  let c := c.skipSpaces.skipComment
  require (isLineEnd c.next?)
  return (h, c.takeBreak.2)

/-- The empty lines at the front of a text, as their breaks in reverse, the greatest column reached
in them, and the cursor behind them. -/
def leadingOnto (breaks : List Char) (deepest : Nat) (place : Place) :
    List Char → List Char × Nat × Cursor
  | [] => (breaks, deepest, ⟨place, []⟩)
  | c :: cs =>
    if c == ' ' then
      leadingOnto breaks (max deepest (place.after c).column) (place.after c) cs
    else if isBreak c then leadingOnto (breakChar c :: breaks) deepest (place.after c) cs
    else (breaks, deepest, ⟨place, c :: cs⟩)

/-- The empty lines at the front of a text, as their breaks in reverse, and the cursor behind them
and behind the indentation of the next line. -/
def emptyOnto (indent : Nat) (breaks : List Char) (place : Place) :
    List Char → List Char × Cursor
  | [] => (breaks, ⟨place, []⟩)
  | c :: cs =>
    if c == ' ' && place.column < indent then emptyOnto indent breaks (place.after c) cs
    else if isBreak c then emptyOnto indent (breakChar c :: breaks) (place.after c) cs
    else (breaks, ⟨place, c :: cs⟩)

/-- How far a block scalar is read: its characters in reverse, the break behind its last line, the
breaks of the empty lines after that in reverse, and the cursor. -/
structure Progress where
  read : List Char
  lastBreak : Option Char
  breaks : List Char
  cursor : Cursor

/-- Whether a line of the scalar begins at the cursor. -/
def Progress.atLine (p : Progress) (indent : Nat) : Bool :=
  p.cursor.place.column == indent && !p.cursor.rest.isEmpty

/-- The characters read with the break before the line that begins at the cursor. `isSolid` says
that the line before did not begin with a blank. -/
def Progress.join (p : Progress) (isFolded isSolid : Bool) : List Char :=
  let folds := isFolded && p.lastBreak == some '\n' && isSolid && !p.cursor.next?.any isPad
  if folds then (if p.breaks.isEmpty then ' ' :: p.read else p.read)
  else p.lastBreak.toList ++ p.read

/-- The rest of a block scalar whose lines are indented by `indent`; there are no more lines than
the text `fuel` has characters. -/
def linesOnto (isFolded : Bool) (indent : Nat) : List Char → Progress → Progress
  | [], p => p
  | _ :: fuel, p =>
    if p.atLine indent then
      let isSolid := !p.cursor.next?.any isPad
      let (line, c) := p.cursor.takeWhile fun d => !isBreak d
      let (lastBreak, c) := c.takeBreak
      let (breaks, c) := emptyOnto indent [] c.place c.rest
      let p : Progress := ⟨line.reverseAux (p.breaks ++ p.read), lastBreak, breaks, c⟩
      if p.atLine indent then
        linesOnto isFolded indent fuel { p with read := p.join isFolded isSolid }
      else p
    else p

/-- The characters of a block scalar, with the breaks at its end. -/
def Progress.text (p : Progress) (ending : Ending) : List Char :=
  match ending with
  | .drop => p.read.reverse
  | .cut => (p.lastBreak.toList ++ p.read).reverse
  | .keep => (p.breaks ++ (p.lastBreak.toList ++ p.read)).reverse

/-- The block scalar at a cursor, which stands at its first mark, and the cursor behind it. Its
lines are indented at least by `least`; unless the header says how deep, the first line that is not
empty does. -/
def scan (isFolded : Bool) (least : Nat) (c : Cursor) : Reading (List Char × Cursor) := do
  let (h, c) ← header (c.advance 1)
  let (indent, breaks, c) :=
    match h.increment with
    | none =>
      let (breaks, deepest, c) := leadingOnto [] 0 c.place c.rest
      (max least deepest, breaks, c)
    | some n =>
      let indent := least + n - 1
      (indent, emptyOnto indent [] c.place c.rest)
  let p := linesOnto isFolded indent c.rest ⟨[], none, breaks, c⟩
  return (p.text h.ending, p.cursor)

end RollCall.Yaml.Block
