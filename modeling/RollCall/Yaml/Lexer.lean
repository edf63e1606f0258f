import RollCall.Yaml.Name
import RollCall.Yaml.Scalar.Block
import RollCall.Yaml.Scalar.Plain
import RollCall.Yaml.Scalar.Quoted

/-!
# The tokens of a text

Tokens are read from left to right, one mark, name or scalar at a time. Outside brackets, the
columns at which block collections are open form a stack: a token further to the right opens a
collection where one may begin, and a token further to the left closes all that are deeper.

A scalar, a collection in brackets, an anchor, a tag or an alias may turn out to be a key: whether
it is one only a colon behind it shows, which must come on the same line and within `keyReach`
characters. At most one such *candidate* waits at each level of brackets. A candidate that stands
where a block mapping goes on has to be a key.

## Main definitions

* `Lexer`: how far a text is read, and the tokens read.
* `Lexer.step`: the next mark, name or scalar.
* `tokens`: the tokens of a whole text.
-/

namespace RollCall.Yaml

/-- Something that may turn out to be a key: the number of tokens before it, whether it has to be
one, and where it stands. -/
structure Candidate where
  position : Nat
  isRequired : Bool
  place : Place
  deriving DecidableEq, Repr

/-- How far a text is read: the cursor, the tokens in reverse and their number, the columns of the
open block collections with the innermost first, whether a key may begin here, the candidate of
this level of brackets and those of the levels around it, and whether the text is at its end. -/
structure Lexer where
  cursor : Cursor
  read : List Token
  count : Nat
  columns : List Nat
  allowsKey : Bool
  candidate : Option Candidate
  outer : List (Option Candidate)
  isDone : Bool

namespace Lexer

/-- The beginning of a text. -/
def start (text : List Char) : Lexer :=
  ⟨.start text, [], 0, [], true, none, [], false⟩

/-- Whether the cursor is inside brackets. -/
def inFlow (l : Lexer) : Bool :=
  !l.outer.isEmpty

/-- The first column behind the one at which the innermost block collection is open. -/
def leastColumn (l : Lexer) : Nat :=
  match l.columns with
  | [] => 0
  | n :: _ => n + 1

/-- The column of the cursor. -/
def column (l : Lexer) : Nat :=
  l.cursor.place.column

/-! ### Tokens -/

/-- One token more. -/
def emit (l : Lexer) (t : Token) : Lexer :=
  { l with read := t :: l.read, count := l.count + 1 }

/-- One token more in front of the token with `position` tokens before it. -/
def emitAt (l : Lexer) (position : Nat) (t : Token) : Lexer :=
  { l with read := l.read.insertIdx (l.count - position) t, count := l.count + 1 }

/-- One token more, with the cursor behind it. -/
def emitTo (l : Lexer) (t : Token) (c : Cursor) : Lexer :=
  { l.emit t with cursor := c }

/-! ### Candidates for keys -/

/-- The number of characters within which a key must be known to be one. -/
def keyReach : Nat := 1024

/-- Whether a candidate can no longer be a key. -/
def isStale (l : Lexer) (k : Candidate) : Bool :=
  k.place.line != l.cursor.place.line || keyReach < l.cursor.place.index - k.place.index

/-- What is left of a candidate at the cursor. One that had to be a key must not become stale. -/
def fresh (l : Lexer) : Option Candidate → Reading (Option Candidate)
  | none => .ok none
  | some k =>
    if !l.isStale k then .ok (some k)
    else if k.isRequired then malformed
    else .ok none

/-- The candidates that are left at the cursor. -/
def dropStale (l : Lexer) : Reading Lexer := do
  let outer ← l.outer.mapM l.fresh
  let candidate ← l.fresh l.candidate
  return { l with candidate, outer }

/-- Without the candidate of this level, which must not have to be a key. -/
def dropCandidate (l : Lexer) : Reading Lexer :=
  match l.candidate with
  | none => .ok l
  | some k => if k.isRequired then malformed else .ok { l with candidate := none }

/-- With what comes next as the candidate of this level, if a key may begin here. -/
def saveCandidate (l : Lexer) : Reading Lexer := do
  if l.allowsKey then
    let l ← l.dropCandidate
    let isRequired := !l.inFlow && l.columns.head? == some l.column
    return { l with candidate := some ⟨l.count, isRequired, l.cursor.place⟩ }
  else return l

/-! ### Block collections -/

/-- The block collections deeper than a column are closed; inside brackets there are none. -/
def closeDeeper (l : Lexer) (isDeeper : Nat → Bool) : Lexer :=
  if l.inFlow then l
  else
    let closed := l.columns.takeWhile isDeeper
    { l with
      read := closed.foldl (fun ts _ => .blockEnd :: ts) l.read
      count := l.count + closed.length
      columns := l.columns.drop closed.length }

/-- The block collections that are deeper than the cursor are closed. -/
def closeToColumn (l : Lexer) : Lexer :=
  l.closeDeeper fun n => l.column < n

/-- All block collections are closed. -/
def closeAll (l : Lexer) : Lexer :=
  l.closeDeeper fun _ => true

/-- Opens a block collection at a column, unless one is open there, with its token in front of the
token with `position` tokens before it. -/
def openAt (l : Lexer) (column position : Nat) (t : Token) : Lexer :=
  if l.leastColumn ≤ column then
    { l.emitAt position t with columns := column :: l.columns }
  else l

/-- Opens a block collection at the cursor, unless one is open there. -/
def openHere (l : Lexer) (t : Token) : Lexer :=
  l.openAt l.column l.count t

/-! ### Marks -/

/-- Whether a line ended in the spaces, comments and line breaks at the front of a text, and the
cursor behind them. -/
def passFrom (inComment brokeLine : Bool) (place : Place) : List Char → Bool × Cursor
  | [] => (brokeLine, ⟨place, []⟩)
  | c :: cs =>
    if isBreak c then passFrom false true (place.after c) cs
    else if inComment || c == ' ' then passFrom inComment brokeLine (place.after c) cs
    else if c == '#' then passFrom true brokeLine (place.after c) cs
    else (brokeLine, ⟨place, c :: cs⟩)

/-- Passes spaces, comments and line breaks. Behind a line break outside brackets a key may
begin. -/
def toNext (l : Lexer) : Lexer :=
  let (brokeLine, c) := passFrom false false l.cursor.place l.cursor.rest
  { l with cursor := c, allowsKey := l.allowsKey || (brokeLine && !l.inFlow) }

/-- The end of the text. -/
def finish (l : Lexer) : Reading Lexer := do
  let l ← l.closeAll.dropCandidate
  return { l.emit .finish with isDone := true }

/-- A directive. -/
def directive (l : Lexer) : Reading Lexer := do
  let l ← l.closeAll.dropCandidate
  let (d, c) ← Name.directive l.cursor
  return { l.emitTo (.directive d) c with allowsKey := false }

/-- The line that begins or ends a document. -/
def marker (l : Lexer) (t : Token) : Reading Lexer := do
  let l ← l.closeAll.dropCandidate
  return { l.emitTo t (l.cursor.advance 3) with allowsKey := false }

/-- A bracket that opens a flow collection. -/
def openFlow (l : Lexer) (t : Token) : Reading Lexer := do
  let l ← l.saveCandidate
  if maxDepth < l.outer.length then failed .tooDeep
  return { l.emitTo t (l.cursor.advance 1) with
    allowsKey := true, candidate := none, outer := l.candidate :: l.outer }

/-- A bracket that closes a flow collection, of which there must be one. -/
def closeFlow (l : Lexer) (t : Token) : Reading Lexer := do
  let l ← l.dropCandidate
  match l.outer with
  | [] => malformed
  | candidate :: outer =>
    return { l.emitTo t (l.cursor.advance 1) with allowsKey := false, candidate, outer }

/-- The comma between the entries of a flow collection. -/
def comma (l : Lexer) : Reading Lexer := do
  let l ← l.dropCandidate
  return { l.emitTo .comma (l.cursor.advance 1) with allowsKey := true }

/-- The hyphen before an entry of a block sequence. -/
def dash (l : Lexer) : Reading Lexer := do
  require (l.inFlow || l.allowsKey)
  let l := if l.inFlow then l else l.openHere .blockSequence
  let l ← l.dropCandidate
  return { l.emitTo .dash (l.cursor.advance 1) with allowsKey := true }

/-- The question mark before a key. -/
def key (l : Lexer) : Reading Lexer := do
  require (l.inFlow || l.allowsKey)
  let l := if l.inFlow then l else l.openHere .blockMapping
  let l ← l.dropCandidate
  return { l.emitTo .key (l.cursor.advance 1) with allowsKey := !l.inFlow }

/-- The colon before a value. A candidate of this level is now a key; without one, a value with no
key before it may begin a mapping. -/
def value (l : Lexer) : Reading Lexer :=
  match l.candidate with
  | some k =>
    let l := l.emitAt k.position .key
    let l := if l.inFlow then l else l.openAt k.place.column k.position .blockMapping
    .ok { l.emitTo .value (l.cursor.advance 1) with allowsKey := false, candidate := none }
  | none => do
    require (l.inFlow || l.allowsKey)
    let l := if l.inFlow then l else l.openHere .blockMapping
    return { l.emitTo .value (l.cursor.advance 1) with allowsKey := !l.inFlow }

/-! ### Names and scalars -/

/-- An alias or the name of an anchor. -/
def name (l : Lexer) (token : String → Token) : Reading Lexer := do
  let l ← l.saveCandidate
  let (name, c) ← Name.anchor l.cursor
  return { l.emitTo (token name) c with allowsKey := false }

/-- A tag. -/
def tag (l : Lexer) : Reading Lexer := do
  let l ← l.saveCandidate
  let (name, c) ← Name.tag l.cursor
  return { l.emitTo (.tag name) c with allowsKey := false }

/-- A block scalar. -/
def block (l : Lexer) (isFolded : Bool) : Reading Lexer := do
  let l ← l.dropCandidate
  let (text, c) ← Block.scan isFolded (max l.leastColumn 1) l.cursor
  return { l.emitTo (.scalar (Text.Symbol.ofChars text) false) c with allowsKey := true }

/-- A scalar in quotes. -/
def quoted (l : Lexer) (quote : Char) : Reading Lexer := do
  let l ← l.saveCandidate
  let (text, c) ← Quoted.scan quote l.cursor
  return { l.emitTo (.scalar text false) c with allowsKey := false }

/-- A scalar without quotes. -/
def plain (l : Lexer) : Reading Lexer := do
  let l ← l.saveCandidate
  let found := Plain.scan l.inFlow l.leastColumn l.cursor
  return { l.emitTo (.scalar (Text.Symbol.ofChars found.text) true) found.cursor with
    allowsKey := found.brokeLine }

/-- The characters that begin something else than a plain scalar. -/
def isIndicator (c : Char) : Bool :=
  "-?:,[]\x7b\x7d#&*!|>'\"%@\x60".toList.contains c

/-- Whether a plain scalar begins with a character before another. -/
def beginsPlain (inFlow : Bool) (c : Char) (next : Option Char) : Bool :=
  !(isGap (some c) || isIndicator c) ||
    (!isGap next && (c == '-' || (!inFlow && (c == '?' || c == ':'))))

/-! ### The whole text -/

/-- What begins with the characters `c` and `next`, the first of them at the cursor. -/
def dispatch (l : Lexer) (c : Char) (next : Option Char) : Reading Lexer :=
  if c == '[' then l.openFlow .openBracket
  else if c == '\x7b' then l.openFlow .openBrace
  else if c == ']' then l.closeFlow .closeBracket
  else if c == '\x7d' then l.closeFlow .closeBrace
  else if c == ',' then l.comma
  else if c == '-' && isGap next then l.dash
  else if c == '?' && (l.inFlow || isGap next) then l.key
  else if c == ':' && (l.inFlow || isGap next) then l.value
  else if c == '*' then l.name .alias
  else if c == '&' then l.name .anchor
  else if c == '!' then l.tag
  else if c == '|' && !l.inFlow then l.block false
  else if c == '>' && !l.inFlow then l.block true
  else if c == '\'' || c == '"' then l.quoted c
  else if beginsPlain l.inFlow c next then l.plain
  else malformed

/-- The next mark, name or scalar. -/
def step (l : Lexer) : Reading Lexer := do
  let l ← l.toNext.dropStale
  let l := l.closeToColumn
  match l.cursor.rest with
  | [] => l.finish
  | c :: cs =>
    if l.column == 0 && c == '%' then l.directive
    else if l.column == 0 && isMarker (c :: cs) then
      l.marker (if c == '-' then .documentStart else .documentEnd)
    else l.dispatch c cs.head?

/-- The tokens in front of the first candidate. The token of a key may still come before a
candidate, so what follows is not told before that is settled. -/
def certain (l : Lexer) : List Token :=
  let waiting := (l.candidate :: l.outer).filterMap fun k => k.filter fun k => !l.isStale k
  l.read.reverse.take ((waiting.map (·.position)).foldl min l.count)

/-- The tokens that are read in `fuel` steps at most, up to the first fault. -/
def run : Nat → Lexer → List Token
  | 0, l => l.certain ++ [.broken .malformed]
  | fuel + 1, l =>
    match l.step with
    | .error fault => l.certain ++ [.broken fault]
    | .ok l => if l.isDone then l.read.reverse else run fuel l

end Lexer

/-- The tokens of a text. -/
def tokens (text : List Char) : List Token :=
  if text.all isAllowed then Lexer.run (text.length + 1) (.start text)
  else [.broken .malformed]

end RollCall.Yaml
