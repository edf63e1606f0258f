/-!
# Cursors

A settings file is read through a *cursor*: the characters that are still to be read, and the place
of the first of them. Indentation has a meaning, so a place knows its column; a line break begins a
new line at column zero, and a byte-order mark takes up no column.

The questions about what stands at a cursor have the end of the text as one of their answers: it
counts as a line end, and therefore as a gap.

## Main definitions

* `Place`, `Cursor`: where reading stands.
* `Cursor.skipWhile`, `Cursor.takeWhile`, `Cursor.takeBreak`: reading on.
* `isMarker`: whether a text begins with the line that begins or ends a document.
-/

namespace RollCall.Yaml

/-! ### Characters -/

/-- The characters that end a line. -/
def isBreak (c : Char) : Bool :=
  c == '\n' || c.toNat == 0x85 || c.toNat == 0x2028 || c.toNat == 0x2029

/-- The character that a line break leaves in a text: the two separators of Unicode stay, every
other break becomes a line feed. -/
def breakChar (c : Char) : Char :=
  if c.toNat == 0x85 then '\n' else c

/-- Whether a character is a space or a tab. -/
def isPad (c : Char) : Bool :=
  c == ' ' || c == '\t'

/-- The characters that a file may hold: no controls but the tab and the line breaks, and no
noncharacters of the first plane. -/
def isAllowed (c : Char) : Bool :=
  let n := c.toNat
  n == 0x09 || n == 0x0A || n == 0x0D || (0x20 ≤ n && n ≤ 0x7E) || n == 0x85 ||
    (0xA0 ≤ n && n ≤ 0xD7FF) || (0xE000 ≤ n && n ≤ 0xFFFD) || 0x10000 ≤ n

/-- Whether a line ends here. -/
def isLineEnd : Option Char → Bool
  | none => true
  | some c => isBreak c

/-- Whether a line ends here or a space stands here. -/
def isStop : Option Char → Bool
  | none => true
  | some c => c == ' ' || isBreak c

/-- Whether a line ends here or a space or a tab stands here. -/
def isGap : Option Char → Bool
  | none => true
  | some c => isPad c || isBreak c

/-- Whether a text begins with three hyphens or three points, and a gap. -/
def isMarker : List Char → Bool
  | '-' :: '-' :: '-' :: cs => isGap cs.head?
  | '.' :: '.' :: '.' :: cs => isGap cs.head?
  | _ => false

/-! ### Places -/

/-- The place of a character in a text: how many characters, and how many lines, come before it,
and how far it is from the beginning of its line. -/
structure Place where
  index : Nat
  line : Nat
  column : Nat
  deriving DecidableEq, Repr

/-- The place behind a character. -/
def Place.after (p : Place) (c : Char) : Place :=
  if isBreak c then ⟨p.index + 1, p.line + 1, 0⟩
  else if c.toNat == 0xFEFF then ⟨p.index + 1, p.line, p.column⟩
  else ⟨p.index + 1, p.line, p.column + 1⟩

/-! ### Cursors -/

/-- How far a text is read. -/
structure Cursor where
  place : Place
  rest : List Char
  deriving DecidableEq, Repr

namespace Cursor

/-- The beginning of a text; a byte-order mark there is passed over. -/
def start : List Char → Cursor
  | [] => ⟨⟨0, 0, 0⟩, []⟩
  | c :: cs => if c.toNat == 0xFEFF then ⟨⟨1, 0, 0⟩, cs⟩ else ⟨⟨0, 0, 0⟩, c :: cs⟩

/-- The character that is read next. -/
def next? (c : Cursor) : Option Char :=
  c.rest.head?

/-- The cursor behind `n` characters. -/
def advance (n : Nat) (c : Cursor) : Cursor :=
  ⟨(c.rest.take n).foldl Place.after c.place, c.rest.drop n⟩

/-- The cursor in a text from a place on, once the characters at its front that satisfy `p` are
read. -/
def skipFrom (p : Char → Bool) (place : Place) : List Char → Cursor
  | [] => ⟨place, []⟩
  | c :: cs => if p c then skipFrom p (place.after c) cs else ⟨place, c :: cs⟩

/-- The cursor behind the characters that satisfy `p`. -/
def skipWhile (p : Char → Bool) (c : Cursor) : Cursor :=
  skipFrom p c.place c.rest

/-- The characters that satisfy `p`, and the cursor behind them. -/
def takeWhile (p : Char → Bool) (c : Cursor) : List Char × Cursor :=
  (c.rest.takeWhile p, c.skipWhile p)

/-- The cursor behind the spaces. -/
def skipSpaces (c : Cursor) : Cursor :=
  c.skipWhile (· == ' ')

/-- The cursor at the end of a comment, if one begins here. -/
def skipComment (c : Cursor) : Cursor :=
  if c.next? == some '#' then c.skipWhile fun d => !isBreak d else c

/-- The line break here, as it is kept in a text, and the cursor behind it. -/
def takeBreak (c : Cursor) : Option Char × Cursor :=
  match c.rest with
  | d :: cs => if isBreak d then (some (breakChar d), ⟨c.place.after d, cs⟩) else (none, c)
  | [] => (none, c)

/-! ### Nothing is lost -/

theorem takeWhile_append_skipFrom (p : Char → Bool) (place : Place) (cs : List Char) :
    cs.takeWhile p ++ (skipFrom p place cs).rest = cs := by
  induction cs generalizing place with
  | nil => rfl
  | cons c cs ih =>
    by_cases h : p c
    · simp [skipFrom, h, ih]
    · simp [skipFrom, h]

/-- What is taken and what is left make up the text. -/
theorem takeWhile_append (p : Char → Bool) (c : Cursor) :
    (c.takeWhile p).1 ++ (c.takeWhile p).2.rest = c.rest :=
  takeWhile_append_skipFrom p c.place c.rest

end Cursor

/-- The text that a line break and the empty lines after it leave between two lines of a text that
is folded: a single line feed becomes a space. -/
def folded (first : Char) (more : List Char) : List Char :=
  if first != '\n' then first :: more
  else if more.isEmpty then [' ']
  else more

end RollCall.Yaml
