/-!
# Lines

A text file may end its lines with a line feed, a carriage return, or both in this order.
`unifyEnds` makes a line feed of each, and `lines` divides a text at its line feeds; what follows
the last of them is a line only if it is not empty. Inside a text that is no file, several more
characters end a line; `pieces` divides a text at all of them.
-/

namespace RollCall.Text

/-- The characters before `cs`, in reverse, and `cs` with a line feed for each line end. -/
def unifyOnto (before : List Char) : List Char → List Char
  | [] => before.reverse
  | '\r' :: '\n' :: cs => unifyOnto ('\n' :: before) cs
  | '\r' :: cs => unifyOnto ('\n' :: before) cs
  | c :: cs => unifyOnto (c :: before) cs

/-- A text with a line feed for each line end. -/
def unifyEnds (cs : List Char) : List Char :=
  unifyOnto [] cs

/-- The lines done, in reverse, the characters of the open line, in reverse, and the rest. -/
def linesOnto (done : List (List Char)) (line : List Char) : List Char → List (List Char)
  | [] => (if line.isEmpty then done else line.reverse :: done).reverse
  | c :: cs =>
    if c = '\n' then linesOnto (line.reverse :: done) [] cs else linesOnto done (c :: line) cs

/-- The lines of a text whose line ends are line feeds. -/
def lines (cs : List Char) : List (List Char) :=
  linesOnto [] [] cs

/-- The characters that may end a line: the ASCII controls from the line feed to the carriage return
and three of the ASCII separators, and the line and paragraph ends of Unicode. -/
def isLineEnd (c : Char) : Bool :=
  let n := c.toNat
  (0x0A ≤ n && n ≤ 0x0D) || (0x1C ≤ n && n ≤ 0x1E) || n == 0x85 || n == 0x2028 || n == 0x2029

/-- What stands between the characters of a text that may end a line. -/
def pieces (cs : List Char) : List (List Char) :=
  cs.splitOnP isLineEnd

end RollCall.Text
