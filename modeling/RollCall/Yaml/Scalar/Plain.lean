import RollCall.Yaml.Cursor

/-!
# Plain scalars

A plain scalar has no quotes around it. It consists of runs of characters with spaces and line
breaks between them, and ends where a colon or a number sign has a meaning, where the indentation
goes back, at a marker, and at the end of the text. Inside brackets the marks of flow collections
end it as well.

## Main definitions

* `Plain.scan`: the plain scalar at a cursor.
-/

namespace RollCall.Yaml.Plain

/-- The marks of flow collections. -/
def isFlowMark (c : Char) : Bool :=
  c == ',' || c == '[' || c == ']' || c == '{' || c == '}'

/-- Whether a run of a plain scalar ends before the text. -/
def endsRun (inFlow : Bool) : List Char → Bool
  | [] => true
  | c :: cs =>
    isGap (some c) || (c == ':' && (isGap cs.head? || (inFlow && cs.head?.any isFlowMark))) ||
      (inFlow && (c == '?' || isFlowMark c))

/-- The characters of a run in front of `read`, in reverse, and the cursor behind it. -/
def runOnto (inFlow : Bool) (read : List Char) (place : Place) : List Char → List Char × Cursor
  | [] => (read, ⟨place, []⟩)
  | c :: cs =>
    if endsRun inFlow (c :: cs) then (read, ⟨place, c :: cs⟩)
    else runOnto inFlow (c :: read) (place.after c) cs

/-- What stands between two runs: the text it leaves, whether a line ended, and the cursor behind
it. Nothing is left where the scalar cannot go on. -/
structure Between where
  text : List Char
  brokeLine : Bool
  cursor : Cursor

/-- The further line breaks after the first, unless a marker follows one of them, and the cursor
behind the spaces and breaks. -/
def breaksOnto (breaks : List Char) (place : Place) : List Char → Option (List Char) × Cursor
  | [] => (some breaks.reverse, ⟨place, []⟩)
  | c :: cs =>
    if c == ' ' then breaksOnto breaks (place.after c) cs
    else if isBreak c then
      if isMarker cs then (none, ⟨place.after c, cs⟩)
      else breaksOnto (breakChar c :: breaks) (place.after c) cs
    else (some breaks.reverse, ⟨place, c :: cs⟩)

/-- What stands between two runs. -/
def between (c : Cursor) : Between :=
  let (spaces, c) := c.takeWhile (· == ' ')
  match c.takeBreak with
  | (none, c) => ⟨spaces, false, c⟩
  | (some first, c) =>
    if isMarker c.rest then ⟨[], true, c⟩
    else
      match breaksOnto [] c.place c.rest with
      | (none, c) => ⟨[], true, c⟩
      | (some more, c) => ⟨folded first more, true, c⟩

/-- A plain scalar: its characters, whether a line ended behind its last run, and the cursor behind
it. -/
structure Found where
  text : List Char
  brokeLine : Bool
  cursor : Cursor

/-- The scalar of the characters read, in reverse, and those still to come, where `gap` stands
before the cursor. A line may go on only from the column `indent`. There are no more runs than the
text `fuel` has characters. -/
def scanOnto (inFlow : Bool) (indent : Nat) (fuel read : List Char) (gap : Between) : Found :=
  match fuel with
  | [] => ⟨read.reverse, gap.brokeLine, gap.cursor⟩
  | _ :: fuel =>
    let c := gap.cursor
    if c.next? == some '#' || endsRun inFlow c.rest then ⟨read.reverse, gap.brokeLine, c⟩
    else
      let (read, c) := runOnto inFlow (gap.text.reverseAux read) c.place c.rest
      let gap := between c
      if gap.text.isEmpty || (!inFlow && gap.cursor.place.column < indent) then
        ⟨read.reverse, gap.brokeLine, gap.cursor⟩
      else scanOnto inFlow indent fuel read gap

/-- The plain scalar at a cursor. -/
def scan (inFlow : Bool) (indent : Nat) (c : Cursor) : Found :=
  scanOnto inFlow indent c.rest [] ⟨[], false, c⟩

end RollCall.Yaml.Plain
