import RollCall.Decimal.Digits

/-!
# Points in time

A settings file may hold dates, and dates with a time of day and perhaps an offset from universal
time. `Moment.read?` takes a text of that form apart; `Moment.fault?` is the first thing that keeps
its numbers from being a point in time of the years 1 to 9999.

## Main definitions

* `Moment`: a date with an optional time of day, as its numbers.
* `Moment.read?`: the numbers in a text.
* `Moment.fault?`: the first number that is out of range.
-/

namespace RollCall

/-- Why the numbers of a date or time are no point in time. -/
inductive CalendarFault
  /-- An offset of a day or more, in seconds. -/
  | offset (seconds : Int)
  | year (n : Nat)
  | month
  | day
  | hour
  | minute
  | second
  deriving DecidableEq, Repr

/-- The time of day of a point in time, with the offset from universal time in seconds. -/
structure TimeOfDay where
  hour : Nat
  minute : Nat
  second : Nat
  offset : Option Int
  deriving DecidableEq, Repr

/-- A date, perhaps with a time of day. -/
structure Moment where
  year : Nat
  month : Nat
  day : Nat
  time : Option TimeOfDay
  deriving DecidableEq, Repr

namespace CalendarFault

/-- A span of whole days and the seconds beyond them; only the parts that are not zero are named. -/
def span (seconds : Int) : String :=
  let days := seconds.fdiv 86400
  let rest := seconds.fmod 86400
  let named (name : String) (n : Int) : List String :=
    if n == 0 then [] else [name ++ "=" ++ Decimal.ofInt n]
  "datetime.timedelta(" ++ ", ".intercalate (named "days" days ++ named "seconds" rest) ++ ")"

/-- The wording of a fault. -/
def message : CalendarFault → String
  | .offset seconds =>
    "offset must be a timedelta strictly between -timedelta(hours=24) and timedelta(hours=24), " ++
      "not " ++ span seconds ++ "."
  | .year n => "year " ++ Decimal.ofInt n ++ " is out of range"
  | .month => "month must be in 1..12"
  | .day => "day is out of range for month"
  | .hour => "hour must be in 0..23"
  | .minute => "minute must be in 0..59"
  | .second => "second must be in 0..59"

end CalendarFault

namespace Moment

/-! ### Range -/

/-- Whether a year has a 29th of February. -/
def isLeapYear (year : Nat) : Bool :=
  year % 4 == 0 && (year % 100 != 0 || year % 400 == 0)

/-- The number of days of a month. -/
def daysIn (year month : Nat) : Nat :=
  if month == 2 then (if isLeapYear year then 29 else 28)
  else if [4, 6, 9, 11].contains month then 30
  else 31

/-- The first number of a date that is out of range. -/
def dateFault? (m : Moment) : Option CalendarFault :=
  if m.year < 1 || 9999 < m.year then some (.year m.year)
  else if m.month < 1 || 12 < m.month then some .month
  else if m.day < 1 || daysIn m.year m.month < m.day then some .day
  else none

/-- The first number of a time of day that is out of range. -/
def timeFault? (t : TimeOfDay) : Option CalendarFault :=
  if 23 < t.hour then some .hour
  else if 59 < t.minute then some .minute
  else if 59 < t.second then some .second
  else none

/-- The fault of an offset that is no less than a day. -/
def offsetFault? (t : TimeOfDay) : Option CalendarFault :=
  t.offset.bind fun s => if s.natAbs < 86400 then none else some (.offset s)

/-- The first number of a point in time that is out of range: the offset is looked at first, then
the date, then the time of day. -/
def fault? (m : Moment) : Option CalendarFault :=
  m.time.bind offsetFault? <|> m.dateFault? <|> m.time.bind timeFault?

/-! ### Reading -/

/-- The number that at least `low` and at most `high` digits at the front of a text spell, and the
rest. -/
def digits? (low high : Nat) (cs : List Char) : Option (Nat × List Char) :=
  let ds := (cs.take high).takeWhile Decimal.isDigit
  if ds.length < low then none else some (Decimal.ofDigits ds, cs.drop ds.length)

/-- The text after the character `c`, if that is at its front. -/
def after? (c : Char) : List Char → Option (List Char)
  | d :: cs => if d = c then some cs else none
  | [] => none

/-- Whether a character is a space or a tab. -/
def isPad (c : Char) : Bool :=
  c == ' ' || c == '\t'

/-- The text after what parts a date from a time: a letter T, or spaces and tabs. -/
def afterParting? : List Char → Option (List Char)
  | [] => none
  | c :: cs =>
    if c == 'T' || c == 't' then some cs
    else if isPad c then some (cs.dropWhile isPad)
    else none

/-- The text after the fraction of a second at its front, if there is one. -/
def afterFraction : List Char → List Char
  | '.' :: cs => cs.dropWhile Decimal.isDigit
  | cs => cs

/-- The offset at the front of a text after its sign: hours, and minutes behind a colon. -/
def signedOffset? (negative : Bool) (cs : List Char) : Option (Int × List Char) := do
  let (hours, cs) ← digits? 1 2 cs
  let (minutes, cs) ←
    match cs with
    | ':' :: cs => digits? 2 2 cs
    | cs => some (0, cs)
  let seconds : Int := hours * 3600 + minutes * 60
  return (if negative then -seconds else seconds, cs)

/-- The offset that makes up a text, with spaces and tabs before it; an empty text has none. -/
def offset? (cs : List Char) : Option (Option Int) :=
  if cs.isEmpty then some none
  else
    let found :=
      match cs.dropWhile isPad with
      | 'Z' :: cs => some (0, cs)
      | '+' :: cs => signedOffset? false cs
      | '-' :: cs => signedOffset? true cs
      | _ => none
    match found with
    | some (seconds, []) => some (some seconds)
    | _ => none

/-- The time of day that makes up a text. -/
def time? (cs : List Char) : Option TimeOfDay := do
  let (hour, cs) ← digits? 1 2 cs
  let (minute, cs) ← digits? 2 2 (← after? ':' cs)
  let (second, cs) ← digits? 2 2 (← after? ':' cs)
  return ⟨hour, minute, second, ← offset? (afterFraction cs)⟩

/-- The date, perhaps with a time of day, that makes up a text. -/
def read? (cs : List Char) : Option Moment := do
  let (year, cs) ← digits? 4 4 cs
  let (month, cs) ← digits? 1 2 (← after? '-' cs)
  let (day, cs) ← digits? 1 2 (← after? '-' cs)
  if cs.isEmpty then return ⟨year, month, day, none⟩
  else return ⟨year, month, day, some (← time? (← afterParting? cs))⟩

end Moment

end RollCall
