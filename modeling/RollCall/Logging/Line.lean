/-!
# Log levels and lines

What the library says about its own work is a list of lines, each with one of four levels.
-/

namespace RollCall.Logging

/-- The name of a level; a level without a name is shown by its number. -/
def levelName (level : Int) : String :=
  if level == 0 then "NOTSET"
  else if level == 10 then "DEBUG"
  else if level == 20 then "INFO"
  else if level == 30 then "WARNING"
  else if level == 40 then "ERROR"
  else if level == 50 then "CRITICAL"
  else "Level " ++ toString level

/-- The levels at which the library writes. -/
inductive Level
  | debug
  | info
  | warning
  | error
  deriving DecidableEq, Repr

/-- The number of a level. -/
def Level.number : Level → Int
  | .debug => 10
  | .info => 20
  | .warning => 30
  | .error => 40

/-- A line of the log. -/
structure Line where
  level : Level
  text : String
  deriving DecidableEq, Repr

/-- A line as it is shown. -/
def Line.shown (l : Line) : String :=
  levelName l.level.number ++ " " ++ l.text

end RollCall.Logging
