import RollCall.Logging.Line

/-!
# Noise

The client of the bucket service logs every request, signature and retry under a few loggers. A
record of one of these loggers, or of a logger below one, is *noisy*. The noise filter leaves
warnings and everything above alone; it demotes any other noisy record to `DEBUG`, also where the
level is shown, and drops it unless `DEBUG` is the level that its logger was given.

The filter sits on the noisy loggers and on the root handlers, so that a record passes it several
times; `passes` is a record's way through a number of filters.

## Main definitions

* `noisyLoggers`: the seven loggers.
* `isNoisy`: whether a logger is one of them or below one.
* `Notice`, `Record`: what is logged, and the record of it.
* `Record.judge`: what the filter makes of a record, and whether it is kept.
* `Record.passes`: the verdicts of several passes, and the record after them.
-/

namespace RollCall.Logging

/-- The loggers that say too much. -/
def noisyLoggers : List String :=
  ["botocore.auth", "botocore.endpoint", "botocore.hooks", "botocore.parsers",
    "botocore.retryhandler", "botocore.credentials", "urllib3.connectionpool"]

/-- Whether a logger is another one or below it; a dot divides a logger from those below. -/
def isWithin (name above : String) : Bool :=
  name == above || (above.toList ++ ['.']).isPrefixOf name.toList

/-- Whether a logger is one of the noisy ones or below one. -/
def isNoisy (name : String) : Bool :=
  noisyLoggers.any fun above => isWithin name above

/-- What is logged: by which logger, and at which level. -/
structure Notice where
  logger : String
  level : Int
  deriving DecidableEq, Repr

/-- A log record, as far as the filter looks at it or changes it. -/
structure Record where
  logger : String
  level : Int
  /-- The level as it is shown. -/
  shown : String
  deriving DecidableEq, Repr

/-- The levels that loggers were given, the latest first. -/
abbrev Levels := List (String × Int)

/-- The level that a logger was given; zero if it was given none. -/
def Levels.of (levels : Levels) (logger : String) : Int :=
  (levels.lookup logger).getD 0

namespace Record

/-- The record of what is logged: its level is shown by the name of the level. -/
def ofNotice (n : Notice) : Record :=
  ⟨n.logger, n.level, levelName n.level⟩

/-- A record with the level `DEBUG`. -/
def demote (r : Record) : Record :=
  { r with level := Level.debug.number, shown := levelName Level.debug.number }

/-- Whether a record is kept by the noise filter, and the record as the filter leaves it. -/
def judge (levels : Levels) (r : Record) : Bool × Record :=
  if !isNoisy r.logger || Level.warning.number ≤ r.level then (true, r)
  else (levels.of r.logger == Level.debug.number, r.demote)

/-- The verdicts of several passes through the filter, and the record after them. -/
def passes (levels : Levels) : Nat → Record → List Bool × Record
  | 0, r => ([], r)
  | n + 1, r =>
    let (kept, r) := r.judge levels
    let (verdicts, r) := passes levels n r
    (kept :: verdicts, r)

end Record

end RollCall.Logging
