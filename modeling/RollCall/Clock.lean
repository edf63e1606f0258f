/-!
# The clock

Every moment of this library is a count of milliseconds since the epoch.
-/

namespace RollCall.Clock

/-- The whole milliseconds in a count of nanoseconds. -/
def ofNanos (nanos : Int) : Int :=
  nanos.fdiv 1000000

/-- A moment in the autumn of 2020; a clock that shows less is not set. -/
def earliestPlausible : Int := 1600000000000

/-- Whether a clock reading can be the present. -/
def isPlausible (now : Int) : Bool :=
  earliestPlausible < now

end RollCall.Clock
