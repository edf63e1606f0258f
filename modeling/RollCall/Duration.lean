import RollCall.Failure
import RollCall.Value

/-!
# Durations

Settings give durations in seconds; clocks count milliseconds. A whole number of seconds is counted
exactly. Any other is multiplied by a thousand, which rounds once, and what is left below a
millisecond is dropped.
-/

namespace RollCall.Duration

/-- The milliseconds in a floating-point number of seconds. -/
def millis (seconds : Binary64) : Except Failure Int :=
  match seconds.mul (.ofInt 1000) with
  | .nan => .error .meaninglessDuration
  | .infinite _ => .error .infiniteDuration
  | x => .ok (x.truncate?.getD 0)

/-- The milliseconds in a value that stands for a number of seconds; truth values count as one and
zero. -/
def ofValue : Value → Except Failure Int
  | .int n => .ok (n * 1000)
  | .bool b => .ok (if b then 1000 else 0)
  | .float x => millis x
  | _ => .error (.badValue "not a number of seconds")

end RollCall.Duration
