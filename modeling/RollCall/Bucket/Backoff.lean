import RollCall.Failure

/-!
# Backoff

When the service asks for patience, a call is repeated after a while: the first time after about
the base delay, then each time after about twice as long as before, with some random addition and
never longer than a maximum. After a number of attempts no more are made.

## Main definitions

* `Bucket.Backoff`: the numbers that rule repetition.
* `Bucket.Backoff.attempts`: how many attempts are made; at least one.
* `Bucket.Backoff.delay`: how long to wait after an attempt.
-/

namespace RollCall.Bucket

/-- The numbers that rule repetition; `jitter` is the random part of each delay, as a fraction of
the base delay. -/
structure Backoff where
  maxAttempts : Int
  baseDelay : Binary64
  maxDelay : Binary64
  jitter : Binary64
  deriving DecidableEq, Repr

namespace Backoff

/-- Four attempts, with delays from 0.2 to 2 seconds. -/
def standard : Backoff :=
  ⟨4, .ofDecimal false 2 (-1), .ofInt 2, .zero false⟩

/-- How many attempts are made; at least one. -/
def attempts (b : Backoff) : Nat :=
  max 1 b.maxAttempts.toNat

/-- The exponent from which powers of two are beyond floating-point numbers. -/
def powerLimit : Nat := 1024

/-- A random number between zero and the base delay. -/
def noise (b : Backoff) : Binary64 :=
  (Binary64.zero false).add ((b.baseDelay.sub (.zero false)).mul b.jitter)

/-- How long to wait after an attempt, where attempts are counted from zero. -/
def delay (b : Backoff) (attempt : Nat) : Except Failure Binary64 :=
  if powerLimit ≤ attempt then .error .hugePower
  else .ok (((b.baseDelay.mul (.ofInt (Binary64.power 2 attempt))).add b.noise).min b.maxDelay)

end Backoff

end RollCall.Bucket
