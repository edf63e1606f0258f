import RollCall.Failure

/-!
# Faults of a settings file

A file whose text is no document is *malformed*, and nothing more is said about it. A scalar that
announces a number, a word or a point in time and spells none has a failure of its own.
-/

namespace RollCall.Yaml

/-- Why a text has no value. -/
inductive Fault
  /-- The text is no document. -/
  | malformed
  /-- A scalar does not spell what it announces. -/
  | failed (cause : Failure)
  deriving DecidableEq, Repr

/-- The outcome of reading. -/
abbrev Reading (α : Type) : Type := Except Fault α

/-- The outcome of reading a text that is no document. -/
def malformed {α : Type} : Reading α :=
  .error .malformed

/-- The outcome of reading a scalar that does not spell what it announces. -/
def failed {α : Type} (cause : Failure) : Reading α :=
  .error (.failed cause)

/-- Goes on only if a condition holds. -/
def require (condition : Bool) : Reading Unit :=
  if condition then .ok () else malformed

end RollCall.Yaml
