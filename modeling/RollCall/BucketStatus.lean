import RollCall.Value

/-!
# The status of a bucket

What a check of the bucket found, read off the HTTP status of the answer.
-/

namespace RollCall

/-- What a check of the bucket found. -/
inductive BucketStatus
  /-- The bucket is there and may be used. -/
  | existing
  /-- There is no such bucket. -/
  | notExisting
  /-- The credentials do not allow the check. -/
  | noPermission
  /-- The check told nothing. -/
  | other
  deriving DecidableEq, Repr

namespace BucketStatus

/-- Whether the bucket may be used. -/
def isSuccessful (s : BucketStatus) : Bool :=
  s == .existing

/-- The name of a status. -/
def name : BucketStatus → String
  | .existing => "existing"
  | .notExisting => "not_existing"
  | .noPermission => "no_permission"
  | .other => "other"

/-- The status of a name. -/
def ofName? (s : String) : Option BucketStatus :=
  [.existing, .notExisting, .noPermission, .other].find? fun t => t.name == s

/-- The finding that an HTTP status stands for; only 200, 404 and 403 say anything. -/
def ofCode : Option Int → BucketStatus
  | some 200 => .existing
  | some 404 => .notExisting
  | some 403 => .noPermission
  | _ => .other

end BucketStatus

end RollCall
