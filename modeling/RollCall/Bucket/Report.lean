import RollCall.Bucket.Client

/-!
# Reports of the bucket service

The service answers with objects whose parts are looked up by name. The report about a failed call
has a part for the error and one for the answer itself; either may be missing, but one that is there
has to be an object too. A report that cannot be taken apart is a failure of its own.

## Main definitions

* `Bucket.Report.error`: the error that a report stands for.
* `Bucket.Report.status`: the HTTP status in the report about a call that succeeded.
-/

namespace RollCall.Bucket.Report

/-- The entries of a value that is to be an object. -/
def entries : Value → Except Failure (List (Value × Value))
  | .map es => .ok es
  | v => .error (.noAttribute v.kind "get")

/-- The entries of an optional part; one that is missing has none. -/
def partEntries : Option Value → Except Failure (List (Value × Value))
  | none => .ok []
  | some v => entries v

/-- The part about the answer itself. A value without parts is found out here. -/
def metadata? (report : Value) : Except Failure (Option Value) :=
  match report with
  | .map es => .ok (Value.lookup? "ResponseMetadata" es)
  | .bytes _ => .error .textAmongBytes
  | .text _ | .broken _ | .list _ | .set _ => .error (.noAttribute report.kind "get")
  | _ => .error (.noContents report.kind)

/-- The words about attempts that the client made by itself. -/
def attemptsText (metadata : List (Value × Value)) : String :=
  match Value.lookup? "MaxAttemptsReached" metadata, Value.lookup? "RetryAttempts" metadata with
  | some reached, some attempts =>
    if reached.isTruthy then " (reached max retries: " ++ attempts.display ++ ")" else ""
  | _, _ => ""

/-- The words for the part of an error under a name. -/
def shown (name : String) (error : List (Value × Value)) : String :=
  ((Value.lookup? name error).map Value.display).getD "Unknown"

/-- The error that the report about a failed operation of the service stands for. -/
def error (operation : String) (report : Value) : Except Failure ServiceError := do
  let metadata ← partEntries (← metadata? report)
  let error ← partEntries (report.get? "Error")
  return {
    code := ((Value.lookup? "Code" error).map Value.display).getD ""
    status := (Value.lookup? "HTTPStatusCode" metadata).bind Value.wholeNumber?
    message := "An error occurred (" ++ shown "Code" error ++ ") when calling the " ++ operation ++
      " operation" ++ attemptsText metadata ++ ": " ++ shown "Message" error }

/-- The end of a call that failed with a report. -/
def callError (operation : String) (report : Value) : CallError :=
  match error operation report with
  | .ok e => .service e
  | .error f => .other f

/-- The HTTP status in the report about a call that succeeded; where it says nothing, all is
well. -/
def status (report : Value) : Except Failure (Option Int) := do
  let metadata ← partEntries (report.get? "ResponseMetadata")
  match Value.lookup? "HTTPStatusCode" metadata with
  | none => return some 200
  | some code => return code.wholeNumber?

end RollCall.Bucket.Report
