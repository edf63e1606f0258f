import RollCall.Decimal.Digits
import RollCall.Operation

/-!
# Tallies

A tally counts what happened: queries, skipped records, announcements and calls to the store. Next
to the counts it holds, per cluster, how many peers the last answered query found.

## Main definitions

* `Tally`, `Tally.count`, `Tally.found?`.
* `Tally.bump`, `Tally.setFound`: the two changes.
* `Tally.lines`: a tally as sorted lines of text.
-/

namespace RollCall

/-- Why a query skips a listed record. -/
inductive SkipReason
  /-- It was gone when it was read. -/
  | vanished
  /-- It could not be read. -/
  | unreadable
  /-- It is no record. -/
  | malformed
  /-- It no longer counts. -/
  | expired
  /-- It names the node that asks. -/
  | own
  /-- It names another cluster. -/
  | foreign
  deriving DecidableEq, Repr

/-- The name of a reason in counts. -/
def SkipReason.name : SkipReason → String
  | .vanished => "vanished"
  | .unreadable => "read_failed"
  | .malformed => "malformed"
  | .expired => "expired"
  | .own => "self"
  | .foreign => "cluster_mismatch"

/-- What became of one call to the store. -/
inductive CallOutcome
  | success
  | notFound
  | throttled
  | error
  deriving DecidableEq, Repr

/-- The name of an outcome in counts. -/
def CallOutcome.name : CallOutcome → String
  | .success => "success"
  | .notFound => "not_found"
  | .throttled => "throttled"
  | .error => "error"

/-- What is counted. -/
inductive Counter
  /-- Queries of a cluster, answered or not. -/
  | queries (cluster : String) (answered : Bool)
  /-- Records that queries of a cluster skipped. -/
  | skipped (cluster : String) (reason : SkipReason)
  /-- Announcements in a cluster, written or not. -/
  | announcements (cluster : String) (written : Bool)
  /-- Calls of an operation with an outcome. -/
  | calls (operation : Operation) (outcome : CallOutcome)
  /-- Calls of an operation whose duration was taken. -/
  | timings (operation : Operation)
  deriving DecidableEq, Repr

/-- How often everything was counted, and how many peers were found last. -/
structure Tally where
  counts : List (Counter × Nat)
  found : List (String × Nat)
  deriving DecidableEq, Repr

/-- The entries with a new value under a key, in its old place if it had one. -/
def replaceEntry {α β : Type} [DecidableEq α] (key : α) (value : β) :
    List (α × β) → List (α × β)
  | [] => [(key, value)]
  | (k, v) :: es => if k = key then (key, value) :: es else (k, v) :: replaceEntry key value es

namespace Tally

/-- Nothing counted. -/
def empty : Tally := ⟨[], []⟩

/-- How often something was counted. -/
def count (t : Tally) (c : Counter) : Nat :=
  (t.counts.lookup c).getD 0

/-- How many peers the last answered query of a cluster found. -/
def found? (t : Tally) (cluster : String) : Option Nat :=
  t.found.lookup cluster

/-- The tally with something counted once more. -/
def bump (t : Tally) (c : Counter) : Tally :=
  { t with counts := replaceEntry c (t.count c + 1) t.counts }

/-- The tally after a query of a cluster found some peers. -/
def setFound (t : Tally) (cluster : String) (n : Nat) : Tally :=
  { t with found := replaceEntry cluster n t.found }

/-! ### Text -/

/-- A label and its value. -/
def labelText (l : String × String) : String :=
  l.1 ++ "=\"" ++ l.2 ++ "\""

/-- A line for a count. -/
def lineOf (name : String) (labels : List (String × String)) (n : Nat) : String :=
  name ++ "\x7b" ++ ",".intercalate (labels.map labelText) ++ "\x7d " ++ Decimal.ofInt n

/-- The name of a yes or no outcome in counts. -/
def outcomeName (good : Bool) : String :=
  if good then "success" else "failed"

/-- The line of a counter. -/
def counterLine (c : Counter) (n : Nat) : String :=
  match c with
  | .queries cluster answered =>
    lineOf "s3_discovery_query_total" [("cluster", cluster), ("outcome", outcomeName answered)] n
  | .skipped cluster reason =>
    lineOf "s3_discovery_skipped_records_total" [("cluster", cluster), ("reason", reason.name)] n
  | .announcements cluster written =>
    lineOf "s3_discovery_announce_total"
      [("cluster", cluster), ("outcome", outcomeName written)] n
  | .calls operation outcome =>
    lineOf "s3_discovery_store_operation_total"
      [("operation", operation.name), ("outcome", outcome.name)] n
  | .timings operation =>
    lineOf "s3_discovery_store_operation_duration_seconds_count"
      [("operation", operation.name)] n

/-- The line of the number of peers found. -/
def foundLine (cluster : String) (n : Nat) : String :=
  lineOf "s3_discovery_resolved_addresses" [("cluster", cluster)] n

/-- A tally as sorted lines. -/
def lines (t : Tally) : List String :=
  (t.counts.map (fun e => counterLine e.1 e.2) ++
    t.found.map fun e => foundLine e.1 e.2).mergeSort fun a b => a ≤ b

end Tally

end RollCall
