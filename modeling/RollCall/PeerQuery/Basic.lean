import RollCall.ObjectKey
import RollCall.Presence.Codec
import RollCall.Settings.Basic
import RollCall.Tally

/-!
# Queries for peers

A query finds the peers of a node: the other nodes of its cluster whose records still count. It
lists the keys of the cluster, reads the record under every key but the node's own, and judges each.
Of several records of a node the one that expires last counts, and of those the one that is listed
first. The answer is in ascending order and names no address twice.

This module judges records that have been read; `RollCall.PeerQuery.Run` reads them.

## Main definitions

* `PeerQuery`: what a query looks for.
* `PeerQuery.Reading`: what reading a key brought.
* `PeerQuery.judge`: what a reading means for a query.
* `PeerQuery.Sightings`: the peers seen so far.
* `PeerQuery.answer`: the addresses of the peers seen.
-/

namespace RollCall

/-- What a query looks for: the cluster, and the node that asks. -/
structure PeerQuery where
  /-- The gateway to the store. -/
  gateway : Nat
  cluster : String
  /-- The node that asks, if it has a name that a record may hold. -/
  node : Option String
  /-- The beginning of all keys of the cluster. -/
  clusterPrefix : String
  /-- The key of the node that asks. -/
  ownKey : String
  /-- Whether expired records are deleted. -/
  cleanup : Bool
  deriving DecidableEq, Repr

namespace PeerQuery

/-- The query of a node for some settings. -/
def create (gateway : Nat) (settings : Settings) (node : Value) : PeerQuery where
  gateway
  cluster := settings.cluster
  node := node.text?
  clusterPrefix := ObjectKey.cluster settings.keyPrefix settings.cluster
  ownKey := ObjectKey.node settings.keyPrefix settings.cluster node.display
  cleanup := settings.cleanup

/-- What reading a key brought: a record, or why there is none. -/
abbrev Reading := Except (SkipReason × Failure) Presence

/-- What reading the content under a key brought. -/
def read (key : String) : Except Failure (List UInt8) → Except Failure Reading
  | .ok data =>
    match Presence.decode data (some key) with
    | .ok r => .ok (.ok r)
    | .error f => .ok (.error (.malformed, f))
  | .error (.notFound k) => .ok (.error (.vanished, .notFound k))
  | .error f => if f.isStore then .ok (.error (.unreadable, f)) else .error f

/-- What a reading means: a record to skip, with the reason, or the record of a peer. -/
inductive Verdict
  | skip (reason : SkipReason)
  | accept (record : Presence)
  deriving DecidableEq, Repr

/-- What a record means for a query. -/
def judgeRecord (q : PeerQuery) (now : Int) (r : Presence) : Verdict :=
  if r.isExpired now then .skip .expired
  else if some r.node = q.node then .skip .own
  else if r.cluster ≠ q.cluster then .skip .foreign
  else .accept r

/-- What a reading means for a query. -/
def judge (q : PeerQuery) (now : Int) : Reading → Verdict
  | .error (reason, _) => .skip reason
  | .ok r => q.judgeRecord now r

/-- The records of the peers seen so far, one for each node, and the keys of expired records. -/
structure Sightings where
  live : List (String × Presence)
  expired : List String
  deriving DecidableEq, Repr

namespace Sightings

/-- Nothing seen. -/
def none : Sightings := ⟨[], []⟩

/-- With the record of a peer, if it expires later than the one seen before. -/
def see (s : Sightings) (r : Presence) : Sightings :=
  match s.live.lookup r.node with
  | some seen =>
    if seen.expires < r.expires then { s with live := replaceEntry r.node r s.live } else s
  | Option.none => { s with live := replaceEntry r.node r s.live }

/-- With what a reading of a key means. -/
def note (s : Sightings) (key : String) : Verdict → Sightings
  | .accept r => s.see r
  | .skip .expired => { s with expired := s.expired ++ [key] }
  | .skip _ => s

end Sightings

/-- Addresses in ascending order with each once. -/
def insertAddress (a : Address) : List Address → List Address
  | [] => [a]
  | b :: bs => if a = b then b :: bs else if a.le b then a :: b :: bs else b :: insertAddress a bs

/-- The addresses of the peers seen. -/
def answer (s : Sightings) : List Address :=
  s.live.foldr (fun e as => insertAddress e.2.address as) []

/-! ### Words -/

/-- What is said about a reading that brought no record. -/
def unreadText (key : String) : SkipReason × Failure → Option String
  | (.unreadable, f) => some ("Skipping record '" ++ key ++ "', could not read it: " ++ f.message)
  | (.malformed, f) => some ("Skipping malformed record: " ++ f.message)
  | _ => none

/-- What is said about a record of another cluster. -/
def foreignText (key : String) (r : Presence) : String :=
  "Skipping record '" ++ key ++ "' of foreign cluster '" ++ r.cluster ++ "'"

/-- What is said when the keys could not be listed. -/
def unlistedText (q : PeerQuery) (f : Failure) : String :=
  "Could not list node records under '" ++ q.clusterPrefix ++ "': " ++ f.message

/-- The failure of a query whose keys could not be listed. -/
def unlisted (q : PeerQuery) (f : Failure) : Failure :=
  .discovery ("Could not list node records under '" ++ q.clusterPrefix ++ "'. " ++ f.message)

/-- What is said when an expired record was deleted. -/
def deletedText (key : String) : String :=
  "Deleted expired record '" ++ key ++ "'"

/-- What is said when an expired record could not be deleted. -/
def undeletedText (key : String) (f : Failure) : String :=
  "Could not delete expired record '" ++ key ++ "': " ++ f.message

/-- What is said when a query is answered. -/
def resolvedText (q : PeerQuery) (peers records : Nat) : String :=
  "Resolved " ++ Decimal.ofInt peers ++ " peer(s) from " ++ Decimal.ofInt records ++
    " record(s) under '" ++ q.clusterPrefix ++ "'"

end PeerQuery

end RollCall
