import RollCall.Duration
import RollCall.ObjectKey
import RollCall.Presence.Codec
import RollCall.Settings.Basic

/-!
# Announcers

An announcer keeps the record of one node alive in the store. While it is *announcing* it writes the
record, with an expiry that lies a fixed time after the moment of writing, and a loop renews it at
fixed intervals. When it is stopped it withdraws the record.

`RollCall.Announcer.Life` holds what an announcer does.

## Main definitions

* `Announcer`: an announcer with all that it remembers.
* `Announcer.create`: an announcer for some settings and a node.
* `Announcer.draft`: the record that is written at some moment, before it is checked.
-/

namespace RollCall

/-- An announcer: the gateway it writes through, the settings, the node, what follows from them,
and how far its life has come. -/
structure Announcer where
  /-- The gateway to the store. -/
  gateway : Nat
  settings : Settings
  node : Value
  host : Value
  port : Value
  /-- The key of the record. -/
  key : String
  /-- How long a record counts, in milliseconds. -/
  ttl : Int
  /-- How long a record is not renewed without need, in milliseconds. -/
  interval : Int
  isAnnouncing : Bool
  /-- Whether the loop has been told to end. -/
  isStopRequested : Bool
  /-- Whether there is a loop. -/
  hasLoop : Bool
  /-- Whether the record is being written or withdrawn. -/
  isWriting : Bool
  /-- When the record was last written. -/
  last : Option Int
  deriving Repr, Inhabited

namespace Announcer

/-- An announcer that has not begun; the durations must be finite. -/
def create (gateway : Nat) (settings : Settings) (node host port : Value) :
    Except Failure Announcer :=
  match Duration.millis settings.expiration, Duration.millis settings.interval with
  | .ok ttl, .ok interval =>
    .ok { gateway, settings, node, host, port, ttl, interval
          key := ObjectKey.node settings.keyPrefix settings.cluster node.display
          isAnnouncing := false
          isStopRequested := false
          hasLoop := false
          isWriting := false
          last := none }
  | .error f, _ => .error f
  | _, .error f => .error f

/-- The record of the node with the expiry of a record that is written now. -/
def draft (a : Announcer) (now : Int) : Presence.Draft where
  cluster := .text a.settings.cluster
  node := .ofValue (some a.node)
  host := .ofValue (some a.host)
  port := .ofValue (some a.port)
  expires := .integer (now + a.ttl)

/-- The record that is written now. -/
def record (a : Announcer) (now : Int) : Except Failure Presence :=
  match Presence.ofDraft (a.draft now) with
  | .ok r => .ok r
  | .error reasons => .error (.refused reasons)

/-- The name of the loop. -/
def loopName (a : Announcer) : String :=
  "s3-discovery-announcer-" ++ a.node.display

/-- The name of the state that an announcer is in. -/
def stateName (a : Announcer) : String :=
  if a.isAnnouncing then "announcing" else "stopped"

/-- Whether the record is to be renewed now: it never was written, or not within the interval. -/
def isDue (a : Announcer) (now : Int) : Bool :=
  match a.last with
  | none => true
  | some last => a.interval ≤ now - last

/-! ### Words -/

/-- What is said when the record was written. -/
def announcedText (a : Announcer) (expires : Int) : String :=
  "Announced node " ++ a.node.display ++ " (expires at " ++ Decimal.ofInt expires ++ ")"

/-- What is said when the record could not be written. -/
def notAnnouncedText (a : Announcer) (f : Failure) : String :=
  "Could not announce node " ++ a.node.display ++ ", retrying on next tick: " ++ f.message

/-- What is said when the loop has begun. -/
def announcingText (a : Announcer) : String :=
  "Announcing node " ++ a.node.display ++ " at " ++ a.host.display ++ ":" ++ a.port.display ++
    " under key '" ++ a.key ++ "' (interval=" ++ a.settings.interval.text ++ "s, expiration=" ++
    a.settings.expiration.text ++ "s)"

/-- What is said when the loop does not end in time. -/
def loopStuckText (a : Announcer) (patience : Value) : String :=
  "Announce loop of node " ++ a.node.display ++ " did not stop within " ++ patience.display ++ "s"

/-- What is said when the record is being written and therefore not withdrawn. -/
def gaveUpText (a : Announcer) (patience : Value) : String :=
  "Gave up deleting record '" ++ a.key ++ "' after " ++ patience.display ++
    "s, it will expire on its own"

/-- What is said when the record was withdrawn. -/
def removedText (a : Announcer) : String :=
  "Removed record '" ++ a.key ++ "' of node " ++ a.node.display

/-- What is said when the record could not be withdrawn. -/
def notRemovedText (a : Announcer) (f : Failure) : String :=
  "Could not remove record '" ++ a.key ++ "', it will expire on its own: " ++ f.message

end Announcer

end RollCall
