import RollCall.Announcer.Basic
import RollCall.BucketStatus
import RollCall.Logging.Line
import RollCall.PeerQuery.Basic

/-!
# Members

A member is a node that takes part in a cluster: it starts with some settings, announces itself,
answers queries for peers, and stops. While it is started it has a gateway, an announcer, a query
and a pool of workers; the tasks it gave to the pool and that have not ended are *pending*.

## Main definitions

* `Member`: a member with all that it holds.
* `Member.identityFaults`: what is wrong about a node's name, host and TCP port.
* `Member.checkIdentity`: whether nothing is wrong about them.
-/

namespace RollCall

/-- A node that takes part in a cluster, with all that it holds. -/
structure Member where
  node : Value
  host : Value
  port : Value
  settings : Option Settings
  /-- The gateway, by its number. -/
  gateway : Option Nat
  /-- The announcer, by its number. -/
  announcer : Option Nat
  query : Option PeerQuery
  /-- The pool of workers, by its number. -/
  pool : Option Nat
  /-- The tasks that have not ended, by their numbers. -/
  pending : List Nat
  deriving Repr, Inhabited

namespace Member

/-- A member that was never started. -/
def create (node host port : Value) : Member :=
  ⟨node, host, port, none, none, none, none, none, []⟩

/-- The address of the member itself. -/
def address (m : Member) : Except Failure Address :=
  Address.ofOffer (some m.host) (some m.port)

/-! ### Identity -/

/-- Whether a value holds a slash: among its characters, its items or its keys. -/
def hasSlash : Value → Except Failure Bool
  | .text s => .ok (s.toList.contains '/')
  | .broken symbols => .ok (symbols.contains (.char '/'))
  | .bytes _ => .error .textAmongBytes
  | .list items | .set items => .ok (items.any (Value.isText "/"))
  | .map entries => .ok (entries.any fun e => e.1.isText "/")
  | v => .error (.noContents v.kind)

/-- Whether a node's name is one: nothing that counts as absent, and without the separator of
keys. -/
def isName (node : Value) : Except Failure Bool :=
  if node.isTruthy then (hasSlash node).map not else .ok false

/-- Whether a host is one: something other than blanks. Only texts and bytes have blanks that could
be told; of other values those that count as absent are no hosts. -/
def isHost : Value → Except Failure Bool
  | .text s => .ok !Text.isBlankText s
  | .broken _ => .ok true
  | .bytes bs => .ok !bs.all Presence.isAsciiSpace
  | v => if v.isTruthy then .error (.noAttribute v.kind "strip") else .ok false

/-- Whether a TCP port is one: an integer in its range. -/
def isPort : Value → Bool
  | .int n => 1 ≤ n && n ≤ Presence.maxPort
  | _ => false

/-- What is wrong about the identity of a node with a name and a host that are ones or not. -/
def identityFaults (m : Member) (hasName hasHost : Bool) : List String :=
  (if hasName then []
    else ["node id '" ++ m.node.display ++ "' must be non-empty and must not contain '/'"]) ++
  (if hasHost then [] else ["self host must not be blank"]) ++
  (if isPort m.port then []
    else ["self port " ++ String.ofList m.port.literal ++
      " must be an integer between 1 and 65535"])

/-- Refuses an identity with faults. -/
def checkIdentity (m : Member) : Except Failure Unit :=
  match isName m.node, isHost m.host with
  | .error f, _ => .error f
  | .ok _, .error f => .error f
  | .ok hasName, .ok hasHost =>
    if (m.identityFaults hasName hasHost).isEmpty then .ok ()
    else .error (.settings Failure.identityHead (m.identityFaults hasName hasHost))

/-! ### Words -/

/-- What is said when a started member is started. -/
def alreadyStartedText (m : Member) : String :=
  "S3 discovery of node " ++ m.node.display ++ " is already started"

/-- What is said when a member was started. -/
def startedText (m : Member) (s : Settings) : String :=
  "S3 discovery started for node " ++ m.node.display ++ " (bucket=" ++ s.bucket ++ ", cluster=" ++
    s.cluster ++ ")"

/-- What is said when a member was stopped. -/
def stoppedText (m : Member) : String :=
  "S3 discovery stopped for node " ++ m.node.display

/-- What is said when a member is started but its record not yet written. -/
def unseenText (m : Member) : String :=
  "Initial announcement of node " ++ m.node.display ++
    " failed, peers will not see it until a refresh succeeds"

/-- What is said when a task that renews the record failed. -/
def refreshFailedText (m : Member) : String :=
  "Background refresh of node " ++ m.node.display ++ " failed"

/-- What is said when tasks are still pending at the end. -/
def pendingText (pending : Nat) (s : Settings) : String :=
  Decimal.ofInt pending ++ " store call(s) still running after " ++ s.stopTimeout.text ++ "s"

/-- What is said when a query does not end in time. -/
def overdueText (s : Settings) : String :=
  "Discovery query did not finish within " ++ s.discoveryTimeout.text ++ "s"

/-- What is said when a gateway cannot be closed. -/
def notClosedText : String := "Error closing object store client"

/-- The words about a member that is not started. -/
def notStartedMessage : String := "S3 discovery is not started."

/-- What is said about the status of the bucket. -/
def statusLine (s : Settings) : BucketStatus → Logging.Line
  | .existing => ⟨.debug, "S3 bucket '" ++ s.bucket ++ "' is accessible"⟩
  | .notExisting =>
    ⟨.error, "S3 bucket '" ++ s.bucket ++ "' does not exist in region '" ++ s.region ++
      "', please create it"⟩
  | .noPermission =>
    ⟨.error, "No permission to access S3 bucket '" ++ s.bucket ++ "' with credentials type '" ++
      s.credentials.name ++ "'"⟩
  | .other =>
    ⟨.error, "S3 bucket '" ++ s.bucket ++ "' could not be checked, verify the endpoint '" ++
      s.endpoint ++ "' and the network"⟩

end Member

end RollCall
