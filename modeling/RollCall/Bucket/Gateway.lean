import RollCall.Bucket.Backoff
import RollCall.Bucket.Client
import RollCall.BucketStatus
import RollCall.Logging.Line
import RollCall.Tally

/-!
# The object store in a bucket

A gateway is the object store as a bucket offers it: four operations on objects, each made of calls
of a client, and a check of the bucket. A call that is throttled is repeated; where a missing object
is no failure of the call, its code is looked at before throttling. Every other error becomes a
failure of the operation.

A listing is made page by page, and no page is asked for before a key beyond the pages so far is
wanted.

## Main definitions

* `Bucket.Gateway`: the bucket, its client and the rules of repetition.
* `Bucket.Session`: the state of a client with what was said, counted and waited for.
* `Bucket.Gateway.call`: one operation's calls until one is not throttled.
* `Bucket.Gateway.put`, `get`, `list`, `delete`, `checkBucket`, `close`: the operations.
-/

namespace RollCall.Bucket

/-- A bucket, its client and the rules of repetition. -/
structure Gateway (σ : Type) where
  bucket : String
  client : Client σ
  backoff : Backoff

/-- The state of a client with what was said, counted and waited for. -/
structure Session (σ : Type) where
  client : σ
  sleeps : List Binary64
  lines : List Logging.Line
  tally : Tally

namespace Session

variable {σ : Type}

/-- A session with a fresh client. -/
def start (client : σ) (tally : Tally) : Session σ := ⟨client, [], [], tally⟩

/-- Says a line. -/
def say (level : Logging.Level) (text : String) : StateM (Session σ) Unit :=
  modify fun s => { s with lines := s.lines ++ [⟨level, text⟩] }

/-- Waits. -/
def sleep (seconds : Binary64) : StateM (Session σ) Unit :=
  modify fun s => { s with sleeps := s.sleeps ++ [seconds] }

/-- Counts a call of an operation. -/
def count (operation : Operation) (outcome : CallOutcome) : StateM (Session σ) Unit :=
  modify fun s => { s with
    tally := (s.tally.bump (.calls operation outcome)).bump (.timings operation) }

/-- Lets the client make a call. -/
def send {α : Type} (call : StateM σ α) : StateM (Session σ) α :=
  fun s =>
    let (a, client) := call s.client
    (a, { s with client })

end Session

/-- What is asked of the store in an operation: its kind, its key, and whether an object that is
missing is a failure. -/
structure Task where
  operation : Operation
  key : String
  mayMiss : Bool
  deriving DecidableEq, Repr

namespace Task

/-- How a call ends that is not throttled: with what was asked for, with nothing where an object
may be missing, or with a failure of the operation. -/
def verdict {α : Type} (t : Task) : Reply α → Except Failure (Option α)
  | .ok a => .ok (some a)
  | .error (.service e) =>
    if t.mayMiss && e.isNotFound then .ok none
    else .error (.store t.operation.name (some t.key) (e.code ++ ": " ++ e.message))
  | .error (.outage o) => .error (.store t.operation.name (some t.key) o.message)
  | .error (.other f) => .error f

/-- Whether a call is throttled; where an object may be missing, that is looked at first. -/
def isThrottled {α : Type} (t : Task) : Reply α → Bool
  | .error (.service e) => !(t.mayMiss && e.isNotFound) && e.isThrottling
  | _ => false

/-- How a call is counted. -/
def outcome {α : Type} (t : Task) (r : Reply α) : CallOutcome :=
  if t.isThrottled r then .throttled
  else
    match t.verdict r with
    | .ok (some _) => .success
    | .ok none => .notFound
    | .error _ => .error

/-- What is said when a call is throttled and will be repeated. -/
def throttledText (t : Task) (attempt attempts : Nat) (delay : Binary64) : String :=
  "Object store throttled '" ++ t.operation.name ++ "' (attempt " ++
    Decimal.ofInt (attempt + 1) ++ "/" ++ Decimal.ofInt attempts ++ "), retrying in " ++
    delay.fixed 2 ++ "s"

end Task

namespace Gateway

variable {σ : Type} {α : Type}

/-- Up to `left` calls, the first of which is the attempt of that number. -/
def callFrom (g : Gateway σ) (t : Task) (send : StateM σ (Reply α)) :
    (left : Nat) → (attempt : Nat) → StateM (Session σ) (Except Failure (Option α))
  | 0, _ => return .error (.throttled t.operation.name (some t.key) g.backoff.attempts)
  | left + 1, attempt => do
    let r ← Session.send send
    Session.count t.operation (t.outcome r)
    if t.isThrottled r then
      if left = 0 then
        return .error (.throttled t.operation.name (some t.key) g.backoff.attempts)
      match g.backoff.delay attempt with
      | .error f => return .error f
      | .ok delay =>
        Session.say .warning (t.throttledText attempt g.backoff.attempts delay)
        Session.sleep delay
        callFrom g t send left (attempt + 1)
    else return t.verdict r

/-- The calls of an operation until one is not throttled. -/
def call (g : Gateway σ) (t : Task) (send : StateM σ (Reply α)) :
    StateM (Session σ) (Except Failure (Option α)) :=
  g.callFrom t send g.backoff.attempts 0

/-! ### Operations -/

/-- Writes an object. -/
def put (g : Gateway σ) (key : String) (body : List UInt8) :
    StateM (Session σ) (Except Failure Unit) := do
  match ← g.call ⟨.put, key, false⟩ (g.client.put g.bucket key body) with
  | .ok _ => return .ok ()
  | .error f => return .error f

/-- Reads an object. -/
def get (g : Gateway σ) (key : String) :
    StateM (Session σ) (Except Failure (List UInt8)) := do
  match ← g.call ⟨.get, key, true⟩ (g.client.get g.bucket key) with
  | .ok (some body) => return .ok body
  | .ok none => return .error (.notFound (some key))
  | .error f => return .error f

/-- Deletes an object; one that is missing is deleted already. -/
def delete (g : Gateway σ) (key : String) :
    StateM (Session σ) (Except Failure Unit) := do
  match ← g.call ⟨.delete, key, true⟩ (g.client.delete g.bucket key) with
  | .ok _ => return .ok ()
  | .error f => return .error f

/-- What is said when a check of the bucket fails. -/
def headText (g : Gateway σ) : String :=
  "HeadBucket on '" ++ g.bucket ++ "' failed"

/-- Checks the bucket; only an error that is none of the service's is a failure. -/
def checkBucket (g : Gateway σ) : StateM (Session σ) (Except Failure BucketStatus) := do
  match ← Session.send (g.client.head g.bucket) with
  | .ok status => return .ok (.ofCode status)
  | .error (.service e) =>
    Session.say .debug g.headText
    return .ok (.ofCode e.status)
  | .error (.outage _) =>
    Session.say .debug g.headText
    return .ok .other
  | .error (.other f) => return .error f

/-- Ends the client. -/
def close (g : Gateway σ) : StateM (Session σ) (Except Failure Unit) := do
  match ← Session.send g.client.close with
  | .ok () => return .ok ()
  | .error e => return .error e.failure

/-! ### Listing -/

/-- The keys that a listing has brought, and the failure that ended it early, if one did. -/
structure Listed where
  keys : List Value
  failure : Option Failure
  deriving Repr

/-- What is said when another page is asked for. -/
def nextPageText (keyPrefix : String) : String :=
  "Object listing for '" ++ keyPrefix ++ "' is truncated, loading next batch"

/-- Whether some keys are as many as are wanted. -/
def isEnough (wanted : Option Nat) (keys : List Value) : Bool :=
  match wanted with
  | none => false
  | some n => n ≤ keys.length

/-- Up to `pages` pages of a listing from the token of the first of them on, until as many keys
have come as are wanted, where all are wanted unless a number is given. -/
def listFrom (g : Gateway σ) (keyPrefix : String) :
    (pages : Nat) → (token : Option Value) → (wanted : Option Nat) → StateM (Session σ) Listed
  | 0, _, _ => return ⟨[], none⟩
  | pages + 1, token, wanted => do
    match ← g.call ⟨.list, keyPrefix, false⟩ (g.client.list g.bucket keyPrefix token) with
    | .error f => return ⟨[], some f⟩
    | .ok none => return ⟨[], none⟩
    | .ok (some page) =>
      if isEnough wanted page.keys then return ⟨page.keys.take (wanted.getD 0), none⟩
      match page.failure, page.next? with
      | some f, _ => return ⟨page.keys, some f⟩
      | none, none => return ⟨page.keys, none⟩
      | none, some token =>
        Session.say .debug (nextPageText keyPrefix)
        let rest ← listFrom g keyPrefix pages (some token) (wanted.map (· - page.keys.length))
        return ⟨page.keys ++ rest.keys, rest.failure⟩

/-- The keys with a prefix, or as many of them as are wanted, from up to `pages` pages. -/
def list (g : Gateway σ) (keyPrefix : String) (pages : Nat) (wanted : Option Nat) :
    StateM (Session σ) Listed :=
  if wanted = some 0 then return ⟨[], none⟩ else g.listFrom keyPrefix pages none wanted

end Gateway

end RollCall.Bucket
