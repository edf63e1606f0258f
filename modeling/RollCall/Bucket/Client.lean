import RollCall.Failure

/-!
# Clients of the bucket service

A client makes the five calls that the service takes. Each may change the client's state and ends
in a reply: what was asked for, or the reason why there is none. A listing comes in pages; a page
that was cut short names a token with which the next one is asked for. Keys and tokens are taken as
they come, whatever their type.

## Main definitions

* `Bucket.Request`: a call with its arguments.
* `Bucket.CallError`, `Bucket.Reply`: how a call ends.
* `Bucket.Page`: a page of a listing.
* `Bucket.Client`: the five calls and the end of a client.
-/

namespace RollCall.Bucket

/-- A call to the service with its arguments. -/
inductive Request
  | putObject (bucket key : String) (body : List UInt8)
  | getObject (bucket key : String)
  | listObjects (bucket keyPrefix : String) (token : Option Value)
  | deleteObject (bucket key : String)
  | headBucket (bucket : String)
  | close
  deriving Repr

/-- Why a call has no reply. -/
inductive CallError
  /-- The service reported an error. -/
  | service (error : ServiceError)
  /-- The service gave no answer. -/
  | outage (cause : Outage)
  /-- Something else went wrong. -/
  | other (failure : Failure)
  deriving DecidableEq, Repr

/-- The failure of a call of which nothing is made. -/
def CallError.failure : CallError → Failure
  | .service error => .service error
  | .outage cause => .outage cause
  | .other failure => failure

/-- What a call ends in. -/
abbrev Reply (α : Type) := Except CallError α

/-- A page of a listing: the keys of its entries, some of them absent, the failure that keeps the
entries after them from being read, whether it was cut short, and the token of the next page. -/
structure Page where
  entries : List Value
  failure : Option Failure
  isTruncated : Bool
  token : Value
  deriving Repr

namespace Page

/-- The keys of a page: those of its entries that have one. -/
def keys (p : Page) : List Value :=
  p.entries.filter Value.isTruthy

/-- The token of the page after a page, if there is one. -/
def next? (p : Page) : Option Value :=
  if p.isTruncated && p.token.isTruthy then some p.token else none

/-- An empty page at the end of a listing. -/
def last : Page := ⟨[], none, false, .null⟩

end Page

/-- The calls of a client whose state is of type `σ`. -/
structure Client (σ : Type) where
  put (bucket key : String) (body : List UInt8) : StateM σ (Reply Unit)
  get (bucket key : String) : StateM σ (Reply (List UInt8))
  list (bucket keyPrefix : String) (token : Option Value) : StateM σ (Reply Page)
  delete (bucket key : String) : StateM σ (Reply Unit)
  /-- The HTTP status of the answer of a bucket. -/
  head (bucket : String) : StateM σ (Reply (Option Int))
  close : StateM σ (Reply Unit)

end RollCall.Bucket
