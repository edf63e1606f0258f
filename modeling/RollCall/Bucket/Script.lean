import RollCall.Bucket.Gateway
import RollCall.Bucket.Report
import RollCall.Value.Items

/-!
# Scripted clients

A scripted client answers each call with the next of some given responses, whatever is asked, and
keeps the calls. When the responses are used up, it answers with an empty object. A response is an
object of which each call reads the members it knows, or an error.

## Main definitions

* `Bucket.Response`, `Bucket.Script`: a response, and the state of a scripted client.
* `Bucket.scripted`: the scripted client.
* `Bucket.Step`, `Bucket.run`: operations on a bucket with their responses, and their results.
-/

namespace RollCall.Bucket

/-- A scripted response. -/
inductive Response
  /-- The call ends in an error. -/
  | fails (error : CallError)
  /-- An object with a body, the reading of which may end in an error, and other members. -/
  | object (body : Option (Reply (List UInt8))) (members : Value)

/-- The state of a scripted client: the responses to come, and the calls so far. -/
structure Script where
  responses : List Response
  requests : List Request

namespace Response

/-- The object without a body and members. -/
def blank : Response := .object none (.map [])

/-- What a call takes of a response. -/
def reply {α : Type} (r : Response) (read : Option (Reply (List UInt8)) → Value → Reply α) :
    Reply α :=
  match r with
  | .fails e => .error e
  | .object body members => read body members

/-- What a member is gone through by; one that counts as absent has nothing. -/
def itemsOf (v : Value) : Except Failure (List Value) :=
  if v.isTruthy then v.items else .ok []

/-- The keys of some entries, up to the first that is no object. -/
def keysOf : List Value → List Value × Option Failure
  | [] => ([], none)
  | entry :: rest =>
    match Report.entries entry with
    | .error f => ([], some f)
    | .ok es =>
      let (keys, failure) := keysOf rest
      ((Value.lookup? "Key" es).getD .null :: keys, failure)

/-- The page in the members of a response. -/
def pageOf (members : Value) : Page :=
  let part (name : String) := (members.get? name).getD .null
  let (entries, failure) :=
    match itemsOf (part "Contents") with
    | .ok items => keysOf items
    | .error f => ([], some f)
  ⟨entries, failure, (part "IsTruncated").isTruthy, part "NextContinuationToken"⟩

/-- The body of a response, which must have one. -/
def bodyOf (body : Option (Reply (List UInt8))) : Reply (List UInt8) :=
  body.getD (.error (.other (.missingMember "Body")))

end Response

namespace Script

/-- Keeps a call and takes the next response. -/
def take (request : Request) : StateM Script Response :=
  fun s =>
    match s.responses with
    | [] => (.blank, { s with requests := s.requests ++ [request] })
    | r :: rs => (r, ⟨rs, s.requests ++ [request]⟩)

end Script

/-- The client that follows a script. -/
def scripted : Client Script where
  put bucket key body :=
    return (← Script.take (.putObject bucket key body)).reply fun _ _ => .ok ()
  get bucket key :=
    return (← Script.take (.getObject bucket key)).reply fun body _ => Response.bodyOf body
  list bucket keyPrefix token :=
    return (← Script.take (.listObjects bucket keyPrefix token)).reply fun _ members =>
      .ok (Response.pageOf members)
  delete bucket key :=
    return (← Script.take (.deleteObject bucket key)).reply fun _ _ => .ok ()
  head bucket :=
    return (← Script.take (.headBucket bucket)).reply fun _ members =>
      (Report.status members).mapError .other
  close := return (← Script.take .close).reply fun _ _ => .ok ()

/-! ### Operations with their responses -/

/-- An operation on a bucket. -/
inductive Step
  | put (key : String) (body : List UInt8)
  | get (key : String)
  | list (keyPrefix : String) (wanted : Option Nat)
  | delete (key : String)
  | checkBucket
  | close
  | bucketName
  deriving DecidableEq, Repr

/-- The result of an operation. -/
inductive Result
  | done
  | body (bytes : List UInt8)
  | listed (keys : Gateway.Listed)
  | status (status : BucketStatus)
  | name (bucket : String)
  deriving Repr

/-- The pages that a script may answer with, at most. -/
def Script.pages (s : Script) : Nat :=
  s.responses.length + 1

/-- An operation on a bucket with a scripted client. -/
def perform (g : Gateway Script) : Step → StateM (Session Script) (Except Failure Result)
  | .put key body => return (← g.put key body).map fun _ => .done
  | .get key => return (← g.get key).map .body
  | .list keyPrefix wanted => do
    let pages := (← StateT.get).client.pages
    return .ok (.listed (← g.list keyPrefix pages wanted))
  | .delete key => return (← g.delete key).map fun _ => .done
  | .checkBucket => return (← g.checkBucket).map .status
  | .close => return (← g.close).map fun _ => .done
  | .bucketName => return .ok (.name g.bucket)

end RollCall.Bucket
