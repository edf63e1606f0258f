import RollCall.Site.Basic

/-!
# Gateways

A gateway is the way to the object store that announcers and members use. Each gateway that was
opened has a number; closing one is a call like any other. What a call does to the world, and how it
may fail, is a *backend*. A gateway records a call before the backend acts. Something else may
happen at the site around a call: just before the backend acts, and after it acted without failure.

## Main definitions

* `Backend`: how the world takes calls.
* `Gateway`: how a site takes calls.
* `Gateway.around`: the gateway over a backend, with something around each call.
* `Gateway.ofBackend`: the gateway over a backend.
-/

namespace RollCall

/-- How a world takes calls. -/
structure Backend (ω : Type) where
  put (key : String) (data : List UInt8) : StateM ω (Except Failure Unit)
  get (key : String) : StateM ω (Except Failure (List UInt8))
  list (keyPrefix : String) : StateM ω (Except Failure (List String))
  delete (key : String) : StateM ω (Except Failure Unit)
  checkBucket : StateM ω (Except Failure BucketStatus)
  close : StateM ω (Except Failure Unit)
  connect (settings : Settings) : StateM ω (Except Failure Unit)

/-- How a site takes calls through the gateway of a number. -/
structure Gateway (ω : Type) where
  put (gateway : Nat) (key : String) (data : List UInt8) : Doing ω (Except Failure Unit)
  get (gateway : Nat) (key : String) : Doing ω (Except Failure (List UInt8))
  list (gateway : Nat) (keyPrefix : String) : Doing ω (Except Failure (List String))
  delete (gateway : Nat) (key : String) : Doing ω (Except Failure Unit)
  checkBucket (gateway : Nat) : Doing ω (Except Failure BucketStatus)
  close (gateway : Nat) : Doing ω (Except Failure Unit)
  /-- Opens a gateway. -/
  connect (settings : Settings) : Doing ω (Except Failure Nat)

namespace Gateway

variable {ω : Type}

/-- What happens at a site around a call of an operation, with the key of the call. -/
structure Companion (ω : Type) where
  before (operation : Operation) (key : Option String) : Doing ω Unit
  after (operation : Operation) (key : Option String) : Doing ω Unit

/-- A call with what happens around it. -/
def call {α : Type} (c : Companion ω) (operation : Operation) (key : Option String)
    (recorded : Call) (act : StateM ω (Except Failure α)) : Doing ω (Except Failure α) := do
  Site.record recorded
  c.before operation key
  match ← Site.act act with
  | .ok a =>
    c.after operation key
    return .ok a
  | .error f => return .error f

/-- The next number of a gateway. -/
def nextNumber : Doing ω Nat :=
  modifyGet fun s => (s.gateways, { s with gateways := s.gateways + 1 })

/-- The gateway over a backend, with something around each call. -/
def around (b : Backend ω) (c : Companion ω) : Gateway ω where
  put gateway key data := call c .put (some key) (.put gateway key data) (b.put key data)
  get gateway key := call c .get (some key) (.get gateway key) (b.get key)
  list gateway keyPrefix :=
    call c .list (some keyPrefix) (.list gateway keyPrefix) (b.list keyPrefix)
  delete gateway key := call c .delete (some key) (.delete gateway key) (b.delete key)
  checkBucket gateway := call c .checkBucket none (.checkBucket gateway) b.checkBucket
  close gateway := call c .close none (.close gateway) b.close
  connect settings := do
    match ← call c .connect none .connect (b.connect settings) with
    | .ok () => return .ok (← nextNumber)
    | .error f => return .error f

/-- Nothing around any call. -/
def alone : Companion ω where
  before _ _ := return ()
  after _ _ := return ()

/-- The gateway over a backend. -/
def ofBackend (b : Backend ω) : Gateway ω :=
  around b alone

end Gateway

end RollCall
