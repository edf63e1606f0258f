import RollCall.Scenario.Step
import RollCall.Store.Backend

/-!
# The world of a scenario

The world that the gateways of a scenario lead to: one store in memory, with what disturbs it, and
the names of the things that were made. A fault counts for the calls of an operation, or only for
those with a key, and may be used up; of several faults for a call the one that was added first
counts.

## Main definitions

* `Scenario.World`.
* `Scenario.backend`: how the world takes calls.
-/

namespace RollCall.Scenario

/-- A fault: the calls it counts for, the cause, and how often it may still be used. -/
structure Fault where
  on : Operation
  key : Option String
  cause : FaultCause
  left : Option Nat
  deriving DecidableEq, Repr

/-- A hook: its number, the call it waits for, and the steps that happen then. -/
structure Hook where
  number : Nat
  on : Operation
  key : Option String
  side : Side
  steps : List Step

/-- The world of a scenario. -/
structure World where
  store : Store
  status : BucketStatus
  /-- Keys that every listing names besides those of the store. -/
  phantoms : List String
  faults : List Fault
  hooks : List Hook
  /-- How many hooks there ever were. -/
  hooked : Nat
  /-- The answers to the steps of hooks. -/
  hookAnswers : List Answer
  announcers : List (String × Nat)
  queries : List (String × PeerQuery)
  members : List (String × Nat)
  rosters : List (String × Roster)
  listings : List (String × Store.Listing)

/-- The world before the first step. -/
def World.initial : World :=
  ⟨.empty, .existing, [], [], [], 0, [], [], [], [], [], []⟩

/-- Whether a condition on the key of a call is met. -/
def meetsKey (condition key : Option String) : Bool :=
  condition.isNone || condition == key

/-- Whether a fault counts for a call. -/
def Fault.strikes (f : Fault) (operation : Operation) (key : Option String) : Bool :=
  f.on == operation && meetsKey f.key key && f.left != some 0

/-- The first fault that counts for a call, and the faults after its use. -/
def useFault (operation : Operation) (key : Option String) :
    List Fault → Option FaultCause × List Fault
  | [] => (none, [])
  | f :: fs =>
    if f.strikes operation key then (some f.cause, { f with left := f.left.map (· - 1) } :: fs)
    else
      let (cause, rest) := useFault operation key fs
      (cause, f :: rest)

/-- A call that takes effect unless a fault counts for it. -/
def call {α : Type} (operation : Operation) (key : Option String)
    (effect : World → Except Failure α × World) : StateM World (Except Failure α) :=
  fun w =>
    match useFault operation key w.faults with
    | (some cause, faults) => (.error (cause.failure operation key), { w with faults })
    | (none, _) => effect w

/-- What the store of a world does with a call. -/
def inStore {α : Type} (f : StateM Store (Except Failure α)) :
    World → Except Failure α × World :=
  fun w =>
    let (a, store) := f w.store
    (a, { w with store })

/-- How the world takes calls. -/
def backend : Backend World where
  put key data := call .put (some key) (inStore (Store.backend.put key data))
  get key := call .get (some key) (inStore (Store.backend.get key))
  list keyPrefix :=
    call .list (some keyPrefix) fun w =>
      ((Store.backend.list keyPrefix w.store).1.map (· ++ w.phantoms), w)
  delete key := call .delete (some key) (inStore (Store.backend.delete key))
  checkBucket := call .checkBucket none fun w => (.ok w.status, w)
  close := call .close none (inStore Store.backend.close)
  connect settings := call .connect none (inStore (Store.backend.connect settings))

end RollCall.Scenario
