import RollCall.Member.Life
import RollCall.Roster
import RollCall.Store.Basic

/-!
# Steps of a scenario

A scenario is a list of steps at one site: things are made under names, asked to do something, and
disturbed. A *fault* makes calls to the store fail; a *hook* lets steps happen in the middle of a
call. Every step has an answer: what came of it, and the state of the thing that was asked.

## Main definitions

* `Scenario.FaultCause`, `Scenario.Side`, `Scenario.Step`.
* `Scenario.Result`, `Scenario.State`, `Scenario.Answer`.
-/

namespace RollCall.Scenario

/-- Why a call fails. -/
inductive FaultCause
  | store (reason : String)
  | throttled (attempts : Int)
  | notFound
  | unforeseen (reason : String)
  | badValue (reason : String)
  deriving DecidableEq, Repr

/-- The failure of a call with a key. -/
def FaultCause.failure (operation : Operation) (key : Option String) : FaultCause → Failure
  | .store reason => .store operation.name key reason
  | .throttled attempts => .throttled operation.name key attempts
  | .notFound => .notFound key
  | .unforeseen reason => .unforeseen reason
  | .badValue reason => .badValue reason

/-- The side of a call on which the steps of a hook happen: before it takes effect, or after. -/
inductive Side
  | before
  | after
  deriving DecidableEq, Repr

/-- A step of a scenario. -/
inductive Step
  | advance (millis : Int)
  | status (status : BucketStatus)
  | phantom (keys : List String)
  | stuck (isStuck : Bool)
  | fault (on : Operation) (key : Option String) (cause : FaultCause) (times : Option Nat)
  | clearFaults
  | hook (on : Operation) (key : Option String) (side : Side) (steps : List Step)
  | mode (stall : Stall)
  | drain
  | storePut (key : String) (data : List UInt8)
  | storeRecord (key : String) (record : List (Value × Value))
  | storeGet (key : String)
  | storeDelete (key : String)
  | storeList (keyPrefix : String)
  | storeOpen (listing keyPrefix : String)
  | storeNext (listing : String)
  | storeKeys
  | storeCheck
  | storeClose
  | announcer (name : String) (node host port config : Value)
  | start (name : String)
  | announce (name : String)
  | refresh (name : String)
  | stop (name : String) (patience : Value)
  | tick (name : String) (rounds : Nat) (millis : Int)
  | query (name : String) (node config : Value)
  | discover (name : String)
  | member (name : String) (node host port : Value)
  | memberStart (name : String) (config : Value) (isChecked : Bool)
  | memberDiscover (name : String)
  | memberStop (name : String)
  | memberAddress (name : String)
  | roster (name member : String) (includesSelf : Bool)
  | rosterNodes (name : String)
  | rosterSelf (name : String)

/-- What comes of a step. -/
inductive Result
  | nothing
  | null
  | flag (b : Bool)
  | number (n : Nat)
  | text (s : String)
  | texts (l : List String)
  | data (bytes : List UInt8)
  | seconds (l : List Binary64)
  | value (v : Value)
  | values (l : List Value)
  deriving Repr

/-- The state of the thing that was asked. -/
inductive State
  | none
  | announcer (state : String) (last : Option Int)
  | member (isRunning : Bool) (cluster : Option String) (hasFilter : Bool) (pending : Nat)
  deriving DecidableEq, Repr

/-- The answer to a step. -/
inductive Answer
  /-- There is nothing of that name. -/
  | unknown
  /-- What came of the step, and a state. -/
  | done (outcome : Except Failure Result) (state : State)

end RollCall.Scenario
