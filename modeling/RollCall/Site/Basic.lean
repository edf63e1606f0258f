import RollCall.Logging.Board
import RollCall.Member.Basic

/-!
# Sites

A site is a place where announcers and members work side by side: they share one clock, one log,
one tally and one object store. A site records every call to the store, in order. What the store is
made of is left open: it is a *world* of any type.

Work given to a pool of workers is done at once or waits, as the site is told; what waits is done
later, in order. Nothing else takes time.

## Main definitions

* `Call`: what is recorded of a call to the store.
* `Job`, `Task`, `Stall`: work for a pool, and which work waits.
* `Site`: all that there is.
-/

namespace RollCall

/-- A call to the store through a gateway, or the beginning of an announcer's loop. -/
inductive Call
  | put (gateway : Nat) (key : String) (data : List UInt8)
  | get (gateway : Nat) (key : String)
  | list (gateway : Nat) (keyPrefix : String)
  | delete (gateway : Nat) (key : String)
  | checkBucket (gateway : Nat)
  | close (gateway : Nat)
  | connect
  | loop (name : String)
  deriving DecidableEq, Repr

/-- Work for a pool: renewing a record, or answering a query. -/
inductive Job
  | refresh (announcer : Nat)
  | query (query : PeerQuery)
  deriving DecidableEq, Repr

/-- Work that waits: its number, the pool and the member it belongs to. -/
structure Task where
  number : Nat
  pool : Nat
  member : Nat
  job : Job
  deriving DecidableEq, Repr

/-- Which work waits. -/
inductive Stall
  | nothing
  | everything
  | queries
  | refreshes
  deriving DecidableEq, Repr

/-- Whether work waits. -/
def Stall.holds : Stall → Job → Bool
  | .nothing, _ => false
  | .everything, _ => true
  | .queries, .query _ => true
  | .refreshes, .refresh _ => true
  | _, _ => false

/-- All that there is at a place. -/
structure Site (ω : Type) where
  world : ω
  now : Int
  calls : List Call
  lines : List Logging.Line
  tally : Tally
  /-- All announcers that were ever made. -/
  announcers : List Announcer
  /-- All members that were ever made. -/
  members : List Member
  /-- The log filters of the members. -/
  board : Logging.Board Nat
  /-- How many gateways were opened. -/
  gateways : Nat
  /-- How many pools were made. -/
  pools : Nat
  /-- How many tasks have waited. -/
  numbered : Nat
  /-- The tasks that wait, in order. -/
  waiting : List Task
  stall : Stall
  /-- Whether loops do not end when they are told to. -/
  isLoopStuck : Bool

/-- Something done at a site. -/
abbrev Doing (ω α : Type) := StateM (Site ω) α

namespace Site

variable {ω : Type}

/-- A site where nothing has happened. -/
def initial (world : ω) (now : Int) : Site ω where
  world
  now
  calls := []
  lines := []
  tally := .empty
  announcers := []
  members := []
  board := .empty
  gateways := 0
  pools := 0
  numbered := 0
  waiting := []
  stall := .nothing
  isLoopStuck := false

/-- Says a line. -/
def say (level : Logging.Level) (text : String) : Doing ω Unit :=
  modify fun s => { s with lines := s.lines ++ [⟨level, text⟩] }

/-- Counts something. -/
def count (c : Counter) : Doing ω Unit :=
  modify fun s => { s with tally := s.tally.bump c }

/-- Records a call. -/
def record (c : Call) : Doing ω Unit :=
  modify fun s => { s with calls := s.calls ++ [c] }

/-- Lets the clock advance. -/
def advance (millis : Int) : Doing ω Unit :=
  modify fun s => { s with now := s.now + millis }

/-- Lets the world act. -/
def act {α : Type} (f : StateM ω α) : Doing ω α :=
  fun s =>
    let (a, world) := f s.world
    (a, { s with world })

/-! ### Announcers and members -/

/-- An announcer by its number. -/
def announcer (i : Nat) : Doing ω Announcer :=
  return (← get).announcers.getD i default

/-- Changes an announcer. -/
def updateAnnouncer (i : Nat) (f : Announcer → Announcer) : Doing ω Unit :=
  modify fun s => { s with announcers := s.announcers.modify i f }

/-- Adds an announcer. -/
def addAnnouncer (a : Announcer) : Doing ω Nat :=
  modifyGet fun s => (s.announcers.length, { s with announcers := s.announcers ++ [a] })

/-- A member by its number. -/
def member (i : Nat) : Doing ω Member :=
  return (← get).members.getD i default

/-- Changes a member. -/
def updateMember (i : Nat) (f : Member → Member) : Doing ω Unit :=
  modify fun s => { s with members := s.members.modify i f }

/-- Adds a member. -/
def addMember (m : Member) : Doing ω Nat :=
  modifyGet fun s => (s.members.length, { s with members := s.members ++ [m] })

/-- Whether a member is announcing. -/
def isRunning (s : Site ω) (m : Member) : Bool :=
  match m.announcer with
  | none => false
  | some i => (s.announcers.getD i default).isAnnouncing

/-! ### Work -/

/-- Makes a pool. -/
def newPool : Doing ω Nat :=
  modifyGet fun s => (s.pools, { s with pools := s.pools + 1 })

/-- Lets work wait, as a pending task of a member. -/
def enqueue (member pool : Nat) (job : Job) : Doing ω Unit := do
  let number ← modifyGet fun s =>
    (s.numbered, { s with
      numbered := s.numbered + 1
      waiting := s.waiting ++ [⟨s.numbered, pool, member, job⟩] })
  updateMember member fun m => { m with pending := m.pending ++ [number] }

/-- Lets a member forget some pending tasks. -/
def forget (member : Nat) (numbers : List Nat) : Doing ω Unit :=
  updateMember member fun m => { m with pending := m.pending.filter fun n => !numbers.contains n }

/-- Drops the waiting tasks of a pool. -/
def cancel (member pool : Nat) : Doing ω Unit := do
  let dropped := (← get).waiting.filter fun t => t.pool == pool
  modify fun s => { s with waiting := s.waiting.filter fun t => t.pool != pool }
  forget member (dropped.map (·.number))

end Site

end RollCall
