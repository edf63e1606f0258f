import RollCall.Logging.Board

/-!
# A session of log settings

A session gives levels to loggers, adds root handlers, installs and removes the filters of named
owners, and asks what would become of a record.

## Main definitions

* `Session.Step`: what may be done in a session.
* `Session.step`: the session after a step, with the answer to it.
-/

namespace RollCall.Logging

/-- The levels given, what hangs where, and all owners named so far. -/
structure Session where
  levels : Levels
  board : Board String
  owners : List String

namespace Session

/-- What may be done in a session. -/
inductive Step
  /-- Gives a logger a level. -/
  | level (logger : String) (level : Int)
  /-- Adds a root handler. -/
  | handler (name : String)
  /-- Installs the filter of an owner. -/
  | install (owner : String)
  /-- Removes the filter of an owner. -/
  | remove (owner : String)
  /-- Sends the record of what is logged through filters. -/
  | send (notice : Notice) (times : Nat)

/-- The answer to a step: what hangs where, or what became of a record. -/
inductive Answer
  | hung (installed : List (String × Bool)) (loggers : List Nat) (handlers : List (String × Nat))
  | sent (verdicts : List Bool) (record : Record)

/-- The session before the first step. -/
def empty : Session := ⟨[], .empty, []⟩

/-- What hangs where, in numbers. -/
def hung (s : Session) : Answer :=
  .hung (s.owners.map fun owner => (owner, s.board.isInstalled owner))
    (s.board.loggers.map List.length)
    (s.board.handlers.map fun h => (h.name, h.filters.length))

/-- The session with an owner named. -/
def name (s : Session) (owner : String) : Session :=
  if s.owners.contains owner then s else { s with owners := s.owners ++ [owner] }

/-- The session after a step. -/
def next (s : Session) : Step → Session
  | .level logger level => { s with levels := (logger, level) :: s.levels }
  | .handler name => { s with board := s.board.addHandler name }
  | .install owner => { s.name owner with board := s.board.install owner }
  | .remove owner => { s.name owner with board := s.board.remove owner }
  | .send _ _ => s

/-- The session after a step, with the answer to it. -/
def step (s : Session) (t : Step) : Session × Answer :=
  match t with
  | .send notice times =>
    let (verdicts, r) := (Record.ofNotice notice).passes s.levels times
    (s, .sent verdicts r)
  | t => (s.next t, (s.next t).hung)

end Session

end RollCall.Logging
