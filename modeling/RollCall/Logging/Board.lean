import RollCall.Logging.Noise

/-!
# Installed filters

Every member of a cluster brings a noise filter of its own. Installing it hangs it on all root
handlers that there are at the moment and on every noisy logger; removing it takes it off where it
was hung. A board is the record of what hangs where. Installing what is installed, and removing
what is not, changes nothing.

## Main definitions

* `Board`: the filters on each root handler and on each noisy logger, and who is installed.
* `Board.install`, `Board.remove`, `Board.addHandler`: the three changes.
-/

namespace RollCall.Logging

/-- A root handler with the owners of the filters on it. -/
structure Handler (ι : Type) where
  name : String
  filters : List ι
  deriving DecidableEq, Repr

/-- What hangs where: the filters are named by their owners. Root handlers are never taken away,
so that an installation is described by the number of root handlers it found. -/
structure Board (ι : Type) where
  handlers : List (Handler ι)
  loggers : List (List ι)
  installed : List (ι × Nat)
  deriving DecidableEq, Repr

variable {ι : Type} [DecidableEq ι]

/-- The filters of a place with one more; a filter hangs nowhere twice. -/
def hang (owner : ι) (filters : List ι) : List ι :=
  if filters.contains owner then filters else filters ++ [owner]

/-- The filters of a place without one of them. -/
def unhang (owner : ι) (filters : List ι) : List ι :=
  filters.erase owner

/-- A root handler with its filters changed. -/
def Handler.update (f : List ι → List ι) (h : Handler ι) : Handler ι :=
  { h with filters := f h.filters }

namespace Board

/-- The board before anything is installed. -/
def empty : Board ι :=
  ⟨[], noisyLoggers.map fun _ => [], []⟩

/-- Whether the filter of an owner is installed. -/
def isInstalled (b : Board ι) (owner : ι) : Bool :=
  (b.installed.lookup owner).isSome

/-- The board with one more root handler. -/
def addHandler (b : Board ι) (name : String) : Board ι :=
  { b with handlers := b.handlers ++ [⟨name, []⟩] }

/-- The first of some root handlers changed. -/
def updateFirst (f : List ι → List ι) (n : Nat) (hs : List (Handler ι)) : List (Handler ι) :=
  (hs.take n).map (Handler.update f) ++ hs.drop n

/-- The board with the filter of an owner installed. -/
def install (b : Board ι) (owner : ι) : Board ι :=
  if b.isInstalled owner then b
  else
    { handlers := b.handlers.map (Handler.update (hang owner))
      loggers := b.loggers.map (hang owner)
      installed := (owner, b.handlers.length) :: b.installed }

/-- The board without the filter of an owner. -/
def remove (b : Board ι) (owner : ι) : Board ι :=
  match b.installed.lookup owner with
  | none => b
  | some reach =>
    { handlers := updateFirst (unhang owner) reach b.handlers
      loggers := b.loggers.map (unhang owner)
      installed := b.installed.filter fun e => e.1 != owner }

end Board

end RollCall.Logging
