import Mathlib.Data.List.Basic
import Mathlib.Data.List.Induction
import Mathlib.Data.List.OfFn
import Mathlib.Logic.Function.Basic
import RollCall.Announcer.Life
import RollCall.PeerQuery.Run
import RollCall.Proofs.Since
import RollCall.Store.Backend

/-!
# Neighborhoods

A neighborhood is some nodes of one cluster that share a store in memory and a clock. Each has an
announcer and asks for its peers, with settings of its own as long as they name the same prefix of
keys and the same cluster. A run is any sequence of events: the clock goes on, or a node starts,
announces, goes through a round of its loop, renews its record, stops or asks. The history of a run
holds what each event did: the time afterwards, the calls to the store, and the outcome.

## Conventions

A node has *written* its record in an event if the event called the store to put something under the
key of the node; in memory no such call fails. Its *latest* write is one that is followed neither by
another nor by a stop of the node that came to an end. Nothing is asked of clock or settings: where
no record can be made, none is written.

## Main definitions

* `Neighborhood`: the nodes.
* `Neighborhood.Event`, `Neighborhood.perform`: the events of a run.
* `Neighborhood.history`: what a run did.
* `Neighborhood.LatestWrite`: when a node wrote the record that still stands.

## Main results

* `latestWrite_concat_iff`: the latest write after one more event.
* `LatestWrite.unique`: there is at most one latest write.
-/

namespace RollCall

/-- Nodes of one cluster that share a gateway to a store. -/
structure Neighborhood (n : ℕ) where
  gateway : ℕ
  keyPrefix : String
  cluster : String
  settings : Fin n → Settings
  node : Fin n → String
  host : Fin n → String
  port : Fin n → Int
  /-- How long a record of each node counts, in milliseconds. -/
  ttl : Fin n → Int
  /-- How long each node does not renew its record without need, in milliseconds. -/
  interval : Fin n → Int
  keyPrefix_eq (i : Fin n) : (settings i).keyPrefix = keyPrefix
  cluster_eq (i : Fin n) : (settings i).cluster = cluster
  ttl_eq (i : Fin n) : Duration.millis (settings i).expiration = .ok (ttl i)
  interval_eq (i : Fin n) : Duration.millis (settings i).interval = .ok (interval i)
  node_injective : Function.Injective node

namespace Neighborhood

variable {n : ℕ} (h : Neighborhood n)

/-- The key of a node. -/
def key (i : Fin n) : String :=
  ObjectKey.node h.keyPrefix h.cluster (h.node i)

/-- The address at which a node is reached. -/
def address (i : Fin n) : Address := ⟨h.host i, h.port i⟩

/-- The announcer of a node before anything happened. -/
def announcer (i : Fin n) : Announcer where
  gateway := h.gateway
  settings := h.settings i
  node := .text (h.node i)
  host := .text (h.host i)
  port := .int (h.port i)
  key := h.key i
  ttl := h.ttl i
  interval := h.interval i
  isAnnouncing := false
  isStopRequested := false
  hasLoop := false
  isWriting := false
  last := none

/-- It is the announcer that is made for the settings and the node. -/
theorem create_announcer (i : Fin n) :
    Announcer.create h.gateway (h.settings i) (.text (h.node i)) (.text (h.host i))
      (.int (h.port i)) = .ok (h.announcer i) := by
  rw [Announcer.create, h.ttl_eq, h.interval_eq, announcer, key, h.keyPrefix_eq, h.cluster_eq]
  rfl

/-- What a node looks for. -/
def query (i : Fin n) : PeerQuery :=
  .create h.gateway (h.settings i) (.text (h.node i))

theorem key_injective : Function.Injective h.key := by
  intro i j hij
  exact h.node_injective (String.append_right_inj _ |>.1 hij)

/-! ### Runs -/

/-- An event of a run. -/
inductive Event (n : ℕ)
  /-- The clock goes on. -/
  | wait (millis : ℕ)
  | start (i : Fin n)
  | announce (i : Fin n)
  /-- A round of the loop of a node, after a wait. -/
  | tick (i : Fin n) (millis : ℕ)
  | refresh (i : Fin n)
  | stop (i : Fin n) (patience : Value)
  | discover (i : Fin n)

/-- What came of an event. -/
inductive Outcome
  | waited
  | renewed (result : Except Failure Bool)
  | ticked (waits : List Binary64)
  | stopped (result : Except Failure Unit)
  | found (result : Except Failure (List Address))
  deriving DecidableEq, Repr

/-- An event and its outcome. -/
def perform : Event n → Doing Store Outcome
  | .wait millis => do
    Site.advance millis
    return .waited
  | .start i => return .renewed (← Announcer.start (.ofBackend Store.backend) i)
  | .announce i => return .renewed (← Announcer.announce (.ofBackend Store.backend) i)
  | .tick i millis => return .ticked (← Announcer.tick (.ofBackend Store.backend) i millis 1)
  | .refresh i => return .renewed (← Announcer.refresh (.ofBackend Store.backend) i)
  | .stop i patience => return .stopped (← Announcer.stop (.ofBackend Store.backend) i patience)
  | .discover i => return .found (← (h.query i).discover (.ofBackend Store.backend))

/-- What an event did. -/
structure Entry (n : ℕ) where
  event : Event n
  /-- The time afterwards. -/
  now : Int
  /-- The calls to the store. -/
  calls : List Call
  outcome : Outcome

/-- What an event does, and the site afterwards. -/
def step (event : Event n) (s : Site Store) : Entry n × Site Store :=
  let (outcome, s') := h.perform event s
  (⟨event, s'.now, s'.calls.drop s.calls.length, outcome⟩, s')

/-- What some events do, one after the other, and the site afterwards. -/
def run : List (Event n) → Site Store → List (Entry n) × Site Store
  | [], s => ([], s)
  | event :: events, s =>
    let (entry, s') := h.step event s
    let (entries, s'') := run events s'
    (entry :: entries, s'')

/-- The site before the first event: the store is empty, and no node has begun. -/
def initial (now : Int) : Site Store :=
  { Site.initial Store.empty now with announcers := List.ofFn h.announcer }

/-- What a run does that begins at some time. -/
def history (now : Int) (events : List (Event n)) : List (Entry n) :=
  (h.run events (h.initial now)).1

/-! ### Latest writes -/

/-- The event put something under the key of the node. -/
def Writes (entry : Entry n) (j : Fin n) : Prop :=
  ∃ gateway data, .put gateway (h.key j) data ∈ entry.calls

/-- The event was a stop of the node that came to an end. -/
def Entry.Stops (entry : Entry n) (j : Fin n) : Prop :=
  ∃ patience, entry.event = .stop j patience ∧ entry.outcome = .stopped (.ok ())

/-- The node wrote its record at some time, and neither wrote nor stopped since. -/
def LatestWrite (past : List (Entry n)) (j : Fin n) (w : Int) : Prop :=
  ∃ before entry after, past = before ++ entry :: after ∧ h.Writes entry j ∧ entry.now = w ∧
    ∀ e ∈ after, ¬h.Writes e j ∧ ¬e.Stops j

theorem latestWrite_iff_since {past : List (Entry n)} {j : Fin n} {w : Int} :
    h.LatestWrite past j w ↔ Since (fun _ e => h.Writes e j ∧ e.now = w)
      (fun e => ¬h.Writes e j ∧ ¬e.Stops j) past := by
  simp only [LatestWrite, Since, and_assoc]

theorem not_latestWrite_nil (j : Fin n) (w : Int) : ¬h.LatestWrite [] j w := by
  rw [latestWrite_iff_since]
  exact not_since_nil

/-- **The latest write after one more event** is made by that event, or it was the latest before and
the event neither wrote nor stopped. -/
theorem latestWrite_concat_iff {past : List (Entry n)} {entry : Entry n} {j : Fin n} {w : Int} :
    h.LatestWrite (past ++ [entry]) j w ↔
      h.Writes entry j ∧ entry.now = w ∨
        ¬h.Writes entry j ∧ ¬entry.Stops j ∧ h.LatestWrite past j w := by
  rw [latestWrite_iff_since, since_concat_iff, latestWrite_iff_since, and_assoc]

/-- There is at most one latest write of a node. -/
theorem LatestWrite.unique {past : List (Entry n)} {j : Fin n} {w w' : Int}
    (hw : h.LatestWrite past j w) (hw' : h.LatestWrite past j w') : w = w' := by
  induction past using List.reverseRecOn with
  | nil => exact absurd hw (h.not_latestWrite_nil j w)
  | append_singleton past entry ih =>
    rcases h.latestWrite_concat_iff.1 hw with ⟨hwrites, hnow⟩ | ⟨hnot, -, hpast⟩
    · rcases h.latestWrite_concat_iff.1 hw' with ⟨-, hnow'⟩ | ⟨hnot', -⟩
      · exact hnow.symm.trans hnow'
      · exact absurd hwrites hnot'
    · rcases h.latestWrite_concat_iff.1 hw' with ⟨hwrites', -⟩ | ⟨-, -, hpast'⟩
      · exact absurd hwrites' hnot
      · exact ih hpast hpast'

end Neighborhood

end RollCall
