import RollCall.Site.Gateway

/-!
# Running a query

A query lists the keys of the cluster first and all of them, then looks at the clock, and then reads
the records one after the other. If the listing fails, the query fails and nothing is read. Expired
records are deleted afterwards, if the settings ask for it; a failure to delete one does not matter
to the answer.

## Main definitions

* `PeerQuery.discover`: the addresses of the peers.
-/

namespace RollCall.PeerQuery

variable {ω : Type} (g : Gateway ω) (q : PeerQuery)

/-- Notes what a reading means: counts a record that is skipped, and says why where that is worth
saying. -/
def announceVerdict (now : Int) (key : String) (reading : Reading) : Doing ω Unit := do
  match q.judge now reading with
  | .accept _ => pure ()
  | .skip reason => Site.count (.skipped q.cluster reason)
  match reading with
  | .error e =>
    if let some text := unreadText key e then Site.say .warning text
  | .ok r =>
    if q.judge now reading = .skip .foreign then Site.say .debug (foreignText key r)

/-- Reads the records under some keys but the node's own, and adds them to the sightings. -/
def survey (now : Int) : List String → Sightings → Doing ω (Except Failure Sightings)
  | [], seen => return .ok seen
  | key :: keys, seen => do
    if key = q.ownKey then survey now keys seen
    else
      match read key (← g.get q.gateway key) with
      | .error f => return .error f
      | .ok reading =>
        announceVerdict q now key reading
        survey now keys (seen.note key (q.judge now reading))

/-- Deletes the expired records under some keys. -/
def clean : List String → Doing ω (Except Failure Unit)
  | [] => return .ok ()
  | key :: keys => do
    match ← g.delete q.gateway key with
    | .ok () =>
      Site.say .debug (deletedText key)
      clean keys
    | .error f =>
      if f.isStore then
        Site.say .warning (undeletedText key f)
        clean keys
      else return .error f

/-- Answers a query whose records have been read. -/
def conclude (records : Nat) (seen : Sightings) : Doing ω (Except Failure (List Address)) := do
  let cleaned ← if q.cleanup then clean g q seen.expired else pure (.ok ())
  match cleaned with
  | .error f => return .error f
  | .ok () =>
    let peers := answer seen
    Site.count (.queries q.cluster true)
    modify fun s => { s with tally := s.tally.setFound q.cluster peers.length }
    Site.say .debug (q.resolvedText peers.length records)
    return .ok peers

/-- The addresses of the peers. -/
def discover : Doing ω (Except Failure (List Address)) := do
  match ← g.list q.gateway q.clusterPrefix with
  | .error f =>
    if f.isStore then
      Site.count (.queries q.cluster false)
      Site.say .error (q.unlistedText f)
      return .error (q.unlisted f)
    else return .error f
  | .ok keys =>
    match ← survey g q (← get).now keys .none with
    | .error f => return .error f
    | .ok seen => conclude g q keys.length seen

end RollCall.PeerQuery
