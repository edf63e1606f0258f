import RollCall.Site.Gateway

/-!
# The life of an announcer

What an announcer does at a site. The record is written only while the announcer is announcing, and
never while it is being written or withdrawn by someone else who waits for it; an announcer that is
told to stop while its record is being written gives up withdrawing it. A write that the store
refuses is tried again on the next occasion; any other failure is passed on.

## Main definitions

* `Announcer.announce`: writes the record.
* `Announcer.refresh`: writes the record unless it was written within the interval.
* `Announcer.start`, `Announcer.stop`.
* `Announcer.tick`: some rounds of the loop.
-/

namespace RollCall.Announcer

variable {ω : Type} (g : Gateway ω)

/-- Writes the record, if the announcer is announcing: its expiry, or nothing if it was not
written. -/
def write (i : Nat) : Doing ω (Except Failure (Option Int)) := do
  let a ← Site.announcer i
  if !a.isAnnouncing then return .ok none
  let now := (← get).now
  match a.record now >>= fun r => r.encode.map fun data => (r, data) with
  | .error f => return .error f
  | .ok (r, data) =>
    match ← g.put a.gateway a.key data with
    | .ok () =>
      Site.updateAnnouncer i fun a => { a with last := some now }
      return .ok (some r.expires)
    | .error f =>
      if f.isStore then
        Site.count (.announcements a.settings.cluster false)
        Site.say .warning (a.notAnnouncedText f)
        return .ok none
      else return .error f

/-- Writes the record, if the announcer is announcing, and says whether it was written. -/
def announce (i : Nat) : Doing ω (Except Failure Bool) := do
  let a ← Site.announcer i
  Site.updateAnnouncer i fun a => { a with isWriting := true }
  let written ← write g i
  Site.updateAnnouncer i fun a => { a with isWriting := false }
  match written with
  | .error f => return .error f
  | .ok none => return .ok false
  | .ok (some expires) =>
    Site.count (.announcements a.settings.cluster true)
    Site.say .debug (a.announcedText expires)
    return .ok true

/-- Writes the record unless it was written within the interval, and says whether it was written
now. -/
def refresh (i : Nat) : Doing ω (Except Failure Bool) := do
  let a ← Site.announcer i
  if !a.isAnnouncing then return .ok false
  if a.isDue (← get).now then announce g i else return .ok false

/-- Begins to announce: writes the record and begins the loop. An announcer that is announcing says
whether it ever wrote its record. -/
def start (i : Nat) : Doing ω (Except Failure Bool) := do
  let a ← Site.announcer i
  if a.isAnnouncing then return .ok a.last.isSome
  Site.updateAnnouncer i fun a => { a with isStopRequested := false, isAnnouncing := true }
  match ← announce g i with
  | .error f => return .error f
  | .ok written =>
    Site.updateAnnouncer i fun a => { a with hasLoop := true }
    Site.record (.loop a.loopName)
    Site.say .info a.announcingText
    return .ok written

/-- Ends the loop, if there is one. -/
def endLoop (i : Nat) (patience : Value) : Doing ω Unit := do
  let a ← Site.announcer i
  if a.hasLoop then
    if (← get).isLoopStuck then Site.say .warning (a.loopStuckText patience)
    Site.updateAnnouncer i fun a => { a with hasLoop := false }

/-- Withdraws the record, unless it is being written. -/
def withdraw (i : Nat) (patience : Value) : Doing ω (Except Failure Unit) := do
  let a ← Site.announcer i
  if a.isWriting then
    Site.updateAnnouncer i fun a => { a with isAnnouncing := false }
    Site.say .warning (a.gaveUpText patience)
    return .ok ()
  Site.updateAnnouncer i fun a => { a with isWriting := true, isAnnouncing := false }
  let r ← g.delete a.gateway a.key
  let result : Except Failure Unit ←
    match r with
    | .ok () =>
      Site.say .info a.removedText
      pure (.ok ())
    | .error f =>
      if f.isStore then
        Site.say .warning (a.notRemovedText f)
        pure (.ok ())
      else pure (.error f)
  Site.updateAnnouncer i fun a => { a with isWriting := false }
  return result

/-- Stops announcing: ends the loop and withdraws the record. Both together may take as long as
`patience` says. -/
def stop (i : Nat) (patience : Value) : Doing ω (Except Failure Unit) := do
  let a ← Site.announcer i
  if !a.isAnnouncing then return .ok ()
  Site.updateAnnouncer i fun a => { a with isStopRequested := true }
  endLoop i patience
  withdraw g i patience

/-- What is said when a round of the loop fails. -/
def loopFailedText : String := "Announce loop error"

/-- Some rounds of the loop, each after a wait of some milliseconds, and one more wait, which ends
the loop; it also ends when it is told to. The waits are those that the settings ask for. -/
def tick (i : Nat) (millis : Int) : (rounds : Nat) → Doing ω (List Binary64)
  | 0 => return [(← Site.announcer i).settings.interval]
  | rounds + 1 => do
    let a ← Site.announcer i
    if a.isStopRequested then return [a.settings.interval]
    Site.advance millis
    match ← announce g i with
    | .ok _ => pure ()
    | .error _ => Site.say .error loopFailedText
    return a.settings.interval :: (← tick i millis rounds)

end RollCall.Announcer
