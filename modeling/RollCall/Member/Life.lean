import RollCall.Announcer.Life
import RollCall.PeerQuery.Run
import RollCall.Settings.Reader

/-!
# The life of a member

What a member does at a site. Starting checks the settings and the identity, installs the log
filter, opens a gateway, has a look at the bucket and lets an announcer begin; whatever fails on the
way, the gateway is closed again and the filter removed. Discovering gives the pool two tasks, one
that renews the record and one that answers the query, and waits for the second only. Stopping
withdraws the record and gives everything back.

## Main definitions

* `Member.start`, `Member.discover`, `Member.stop`.
* `Member.perform`: a task that waited.
* `Member.drain`: all tasks that wait.
-/

namespace RollCall.Member

variable {ω : Type} (g : Gateway ω)

/-! ### Starting -/

/-- Settings as they are offered: checked already, or as a value. -/
inductive Offered
  | ready (settings : Settings)
  | value (value : Value)

/-- The settings that are offered. -/
def Offered.settings : Offered → Except Failure Settings
  | .ready s => .ok s
  | .value v => Settings.ofValue v

/-- Closes a gateway; a failure is only noted. -/
def closeGateway (gateway : Nat) : Doing ω Unit := do
  match ← g.close gateway with
  | .ok () => pure ()
  | .error _ => Site.say .error notClosedText

/-- Removes the log filter of a member. -/
def removeFilter (i : Nat) : Doing ω Unit :=
  modify fun s => { s with board := s.board.remove i }

/-- Undoes what a start did that failed. -/
def abort (i : Nat) (gateway : Option Nat) : Doing ω Unit := do
  match gateway with
  | some gateway => closeGateway g gateway
  | none => pure ()
  removeFilter i

/-- Has a look at the bucket and lets an announcer begin: the announcer. -/
def appear (m : Member) (settings : Settings) (gateway : Nat) : Doing ω (Except Failure Nat) := do
  match ← g.checkBucket gateway with
  | .error f => return .error f
  | .ok status =>
    let line := statusLine settings status
    Site.say line.level line.text
    match Announcer.create gateway settings m.node m.host m.port with
    | .error f => return .error f
    | .ok a =>
      let announcer ← Site.addAnnouncer a
      match ← Announcer.start g announcer with
      | .error f => return .error f
      | .ok written =>
        if !written then Site.say .warning m.unseenText
        return .ok announcer

/-- Opens a gateway and appears to the peers: the gateway and the announcer. If that fails, what was
done is undone. -/
def enter (i : Nat) (m : Member) (settings : Settings) :
    Doing ω (Except Failure (Nat × Nat)) := do
  modify fun s => { s with board := s.board.install i }
  match ← g.connect settings with
  | .error f =>
    abort g i none
    return .error f
  | .ok gateway =>
    match ← appear g m settings gateway with
    | .error f =>
      abort g i (some gateway)
      return .error f
    | .ok announcer => return .ok (gateway, announcer)

/-- Starts a member that is not started, with settings that were checked. -/
def startWith (i : Nat) (m : Member) (settings : Settings) : Doing ω (Except Failure Unit) := do
  match ← enter g i m settings with
  | .error f => return .error f
  | .ok (gateway, announcer) =>
    let pool ← Site.newPool
    Site.updateMember i fun m => { m with
      settings := some settings
      gateway := some gateway
      announcer := some announcer
      query := some (.create gateway settings m.node)
      pool := some pool }
    Site.say .info (m.startedText settings)
    return .ok ()

/-- Starts a member; one that is started stays as it is. -/
def start (i : Nat) (offered : Offered) : Doing ω (Except Failure Unit) := do
  let m ← Site.member i
  if m.pool.isSome then
    Site.say .warning m.alreadyStartedText
    return .ok ()
  match offered.settings with
  | .error f => return .error f
  | .ok settings =>
    match m.checkIdentity with
    | .error f => return .error f
    | .ok () => startWith g i m settings

/-! ### Discovering -/

/-- Says that a task that renews the record failed, if it did. -/
def noteRefresh (i : Nat) (r : Except Failure Bool) : Doing ω Unit := do
  match r with
  | .ok _ => pure ()
  | .error _ => Site.say .error (← Site.member i).refreshFailedText

/-- Gives a pool the task to renew the record. -/
def submitRefresh (i pool announcer : Nat) : Doing ω Unit := do
  if (← get).stall.holds (.refresh announcer) then Site.enqueue i pool (.refresh announcer)
  else noteRefresh i (← Announcer.refresh g announcer)

/-- Gives a pool the task to answer a query: the answer, unless the task waits. -/
def submitQuery (i pool : Nat) (q : PeerQuery) :
    Doing ω (Option (Except Failure (List Address))) := do
  if (← get).stall.holds (.query q) then
    Site.enqueue i pool (.query q)
    return none
  else return some (← q.discover g)

/-- The addresses of the peers of a member. -/
def discover (i : Nat) : Doing ω (Except Failure (List Address)) := do
  let m ← Site.member i
  match m.pool, m.announcer, m.query, m.settings with
  | some pool, some announcer, some q, some settings =>
    submitRefresh g i pool announcer
    match ← submitQuery g i pool q with
    | some r => return r
    | none =>
      Site.say .error (overdueText settings)
      return .error (.discovery (overdueText settings ++ "."))
  | _, _, _, _ => return .error (.discovery notStartedMessage)

/-- Does a task that waited. -/
def perform (t : Task) : Doing ω Unit := do
  match t.job with
  | .refresh announcer =>
    let r ← Announcer.refresh g announcer
    Site.forget t.member [t.number]
    noteRefresh t.member r
  | .query q =>
    let _ ← q.discover g
    Site.forget t.member [t.number]

/-- Does some tasks, one after the other. -/
def performAll : List Task → Doing ω Unit
  | [] => return ()
  | t :: ts => do
    perform g t
    performAll ts

/-- Does all tasks that wait, in order: how many. They no longer wait, so nothing cancels them;
tasks that begin to wait meanwhile are left. -/
def drain : Doing ω Nat := do
  let tasks := (← get).waiting
  modify fun s => { s with waiting := [] }
  performAll g tasks
  return tasks.length

/-! ### Stopping -/

/-- Stops the announcer of a member, if it has one. -/
def stopAnnouncer (m : Member) (patience : Value) : Doing ω (Except Failure Unit) := do
  match m.announcer with
  | some announcer => Announcer.stop g announcer patience
  | none => return .ok ()

/-- Gives back what a member held. -/
def giveBack (i pool : Nat) (m : Member) : Doing ω Unit := do
  Site.cancel i pool
  match m.gateway with
  | some gateway => closeGateway g gateway
  | none => pure ()
  removeFilter i
  Site.updateMember i fun m => { m with gateway := none, announcer := none, pending := [] }
  Site.say .info m.stoppedText

/-- Stops a member; one that is not started stays as it is. -/
def stop (i : Nat) : Doing ω (Except Failure Unit) := do
  let m ← Site.member i
  match m.pool with
  | none => return .ok ()
  | some pool =>
    let settings := m.settings.getD default
    Site.updateMember i fun m => { m with pool := none, query := none }
    if !m.pending.isEmpty then Site.say .warning (pendingText m.pending.length settings)
    match ← stopAnnouncer g m (.float settings.stopTimeout) with
    | .error f => return .error f
    | .ok () =>
      giveBack g i pool m
      return .ok ()

end RollCall.Member
