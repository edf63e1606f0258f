import RollCall.Scenario.World

/-!
# Running a scenario

The steps of a scenario are done one after the other. A hook is used once: when the call that it
waits for comes, it is taken away and its steps are done, with hooks of their own; hooks that these
bring wait for another call. As every hook was a step, there cannot be more hooks inside each other
than steps, and a number of them bounds the depth.

## Main definitions

* `Scenario.perform`: a step and its answer.
* `Scenario.gateway`: the gateway whose calls hooks wait for, down to a depth.
* `Scenario.run`: a scenario from the beginning, with a report of each step.
-/

namespace RollCall.Scenario

/-- Something done in a scenario. -/
abbrev Act (α : Type) := Doing World α

/-- Changes the world. -/
def change (f : World → World) : Act Unit :=
  modify fun s => { s with world := f s.world }

/-- The world. -/
def world : Act World :=
  return (← get).world

/-! ### Answers -/

/-- The answer of a step that nothing comes of. -/
def silent : Answer := .done (.ok .nothing) .none

/-- The answer of a step with a result. -/
def plain (r : Result) : Answer := .done (.ok r) .none

/-- The state of an announcer. -/
def announcerState (i : Nat) : Act State := do
  let a ← Site.announcer i
  return .announcer a.stateName a.last

/-- The state of a member. -/
def memberState (i : Nat) : Act State := do
  let s ← get
  let m ← Site.member i
  return .member (s.isRunning m) (m.settings.map (·.cluster)) (s.board.isInstalled i)
    m.pending.length

/-- The answer of an announcer. -/
def ofAnnouncer {α : Type} (i : Nat) (result : α → Result) (act : Act (Except Failure α)) :
    Act Answer := do
  let r ← act
  return .done (r.map result) (← announcerState i)

/-- The answer of a member. -/
def ofMember {α : Type} (i : Nat) (result : α → Result) (act : Act (Except Failure α)) :
    Act Answer := do
  let r ← act
  return .done (r.map result) (← memberState i)

/-- The answer without a state. -/
def stateless {α : Type} (result : α → Result) (act : Act (Except Failure α)) : Act Answer :=
  return .done ((← act).map result) .none

/-- The answer of a thing of a name. -/
def named {α : Type} (things : World → List (String × α)) (name : String)
    (act : α → Act Answer) : Act Answer := do
  match (things (← world)).lookup name with
  | none => return .unknown
  | some thing => act thing

/-! ### Steps on the store -/

/-- A step that goes to the store directly. -/
def onStore (f : Store → Store) : Act Answer := do
  change fun w => { w with store := f w.store }
  return silent

/-- Writes a record to the store directly. -/
def storeRecord (key : String) (entries : List (Value × Value)) : Act Answer := do
  match Presence.ofEntries entries >>= Presence.encode with
  | .error f => return .done (.error f) .none
  | .ok data => onStore fun s => s.put key data

/-- The next key of a listing. -/
def storeNext (name : String) : Act Answer :=
  named World.listings name fun listing => do
    let (key, listing) := listing.next (← world).store
    change fun w => { w with listings := replaceEntry name listing w.listings }
    return plain (key.elim .null .text)

/-! ### Steps that make things -/

/-- Makes an announcer. -/
def makeAnnouncer (name : String) (node host port config : Value) : Act Answer := do
  match Settings.ofValue config >>= fun s => Announcer.create 0 s node host port with
  | .error f => return .done (.error f) .none
  | .ok a =>
    let i ← Site.addAnnouncer a
    change fun w => { w with announcers := replaceEntry name i w.announcers }
    ofAnnouncer i .values (return .ok [.text a.key, a.node])

/-- Makes a query. -/
def makeQuery (name : String) (node config : Value) : Act Answer := do
  match Settings.ofValue config with
  | .error f => return .done (.error f) .none
  | .ok s =>
    let q := PeerQuery.create 0 s node
    change fun w => { w with queries := replaceEntry name q w.queries }
    return plain (.text q.clusterPrefix)

/-- Makes a member. -/
def makeMember (name : String) (node host port : Value) : Act Answer := do
  let i ← Site.addMember (.create node host port)
  change fun w => { w with members := replaceEntry name i w.members }
  ofMember i .value (return .ok node)

/-- Makes a roster. -/
def makeRoster (name member : String) (includesSelf : Bool) : Act Answer :=
  named World.members member fun i => do
    change fun w => { w with rosters := replaceEntry name ⟨i, includesSelf⟩ w.rosters }
    return silent

/-! ### All steps -/

/-- The announcer of a name, or else that of the member of the name. -/
def announcerNamed (name : String) (s : Site World) : Option Nat :=
  s.world.announcers.lookup name <|>
    (s.world.members.lookup name).bind fun i => (s.members.getD i default).announcer

/-- Some rounds of the loop of an announcer. -/
def tick (g : Gateway World) (name : String) (rounds : Nat) (millis : Int) : Act Answer := do
  match announcerNamed name (← get) with
  | none => return .unknown
  | some i => ofAnnouncer i .seconds (return .ok (← Announcer.tick g i millis rounds))

/-- Starts a member; settings that are to be checked before are checked before. -/
def memberStart (g : Gateway World) (i : Nat) (config : Value) (isChecked : Bool) :
    Act (Except Failure Unit) := do
  if isChecked then
    match Settings.ofValue config with
    | .error f => return .error f
    | .ok s => Member.start g i (.ready s)
  else Member.start g i (.value config)

/-- A step and its answer. -/
def perform (g : Gateway World) : Step → Act Answer
  | .advance millis => do
    Site.advance millis
    return silent
  | .status status => do
    change fun w => { w with status }
    return silent
  | .phantom keys => do
    change fun w => { w with phantoms := keys }
    return silent
  | .stuck isStuck => do
    modify fun s => { s with isLoopStuck := isStuck }
    return silent
  | .fault on key cause times => do
    change fun w => { w with faults := w.faults ++ [⟨on, key, cause, times⟩] }
    return silent
  | .clearFaults => do
    change fun w => { w with faults := [] }
    return silent
  | .hook on key side steps => do
    change fun w => { w with
      hooks := w.hooks ++ [⟨w.hooked, on, key, side, steps⟩]
      hooked := w.hooked + 1 }
    return silent
  | .mode stall => do
    modify fun s => { s with stall }
    return silent
  | .drain => do return plain (.number (← Member.drain g))
  | .storePut key data => onStore fun s => s.put key data
  | .storeRecord key record => storeRecord key record
  | .storeGet key => do return .done (((← world).store.get key).map .data) .none
  | .storeDelete key => onStore fun s => s.delete key
  | .storeList keyPrefix => do return plain (.texts ((← world).store.list keyPrefix))
  | .storeOpen listing keyPrefix => do
    change fun w => { w with listings := replaceEntry listing (.fresh keyPrefix) w.listings }
    return silent
  | .storeNext listing => storeNext listing
  | .storeKeys => do return plain (.texts (← world).store.keys)
  | .storeCheck => return plain (.text BucketStatus.existing.name)
  | .storeClose => return plain .null
  | .announcer name node host port config => makeAnnouncer name node host port config
  | .start name =>
    named World.announcers name fun i => ofAnnouncer i .flag (Announcer.start g i)
  | .announce name =>
    named World.announcers name fun i => ofAnnouncer i .flag (Announcer.announce g i)
  | .refresh name =>
    named World.announcers name fun i => ofAnnouncer i .flag (Announcer.refresh g i)
  | .stop name patience =>
    named World.announcers name fun i =>
      ofAnnouncer i (fun _ => .nothing) (Announcer.stop g i patience)
  | .tick name rounds millis => tick g name rounds millis
  | .query name node config => makeQuery name node config
  | .discover name =>
    named World.queries name fun q =>
      stateless (fun as => .texts (as.map Address.text)) (q.discover g)
  | .member name node host port => makeMember name node host port
  | .memberStart name config isChecked =>
    named World.members name fun i =>
      ofMember i (fun _ => .nothing) (memberStart g i config isChecked)
  | .memberDiscover name =>
    named World.members name fun i =>
      ofMember i (fun as => .texts (as.map Address.text)) (Member.discover g i)
  | .memberStop name =>
    named World.members name fun i => ofMember i (fun _ => .null) (Member.stop g i)
  | .memberAddress name =>
    named World.members name fun i =>
      stateless .text (return (← Site.member i).address.map Address.text)
  | .roster name member includesSelf => makeRoster name member includesSelf
  | .rosterNodes name => named World.rosters name fun r => stateless .texts (r.nodes g)
  | .rosterSelf name => named World.rosters name fun r => stateless .text r.self

/-! ### Hooks -/

/-- Whether a hook waits for a side of a call. -/
def Hook.awaits (h : Hook) (side : Side) (operation : Operation) (key : Option String) :
    Bool :=
  h.side == side && h.on == operation && meetsKey h.key key

/-- Takes away the hook of a number: its steps, none if it was used already. -/
def takeHook (number : Nat) : Act (List Step) := do
  match (← world).hooks.find? fun h => h.number == number with
  | none => return []
  | some hook =>
    change fun w => { w with hooks := w.hooks.filter fun h => h.number != number }
    return hook.steps

/-- The steps of hooks, one after the other, with their answers kept. -/
def performHooked (g : Gateway World) : List Step → Act Unit
  | [] => return ()
  | t :: ts => do
    let answer ← perform g t
    change fun w => { w with hookAnswers := w.hookAnswers ++ [answer] }
    performHooked g ts

/-- Does the steps of the hooks of some numbers. -/
def runHooks (g : Gateway World) : List Nat → Act Unit
  | [] => return ()
  | number :: numbers => do
    performHooked g (← takeHook number)
    runHooks g numbers

/-- Does the steps of all hooks that wait for a side of a call when it comes. -/
def runAwaiting (g : Gateway World) (side : Side) (operation : Operation) (key : Option String) :
    Act Unit := do
  runHooks g (((← world).hooks.filter fun h => h.awaits side operation key).map (·.number))

/-- The gateway whose calls hooks wait for, with hooks inside each other down to a depth. -/
def gateway : (depth : Nat) → Gateway World
  | 0 => .ofBackend backend
  | depth + 1 =>
    .around backend
      { before := fun operation key => runAwaiting (gateway depth) .before operation key
        after := fun operation key => runAwaiting (gateway depth) .after operation key }

/-! ### Whole scenarios -/

mutual

/-- How many hooks a step may bring. -/
def Step.hooks : Step → Nat
  | .hook _ _ _ steps => hooksIn steps + 1
  | _ => 0

/-- How many hooks some steps may bring. -/
def hooksIn : List Step → Nat
  | [] => 0
  | t :: ts => t.hooks + hooksIn ts

end

/-- What is reported of a step: its answer, the calls and lines that it brought, and the answers to
the steps of hooks in it. -/
structure Report where
  answer : Answer
  calls : List Call
  lines : List Logging.Line
  hookAnswers : List Answer

/-- A step with a report. -/
def report (g : Gateway World) (t : Step) : Act Report := do
  let s ← get
  let answer ← perform g t
  let s' ← get
  return { answer
           calls := s'.calls.drop s.calls.length
           lines := s'.lines.drop s.lines.length
           hookAnswers := s'.world.hookAnswers.drop s.world.hookAnswers.length }

/-- Steps with their reports. -/
def reports (g : Gateway World) : List Step → Act (List Report)
  | [] => return []
  | t :: ts => do return (← report g t) :: (← reports g ts)

/-- A scenario from the beginning. -/
def run (now : Int) (steps : List Step) : List Report × Site World :=
  reports (gateway (hooksIn steps)) steps (.initial .initial now)

end RollCall.Scenario
