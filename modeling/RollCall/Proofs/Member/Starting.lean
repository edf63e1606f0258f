import RollCall.Member.Life
import RollCall.Proofs.Announcer.Record
import RollCall.Proofs.Announcer.Stages
import RollCall.Proofs.Site.Standing

/-!
# What starting does to a site

A member that is not started can be refused its start for one of seven reasons, named by `Refusal`.
Each comes with the failure that is passed on and with the calls that are made until then: a gateway
that was opened is closed at the end, and no other is. If nothing stands against it, the member is
started.

## Main definitions

* `Member.Setback`: what may go wrong once a gateway is open.
* `Member.Debut`: what a member brings that appears to its peers.
* `Member.Refusal`: what may go wrong with a start at all.
* `Member.started`: a member that is started.

## Main results

* `start_started`: a started member stays as it is.
* `start_undone`, `start_refused`: a start that is refused.
* `start_entered`, `start_begun`: a start that nothing stands against.
-/

namespace RollCall

variable {ω : Type} {b : Backend ω} {i : Nat} {s : Site ω}

/-! ### Members by number -/

namespace Site

variable {m : Member}

theorem member_of_getElem? (h : s.members[i]? = some m) : member i s = (m, s) := by
  have hget : s.members.getD i default = m := by rw [List.getD_eq_getElem?_getD, h]; rfl
  exact congrArg (·, s) hget

theorem updateMember_of_getElem? (h : s.members[i]? = some m) (f : Member → Member) :
    updateMember i f s = ((), { s with members := s.members.set i (f m) }) := by
  have hset : s.members.modify i f = s.members.set i (f m) := by
    rw [List.modify_eq_set, h]
    rfl
  rw [← hset]
  rfl

end Site

/-! ### An announcer that begins -/

namespace Announcer

variable {a : Announcer} {r : Presence} {data : List UInt8} {f : Failure}

/-- An announcer that has begun, with the time when its record was last written. -/
def begun (a : Announcer) (last : Option Int) : Announcer :=
  { a with isStopRequested := false, isAnnouncing := true, hasLoop := true, last }

section

variable (ha : s.announcers[i]? = some a) (hstopped : a.isAnnouncing = false)
  (hidle : a.isWriting = false)
include ha hstopped hidle

/-- An announcer whose record cannot be made does not begin. -/
theorem start_refused (hbody : a.body s.now = .error f) :
    start (.ofBackend b) i s = (.error f, beginning i a s) := by
  rcases start_cases (b := b) ha hstopped with ⟨f', hbody', hstart⟩ | ⟨r', data', hbody', -⟩
  · cases hbody.symm.trans hbody'
    rw [hstart, rested_told hidle]
    rfl
  · cases hbody.symm.trans hbody'

/-- An announcer whose record is not written, and not because the store refuses it, does not
begin. -/
theorem start_unwritten (hbody : a.body s.now = .ok (r, data))
    (hput : (b.put a.key data s.world).1 = .error f) (hstore : f.isStore = false) :
    start (.ofBackend b) i s = (.error f, putting b a data (beginning i a s)) := by
  have hanswer := answerTo_eq_error_iff.2 ⟨hput, hstore⟩
  rcases start_cases (b := b) ha hstopped with ⟨f', hbody', -⟩ |
    ⟨r', data', hbody', ⟨f', hanswer', hstart⟩ | ⟨written, lines, hanswer', -⟩⟩
  · cases hbody.symm.trans hbody'
  · cases hbody.symm.trans hbody'
    cases hanswer.symm.trans hanswer'
    rw [hstart, rested_told hidle]
    rfl
  · cases hbody.symm.trans hbody'
    cases hanswer.symm.trans hanswer'

/-- An announcer begins if its record is made and written, or refused by the store. -/
theorem start_written (hbody : a.body s.now = .ok (r, data))
    (hput : ∀ f, (b.put a.key data s.world).1 = .error f → f.isStore = true) :
    ∃ written lines tally,
      start (.ofBackend b) i s = (.ok written, { putting b a data s with
        calls := s.calls ++ [.put a.gateway a.key data, .loop a.loopName]
        announcers := s.announcers.set i
          (a.begun (a.lastAfter s.now (b.put a.key data s.world).1))
        lines, tally }) := by
  rcases start_cases (b := b) ha hstopped with ⟨f', hbody', -⟩ |
    ⟨r', data', hbody', ⟨f', hanswer, -⟩ | ⟨written, lines, -, hstart⟩⟩
  · cases hbody.symm.trans hbody'
  · cases hbody.symm.trans hbody'
    obtain ⟨hfailed, hstore⟩ := answerTo_eq_error_iff.1 hanswer
    cases hstore.symm.trans (hput _ hfailed)
  · cases hbody.symm.trans hbody'
    rw [rested_told hidle] at hstart
    exact ⟨written, lines, _, hstart⟩

end

end Announcer

namespace Member

variable {m : Member} {settings : Settings} {gateway : Nat} {f : Failure} {calls : List Call}

/-! ### Undoing -/

/-- A gateway is closed, whatever comes of it. -/
theorem closeGateway_ofBackend (gateway : Nat) (s : Site ω) :
    ∃ lines, closeGateway (.ofBackend b) gateway s = ((), { s with
      world := (b.close s.world).2
      calls := s.calls ++ [.close gateway]
      lines }) := by
  rw [closeGateway, Doing.bind_of_eq (Gateway.ofBackend_close ..)]
  cases (b.close s.world).1 <;> exact ⟨_, rfl⟩

/-- What is undone when a gateway was opened. -/
theorem abort_some (i gateway : Nat) (s : Site ω) :
    ∃ lines, abort (.ofBackend b) i (some gateway) s = ((), { s with
      world := (b.close s.world).2
      calls := s.calls ++ [.close gateway]
      board := s.board.remove i
      lines }) := by
  obtain ⟨lines, hclose⟩ := closeGateway_ofBackend (b := b) gateway s
  exact ⟨lines, Doing.bind_of_eq hclose _⟩

/-! ### Setbacks -/

/-- What may go wrong once a gateway is open, with the failure and the calls that are made until
then. -/
inductive Setback (b : Backend ω) (m : Member) (settings : Settings) (gateway : Nat) (now : Int)
    (w : ω) : Failure → List Call → Prop
  /-- The bucket cannot be looked at. -/
  | bucket {f : Failure} (hcheck : (b.checkBucket w).1 = .error f) :
      Setback b m settings gateway now w f [.checkBucket gateway]
  /-- The announcer cannot be made. -/
  | announcer {status : BucketStatus} {f : Failure} (hcheck : (b.checkBucket w).1 = .ok status)
      (hcreate : Announcer.create gateway settings m.node m.host m.port = .error f) :
      Setback b m settings gateway now w f [.checkBucket gateway]
  /-- The record cannot be made or stored. -/
  | record {status : BucketStatus} {a : Announcer} {f : Failure}
      (hcheck : (b.checkBucket w).1 = .ok status)
      (hcreate : Announcer.create gateway settings m.node m.host m.port = .ok a)
      (hbody : a.body now = .error f) :
      Setback b m settings gateway now w f [.checkBucket gateway]
  /-- The record cannot be written, and not because the store refuses it. -/
  | writing {status : BucketStatus} {a : Announcer} {r : Presence} {data : List UInt8} {f : Failure}
      (hcheck : (b.checkBucket w).1 = .ok status)
      (hcreate : Announcer.create gateway settings m.node m.host m.port = .ok a)
      (hbody : a.body now = .ok (r, data))
      (hput : (b.put a.key data (b.checkBucket w).2).1 = .error f) (hstore : f.isStore = false) :
      Setback b m settings gateway now w f [.checkBucket gateway, .put gateway a.key data]

/-- No gateway is closed before something goes wrong. -/
theorem Setback.closed {now : Int} {w : ω} (h : Setback b m settings gateway now w f calls) :
    calls.filterMap Call.closed? = [] := by
  cases h <;> rfl

/-- One gateway is closed if it is opened before and closed afterwards. -/
theorem Setback.closed_connect {now : Int} {w : ω}
    (h : Setback b m settings gateway now w f calls) :
    (Call.connect :: calls ++ [Call.close gateway]).filterMap Call.closed? = [gateway] := by
  rw [List.filterMap_append, List.filterMap_cons_none rfl, h.closed]
  rfl

/-- The site at which an announcer begins. -/
def looking (b : Backend ω) (settings : Settings) (gateway : Nat) (status : BucketStatus)
    (a : Announcer) (s : Site ω) : Site ω :=
  { s with
    world := (b.checkBucket s.world).2
    calls := s.calls ++ [.checkBucket gateway]
    lines := s.lines ++ [statusLine settings status]
    announcers := s.announcers ++ [a] }

/-- What is made of the beginning of an announcer. -/
def seen (m : Member) (announcer : Nat) : Except Failure Bool → Doing ω (Except Failure Nat)
  | .error f => return .error f
  | .ok written => do
    if !written then Site.say .warning m.unseenText
    return .ok announcer

theorem seen_ok (m : Member) (announcer : Nat) (written : Bool) (s : Site ω) :
    ∃ lines, m.seen announcer (.ok written) s = (.ok announcer, { s with lines }) := by
  cases written <;> exact ⟨_, rfl⟩

/-- If the bucket can be looked at and the announcer can be made, it is for the announcer to
begin. -/
theorem appear_of_create {status : BucketStatus} {a : Announcer} {s' : Site ω}
    {result : Except Failure Bool} (hcheck : (b.checkBucket s.world).1 = .ok status)
    (hcreate : Announcer.create gateway settings m.node m.host m.port = .ok a)
    (hstart : Announcer.start (.ofBackend b) s.announcers.length
      (looking b settings gateway status a s) = (result, s')) :
    appear (.ofBackend b) m settings gateway s = m.seen s.announcers.length result s' := by
  rw [appear, Doing.bind_of_eq (Gateway.ofBackend_checkBucket ..), hcheck]
  refine (Doing.bind_of_eq rfl _).trans ?_
  rw [hcreate]
  refine (Doing.bind_of_eq rfl _).trans ((Doing.bind_of_eq hstart _).trans ?_)
  cases result <;> rfl

theorem getElem?_added (a : Announcer) (s : Site ω) :
    (s.announcers ++ [a])[s.announcers.length]? = some a :=
  List.getElem?_concat_length

theorem set_added (a a' : Announcer) (s : Site ω) :
    (s.announcers ++ [a]).set s.announcers.length a' = s.announcers ++ [a'] := by
  rw [List.set_append_right _ _ (Nat.le_refl _), Nat.sub_self, List.set_cons_zero]

/-- A setback is passed on, and no announcer begins. -/
theorem appear_setback (h : Setback b m settings gateway s.now s.world f calls) :
    ∃ world lines announcers, (∀ a ∈ announcers, a.hasLoop = false) ∧
      appear (.ofBackend b) m settings gateway s = (.error f, { s with
        world, lines
        calls := s.calls ++ calls
        announcers := s.announcers ++ announcers }) := by
  have hone (a : Announcer) (hloop : a.hasLoop = false) :
      ∀ a' ∈ [{ a with isStopRequested := false, isAnnouncing := true }], a'.hasLoop = false := by
    intro a' ha'
    cases List.mem_singleton.1 ha'
    exact hloop
  cases h with
  | bucket hcheck =>
    refine ⟨(b.checkBucket s.world).2, s.lines, [], List.forall_mem_nil _, ?_⟩
    rw [appear, Doing.bind_of_eq (Gateway.ofBackend_checkBucket ..), hcheck, List.append_nil]
    rfl
  | @announcer status _ hcheck hcreate =>
    refine ⟨(b.checkBucket s.world).2, s.lines ++ [statusLine settings status], [],
      List.forall_mem_nil _, ?_⟩
    rw [appear, Doing.bind_of_eq (Gateway.ofBackend_checkBucket ..), hcheck, List.append_nil]
    refine (Doing.bind_of_eq rfl _).trans ?_
    rw [hcreate]
    rfl
  | @record status a _ hcheck hcreate hbody =>
    obtain ⟨-, hstopped, hidle, hloop⟩ := Announcer.create_eq_ok hcreate
    have hstart := Announcer.start_refused (b := b) (s := looking b settings gateway status a s)
      (getElem?_added a s) hstopped hidle hbody
    rw [appear_of_create hcheck hcreate hstart]
    exact ⟨_, _, [{ a with isStopRequested := false, isAnnouncing := true }], hone a hloop, by
      rw [← set_added a]
      rfl⟩
  | @writing status a r data _ hcheck hcreate hbody hput hstore =>
    obtain ⟨hgateway, hstopped, hidle, hloop⟩ := Announcer.create_eq_ok hcreate
    have hstart := Announcer.start_unwritten (b := b) (s := looking b settings gateway status a s)
      (getElem?_added a s) hstopped hidle hbody hput hstore
    have hcalls : s.calls ++ [.checkBucket gateway] ++ [.put a.gateway a.key data] =
        s.calls ++ [.checkBucket gateway, .put gateway a.key data] := by
      rw [hgateway, List.append_assoc, List.singleton_append]
    rw [appear_of_create hcheck hcreate hstart]
    exact ⟨_, _, [{ a with isStopRequested := false, isAnnouncing := true }], hone a hloop, by
      rw [← set_added a, ← hcalls]
      rfl⟩

/-- What a member brings that appears to its peers in some world: an announcer, and its first
record, which the store writes or refuses. -/
structure Debut (b : Backend ω) (m : Member) (settings : Settings) (gateway : Nat) (now : Int)
    (w : ω) (a : Announcer) (data : List UInt8) : Prop where
  create : Announcer.create gateway settings m.node m.host m.port = .ok a
  body : ∃ r, a.body now = .ok (r, data)
  put (f : Failure) (h : (b.put a.key data w).1 = .error f) : f.isStore = true

/-- An announcer is the one that a member makes with some settings, and could make its record. -/
structure Made (m : Member) (settings : Settings) (a : Announcer) : Prop where
  create : Announcer.create a.gateway settings m.node m.host m.port = .ok a
  body : ∃ t r data, a.body t = .ok (r, data)

theorem Debut.made {w : ω} {a : Announcer} {data : List UInt8} {now : Int}
    (h : Debut b m settings gateway now w a data) : m.Made settings a := by
  obtain ⟨r, hbody⟩ := h.body
  refine ⟨?_, now, r, data, hbody⟩
  rw [(Announcer.create_eq_ok h.create).1]
  exact h.create

/-- Nothing goes wrong without a setback. -/
theorem appear_begun (h : ∀ f calls, ¬ Setback b m settings gateway s.now s.world f calls) :
    ∃ a data lines tally,
      Debut b m settings gateway s.now (b.checkBucket s.world).2 a data ∧
      appear (.ofBackend b) m settings gateway s = (.ok s.announcers.length, { s with
        world := (b.put a.key data (b.checkBucket s.world).2).2
        calls := s.calls ++ [.checkBucket gateway, .put gateway a.key data, .loop a.loopName]
        announcers := s.announcers ++
          [a.begun (a.lastAfter s.now (b.put a.key data (b.checkBucket s.world).2).1)]
        lines, tally }) := by
  cases hcheck : (b.checkBucket s.world).1 with
  | error f => exact absurd (.bucket hcheck) (h f _)
  | ok status =>
  cases hcreate : Announcer.create gateway settings m.node m.host m.port with
  | error f => exact absurd (.announcer hcheck hcreate) (h f _)
  | ok a =>
  cases hbody : a.body s.now with
  | error f => exact absurd (.record hcheck hcreate hbody) (h f _)
  | ok record =>
  obtain ⟨r, data⟩ := record
  obtain ⟨hgateway, hstopped, hidle, -⟩ := Announcer.create_eq_ok hcreate
  have hput (f : Failure) (hput : (b.put a.key data (b.checkBucket s.world).2).1 = .error f) :
      f.isStore = true := by
    by_contra hstore
    exact h f _ (.writing hcheck hcreate hbody hput (Bool.eq_false_of_not_eq_true hstore))
  obtain ⟨written, lines, tally, hstart⟩ :=
    Announcer.start_written (b := b) (s := looking b settings gateway status a s)
      (getElem?_added a s) hstopped hidle hbody hput
  have hcalls : s.calls ++ [.checkBucket gateway] ++ [.put a.gateway a.key data, .loop a.loopName] =
      s.calls ++ [.checkBucket gateway, .put gateway a.key data, .loop a.loopName] := by
    rw [hgateway, List.append_assoc, List.singleton_append]
  have happear := appear_of_create hcheck hcreate hstart
  obtain ⟨lines', hseen⟩ := seen_ok m s.announcers.length written _
  rw [hseen] at happear
  refine ⟨a, data, lines', tally, ⟨hcreate, ⟨r, hbody⟩, hput⟩, happear.trans ?_⟩
  rw [← set_added a, ← hcalls]
  rfl

/-! ### Starts -/

/-- A member that is started with some settings, and holds a gateway, an announcer and a pool. -/
def started (m : Member) (settings : Settings) (gateway announcer pool : Nat) : Member :=
  { m with
    settings := some settings
    gateway := some gateway
    announcer := some announcer
    query := some (.create gateway settings m.node)
    pool := some pool }

/-- What may stand against the start of a member that is not started, with the failure that is
passed on and all calls that are made. -/
inductive Refusal (b : Backend ω) (m : Member) (offered : Offered) (s : Site ω) :
    Failure → List Call → Prop
  /-- The settings cannot be used. -/
  | settings {f : Failure} (hsettings : offered.settings = .error f) : Refusal b m offered s f []
  /-- The identity of the node is none. -/
  | identity {settings : Settings} {f : Failure} (hsettings : offered.settings = .ok settings)
      (hidentity : m.checkIdentity = .error f) : Refusal b m offered s f []
  /-- No gateway can be opened. -/
  | gateway {settings : Settings} {f : Failure} (hsettings : offered.settings = .ok settings)
      (hidentity : m.checkIdentity = .ok ())
      (hconnect : (b.connect settings s.world).1 = .error f) :
      Refusal b m offered s f [.connect]
  /-- Something goes wrong with the gateway open, which is closed. -/
  | setback {settings : Settings} {f : Failure} {calls : List Call}
      (hsettings : offered.settings = .ok settings) (hidentity : m.checkIdentity = .ok ())
      (hconnect : (b.connect settings s.world).1 = .ok ())
      (h : Setback b m settings s.gateways s.now (b.connect settings s.world).2 f calls) :
      Refusal b m offered s f (.connect :: calls ++ [.close s.gateways])

/-- How many gateways were opened with the calls that a refusal makes: none, or one, which was
closed. -/
theorem Refusal.closed {offered : Offered} (h : Refusal b m offered s f calls) :
    calls.filterMap Call.closed? = [] ∨ calls.filterMap Call.closed? = [s.gateways] := by
  cases h with
  | settings | identity | gateway => exact .inl rfl
  | setback _ _ _ h => exact .inr h.closed_connect

theorem enter_unconnected (hconnect : (b.connect settings s.world).1 = .error f) :
    enter (.ofBackend b) i m settings s = (.error f, { s with
      world := (b.connect settings s.world).2
      calls := s.calls ++ [.connect]
      board := (s.board.install i).remove i }) := by
  refine (Doing.bind_of_eq rfl _).trans ?_
  exact Doing.bind_of_eq (Gateway.ofBackend_connect_error (s := { s with
    board := s.board.install i }) hconnect) _

/-- A setback is passed on, when the gateway is closed and the filter removed. -/
theorem enter_setback (hconnect : (b.connect settings s.world).1 = .ok ())
    (h : Setback b m settings s.gateways s.now (b.connect settings s.world).2 f calls) :
    ∃ world lines announcers, (∀ a ∈ announcers, a.hasLoop = false) ∧
      enter (.ofBackend b) i m settings s = (.error f, { s with
        world, lines
        calls := s.calls ++ (.connect :: calls ++ [.close s.gateways])
        announcers := s.announcers ++ announcers
        gateways := s.gateways + 1
        board := (s.board.install i).remove i }) := by
  obtain ⟨world, lines, announcers, hmade, happear⟩ := appear_setback (b := b) (s := { s with
    world := (b.connect settings s.world).2
    calls := s.calls ++ [.connect]
    gateways := s.gateways + 1
    board := s.board.install i }) h
  obtain ⟨lines', habort⟩ := abort_some (b := b) i s.gateways { s with
    world, lines
    calls := s.calls ++ [.connect] ++ calls
    gateways := s.gateways + 1
    board := s.board.install i
    announcers := s.announcers ++ announcers }
  refine ⟨(b.close world).2, lines', announcers, hmade, (Doing.bind_of_eq rfl _).trans ?_⟩
  refine (Doing.bind_of_eq (Gateway.ofBackend_connect (s := { s with
    board := s.board.install i }) hconnect) _).trans ?_
  refine (Doing.bind_of_eq happear _).trans ((Doing.bind_of_eq habort _).trans ?_)
  rw [List.append_assoc, List.append_assoc]
  rfl

theorem enter_begun (hconnect : (b.connect settings s.world).1 = .ok ())
    (h : ∀ f calls,
      ¬ Setback b m settings s.gateways s.now (b.connect settings s.world).2 f calls) :
    let w := (b.checkBucket (b.connect settings s.world).2).2
    ∃ a data lines tally, Debut b m settings s.gateways s.now w a data ∧
      enter (.ofBackend b) i m settings s = (.ok (s.gateways, s.announcers.length), { s with
        world := (b.put a.key data w).2
        calls := s.calls ++ [.connect, .checkBucket s.gateways, .put s.gateways a.key data,
          .loop a.loopName]
        announcers := s.announcers ++ [a.begun (a.lastAfter s.now (b.put a.key data w).1)]
        gateways := s.gateways + 1
        board := s.board.install i
        lines, tally }) := by
  obtain ⟨a, data, lines, tally, hdebut, happear⟩ := appear_begun (b := b) (s := { s with
    world := (b.connect settings s.world).2
    calls := s.calls ++ [.connect]
    gateways := s.gateways + 1
    board := s.board.install i }) h
  refine ⟨a, data, lines, tally, hdebut, (Doing.bind_of_eq rfl _).trans ?_⟩
  refine (Doing.bind_of_eq (Gateway.ofBackend_connect (s := { s with
    board := s.board.install i }) hconnect) _).trans ((Doing.bind_of_eq happear _).trans ?_)
  rw [List.append_assoc]
  rfl

/-- What is left to do when a member has entered. -/
def settle (i : Nat) (m : Member) (settings : Settings) :
    Except Failure (Nat × Nat) → Doing ω (Except Failure Unit)
  | .error f => return .error f
  | .ok (gateway, announcer) => do
    let pool ← Site.newPool
    Site.updateMember i fun m => m.started settings gateway announcer pool
    Site.say .info (m.startedText settings)
    return .ok ()

theorem startWith_of_enter {entered : Except Failure (Nat × Nat)} {s' : Site ω}
    (henter : enter (.ofBackend b) i m settings s = (entered, s')) :
    startWith (.ofBackend b) i m settings s = settle i m settings entered s' := by
  rw [startWith, Doing.bind_of_eq henter]
  cases entered <;> rfl

variable {offered : Offered} (hm : s.members[i]? = some m)
include hm

/-- A member that has entered is started. -/
theorem settle_ok (m' : Member) (gateway announcer : Nat) :
    settle i m' settings (.ok (gateway, announcer)) s = (.ok (), { s with
      pools := s.pools + 1
      members := s.members.set i (m.started settings gateway announcer s.pools)
      lines := s.lines ++ [⟨.info, m'.startedText settings⟩] }) :=
  (Doing.bind_of_eq rfl _).trans (Doing.bind_of_eq
    (Site.updateMember_of_getElem? (s := { s with pools := s.pools + 1 }) hm _) _)

/-- **A started member stays as it is**, which is said. -/
theorem start_started (hpool : m.pool.isSome = true) :
    start (.ofBackend b) i offered s =
      (.ok (), { s with lines := s.lines ++ [⟨.warning, m.alreadyStartedText⟩] }) := by
  rw [start, Doing.bind_of_eq (Site.member_of_getElem? hm), hpool]
  rfl

section

variable (hpool : m.pool = none)
include hpool

/-- With settings or an identity that cannot be used a start changes nothing; otherwise it is for
the member to enter. -/
theorem start_cases (offered : Offered) :
    start (.ofBackend b) i offered s =
      match offered.settings, m.checkIdentity with
      | .error f, _ => (.error f, s)
      | .ok _, .error f => (.error f, s)
      | .ok settings, .ok () => startWith (.ofBackend b) i m settings s := by
  rw [start, Doing.bind_of_eq (Site.member_of_getElem? hm), hpool]
  cases offered.settings with
  | error f => rfl
  | ok settings =>
    dsimp only
    cases m.checkIdentity <;> rfl

/-- **A start that is refused** without a call changes nothing. Otherwise nothing changes but what
the calls do, what is said, that a gateway or an announcer without a loop may have been made, and
that the filter is removed. -/
theorem start_undone (h : Refusal b m offered s f calls) :
    calls = [] ∧ start (.ofBackend b) i offered s = (.error f, s) ∨
      ∃ world lines announcers, (∀ a ∈ announcers, a.hasLoop = false) ∧
        start (.ofBackend b) i offered s = (.error f, { s with
          world, lines
          calls := s.calls ++ calls
          announcers := s.announcers ++ announcers
          gateways := s.gateways + (calls.filterMap Call.closed?).length
          board := (s.board.install i).remove i }) := by
  cases h with
  | settings hsettings =>
    refine .inl ⟨rfl, ?_⟩
    rw [start_cases hm hpool, hsettings]
  | identity hsettings hidentity =>
    refine .inl ⟨rfl, ?_⟩
    rw [start_cases hm hpool, hsettings, hidentity]
  | @gateway settings _ hsettings hidentity hconnect =>
    refine .inr ⟨(b.connect settings s.world).2, s.lines, [], List.forall_mem_nil _, ?_⟩
    rw [start_cases hm hpool, hsettings, hidentity, List.append_nil]
    exact startWith_of_enter (enter_unconnected hconnect)
  | setback hsettings hidentity hconnect h =>
    obtain ⟨world, lines, announcers, hmade, henter⟩ := enter_setback (i := i) hconnect h
    refine .inr ⟨world, lines, announcers, hmade, ?_⟩
    rw [start_cases hm hpool, hsettings, hidentity, h.closed_connect]
    exact startWith_of_enter henter

/-- What a start that is refused changes, whatever announcers it made. -/
theorem start_refused (h : Refusal b m offered s f calls) :
    calls = [] ∧ start (.ofBackend b) i offered s = (.error f, s) ∨
      ∃ world lines announcers, start (.ofBackend b) i offered s = (.error f, { s with
        world, lines
        calls := s.calls ++ calls
        announcers := s.announcers ++ announcers
        gateways := s.gateways + (calls.filterMap Call.closed?).length
        board := (s.board.install i).remove i }) := by
  rcases start_undone hm hpool h with hstart | ⟨world, lines, announcers, -, hstart⟩
  · exact .inl hstart
  · exact .inr ⟨world, lines, announcers, hstart⟩

/-- **A start that nothing stands against**: the member connects, has a look at the bucket, offers
its first record to the store, and the loop of its announcer begins. -/
theorem start_entered (h : ∀ f calls, ¬ Refusal b m offered s f calls) :
    ∃ settings a data lines tally,
      let w := (b.checkBucket (b.connect settings s.world).2).2
      offered.settings = .ok settings ∧ Debut b m settings s.gateways s.now w a data ∧
      start (.ofBackend b) i offered s = (.ok (), { s with
        world := (b.put a.key data w).2
        calls := s.calls ++ [.connect, .checkBucket s.gateways, .put s.gateways a.key data,
          .loop a.loopName]
        announcers := s.announcers ++ [a.begun (a.lastAfter s.now (b.put a.key data w).1)]
        gateways := s.gateways + 1
        pools := s.pools + 1
        board := s.board.install i
        members := s.members.set i (m.started settings s.gateways s.announcers.length s.pools)
        lines, tally }) := by
  cases hsettings : offered.settings with
  | error f => exact absurd (.settings hsettings) (h f _)
  | ok settings =>
  cases hidentity : m.checkIdentity with
  | error f => exact absurd (.identity hsettings hidentity) (h f _)
  | ok u =>
  cases hconnect : (b.connect settings s.world).1 with
  | error f => exact absurd (.gateway hsettings hidentity hconnect) (h f _)
  | ok u =>
  obtain ⟨a, data, lines, tally, hdebut, henter⟩ :=
    enter_begun (b := b) (m := m) (i := i) hconnect fun f calls hsetback =>
      h f _ (.setback hsettings hidentity hconnect hsetback)
  refine ⟨settings, a, data, lines ++ [⟨.info, m.startedText settings⟩], tally, rfl, hdebut, ?_⟩
  rw [start_cases hm hpool, hsettings, hidentity]
  refine (startWith_of_enter henter).trans ?_
  apply settle_ok
  exact hm

/-- What such a start changes, whatever it writes. -/
theorem start_begun (h : ∀ f calls, ¬ Refusal b m offered s f calls) :
    ∃ settings a world calls lines tally,
      start (.ofBackend b) i offered s = (.ok (), { s with
        world, lines, tally
        calls := s.calls ++ calls
        announcers := s.announcers ++ [a]
        gateways := s.gateways + 1
        pools := s.pools + 1
        board := s.board.install i
        members := s.members.set i (m.started settings s.gateways s.announcers.length s.pools) }) ∧
      a.isAnnouncing = true ∧ a.gateway = s.gateways ∧ calls.filterMap Call.closed? = [] := by
  obtain ⟨settings, a, data, lines, tally, -, hdebut, hstart⟩ := start_entered hm hpool h
  obtain ⟨hgateway, -⟩ := Announcer.create_eq_ok hdebut.create
  have hclosed : [.connect, .checkBucket s.gateways, .put s.gateways a.key data,
      .loop a.loopName].filterMap Call.closed? = [] := rfl
  exact ⟨settings, _, _, _, lines, tally, hstart, rfl, hgateway, hclosed⟩

end

end Member

end RollCall
