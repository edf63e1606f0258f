import RollCall.Proofs.Member.Starting

/-!
# What stopping does to a site

A member that stops lets go of its pool and its query first, and then lets its announcer withdraw
the record. If that ends well, the waiting tasks of the pool are dropped, the gateway is closed, the
filter removed, and nothing is held any more. It ends well unless the deletion of the record fails
with something that is no failure of the store: then the member stops half way, and keeps its
gateway, its announcer, its filter and its waiting tasks.

## Main definitions

* `Announcer.withdrawal`: how the withdrawal of a record ends.
* `Announcer.stopped`: an announcer that was stopped.
* `Member.halted`, `Member.stopped`: a member that stopped half way, and one that stopped.

## Main results

* `Announcer.stop_announcing`: stopping an announcer.
* `Member.stop_unstarted`: a member that is not started stays as it is.
* `Member.stop_whole`, `Member.stop_halfway`: a member that stops.
-/

namespace RollCall

variable {ω : Type} {b : Backend ω} {s : Site ω}

namespace Announcer

variable {k : Nat} {a : Announcer}

/-- An announcer that was stopped. -/
def stopped (a : Announcer) : Announcer :=
  { a with isStopRequested := true, hasLoop := false, isAnnouncing := false }

/-- How the withdrawal of a record ends: with which result, after which calls, in which world. A
record that is being written is not withdrawn. -/
def withdrawal (b : Backend ω) (a : Announcer) (w : ω) : Except Failure Unit × List Call × ω :=
  if a.isWriting then (.ok (), [], w)
  else (withdrawn (b.delete a.key w).1, [.delete a.gateway a.key], (b.delete a.key w).2)

section

variable (ha : s.announcers[k]? = some a)
include ha

/-- A record that is being written is not withdrawn. -/
theorem withdraw_writing (hwriting : a.isWriting = true) (patience : Value) :
    ∃ lines, withdraw (.ofBackend b) k patience s = (.ok (), { s with
      announcers := s.announcers.set k { a with isAnnouncing := false }
      lines }) := by
  rw [withdraw, Doing.bind_of_eq (Site.announcer_of_getElem? ha), if_pos hwriting]
  exact ⟨_, Doing.bind_of_eq (Site.updateAnnouncer_of_getElem? ha _) _⟩

/-- **Stopping** an announcer that is announcing. -/
theorem stop_announcing (hannouncing : a.isAnnouncing = true) (patience : Value) :
    ∃ lines, stop (.ofBackend b) k patience s = ((withdrawal b a s.world).1, { s with
      world := (withdrawal b a s.world).2.2
      calls := s.calls ++ (withdrawal b a s.world).2.1
      announcers := s.announcers.set k a.stopped
      lines }) := by
  rw [withdrawal]
  cases hwriting : a.isWriting with
  | false => exact stop_ofBackend ha hannouncing hwriting patience
  | true =>
    have htold := getElem?_set_announcer ha { a with isStopRequested := true }
    obtain ⟨lines, hloop⟩ := endLoop_eq (s := { s with
      announcers := s.announcers.set k { a with isStopRequested := true } }) htold patience
    rw [List.set_set] at hloop
    have hended := getElem?_set_announcer ha { a with isStopRequested := true, hasLoop := false }
    obtain ⟨lines', hwithdraw⟩ := withdraw_writing (b := b) (s := { s with
      announcers := s.announcers.set k { a with isStopRequested := true, hasLoop := false }
      lines }) hended hwriting patience
    rw [List.set_set] at hwithdraw
    rw [stop, Doing.bind_of_eq (Site.announcer_of_getElem? ha), hannouncing, if_pos rfl,
      List.append_nil]
    exact ⟨lines', (Doing.bind_of_eq (Site.updateAnnouncer_of_getElem? ha _) _).trans
      ((Doing.bind_of_eq hloop _).trans hwithdraw)⟩

end

end Announcer

namespace Member

variable {i k n p : Nat} {m : Member} {a : Announcer}

/-- A member that let go of its pool and its query. -/
def halted (m : Member) : Member :=
  { m with pool := none, query := none }

/-- A member that holds nothing any more. -/
def stopped (m : Member) : Member :=
  { m with pool := none, query := none, gateway := none, announcer := none, pending := [] }

section

variable (hm : s.members[i]? = some m)
include hm

/-- A member that is not started stays as it is. -/
theorem stop_unstarted (hpool : m.pool = none) : stop (.ofBackend b) i s = (.ok (), s) := by
  rw [stop, Doing.bind_of_eq (Site.member_of_getElem? hm), hpool]
  rfl

/-- The waiting tasks of a pool are dropped, and no longer pending. -/
theorem cancel_eq (p : Nat) :
    ∃ pending, Site.cancel i p s = ((), { s with
      waiting := s.waiting.filter fun t => t.pool != p
      members := s.members.set i { m with pending } }) :=
  ⟨_, (Doing.bind_of_eq rfl _).trans ((Doing.bind_of_eq rfl _).trans
    (Site.updateMember_of_getElem? (s := { s with
      waiting := s.waiting.filter fun t => t.pool != p }) hm _))⟩

/-- Everything that a member held is given back. -/
theorem giveBack_ofBackend (p : Nat) {m' : Member} (hgateway : m'.gateway = some n) :
    ∃ lines, giveBack (.ofBackend b) i p m' s = ((), { s with
      world := (b.close s.world).2
      calls := s.calls ++ [.close n]
      waiting := s.waiting.filter fun t => t.pool != p
      board := s.board.remove i
      members := s.members.set i { m with gateway := none, announcer := none, pending := [] }
      lines }) := by
  obtain ⟨pending, hcancel⟩ := cancel_eq hm p
  obtain ⟨hlt, -⟩ := List.getElem?_eq_some_iff.1 hm
  have hdropped : (s.members.set i { m with pending })[i]? = some { m with pending } :=
    List.getElem?_set_self hlt
  obtain ⟨lines, hclose⟩ := closeGateway_ofBackend (b := b) n { s with
    waiting := s.waiting.filter fun t => t.pool != p
    members := s.members.set i { m with pending } }
  have hupdate := Site.updateMember_of_getElem? (s := { s with
    world := (b.close s.world).2
    calls := s.calls ++ [.close n]
    waiting := s.waiting.filter fun t => t.pool != p
    board := s.board.remove i
    members := s.members.set i { m with pending }
    lines }) hdropped fun m => { m with gateway := none, announcer := none, pending := [] }
  rw [List.set_set] at hupdate
  rw [giveBack, Doing.bind_of_eq hcancel, hgateway]
  exact ⟨_, (Doing.bind_of_eq hclose _).trans ((Doing.bind_of_eq rfl _).trans
    (Doing.bind_of_eq hupdate _))⟩

end

/-- What is left to do when the announcer was stopped. -/
def finish (b : Backend ω) (i pool : Nat) (m : Member) :
    Except Failure Unit → Doing ω (Except Failure Unit)
  | .error f => return .error f
  | .ok () => do
    giveBack (.ofBackend b) i pool m
    return .ok ()

section

variable (hm : s.members[i]? = some m) (hpool : m.pool = some p)
  (hannouncer : m.announcer = some k) (ha : s.announcers[k]? = some a)
  (hannouncing : a.isAnnouncing = true)
include hm hpool hannouncer ha hannouncing

theorem stop_eq :
    ∃ lines, stop (.ofBackend b) i s = finish b i p m (a.withdrawal b s.world).1 { s with
      world := (a.withdrawal b s.world).2.2
      calls := s.calls ++ (a.withdrawal b s.world).2.1
      announcers := s.announcers.set k a.stopped
      members := s.members.set i m.halted
      lines } := by
  have hannouncerStop (lines : List Logging.Line) := Announcer.stop_announcing (b := b)
    (s := { s with members := s.members.set i m.halted, lines }) ha hannouncing
    (.float (m.settings.getD default).stopTimeout)
  have hrest (lines : List Logging.Line) : ∃ lines',
      (stopAnnouncer (.ofBackend b) m (.float (m.settings.getD default).stopTimeout) >>=
          finish b i p m) { s with members := s.members.set i m.halted, lines } =
        finish b i p m (a.withdrawal b s.world).1 { s with
          world := (a.withdrawal b s.world).2.2
          calls := s.calls ++ (a.withdrawal b s.world).2.1
          announcers := s.announcers.set k a.stopped
          members := s.members.set i m.halted
          lines := lines' } := by
    obtain ⟨lines', hstop⟩ := hannouncerStop lines
    rw [stopAnnouncer, hannouncer]
    exact ⟨lines', Doing.bind_of_eq hstop _⟩
  rw [stop, Doing.bind_of_eq (Site.member_of_getElem? hm), hpool]
  have hhalt := Site.updateMember_of_getElem? hm fun m => { m with pool := none, query := none }
  cases hpending : m.pending.isEmpty with
  | true =>
    obtain ⟨lines', h⟩ := hrest s.lines
    exact ⟨lines', (Doing.bind_of_eq hhalt _).trans h⟩
  | false =>
    obtain ⟨lines', h⟩ := hrest (s.lines ++
      [⟨.warning, pendingText m.pending.length (m.settings.getD default)⟩])
    exact ⟨lines', (Doing.bind_of_eq hhalt _).trans ((Doing.bind_of_eq rfl _).trans h)⟩

/-- **A member that stops half way**, as the deletion of its record fails with something that is no
failure of the store: the member lets go of its pool and its query, and of nothing else. -/
theorem stop_halfway {f : Failure} (hfailed : (a.withdrawal b s.world).1 = .error f) :
    ∃ lines, stop (.ofBackend b) i s = (.error f, { s with
      world := (a.withdrawal b s.world).2.2
      calls := s.calls ++ (a.withdrawal b s.world).2.1
      announcers := s.announcers.set k a.stopped
      members := s.members.set i m.halted
      lines }) := by
  obtain ⟨lines, hstop⟩ := stop_eq (b := b) hm hpool hannouncer ha hannouncing
  rw [hfailed] at hstop
  exact ⟨lines, hstop⟩

/-- **A member that stops** gives back all that it held. -/
theorem stop_whole (hgateway : m.gateway = some n) (hdone : (a.withdrawal b s.world).1 = .ok ()) :
    ∃ lines, stop (.ofBackend b) i s = (.ok (), { s with
      world := (b.close (a.withdrawal b s.world).2.2).2
      calls := s.calls ++ ((a.withdrawal b s.world).2.1 ++ [.close n])
      announcers := s.announcers.set k a.stopped
      members := s.members.set i m.stopped
      waiting := s.waiting.filter fun t => t.pool != p
      board := s.board.remove i
      lines }) := by
  obtain ⟨lines, hstop⟩ := stop_eq (b := b) hm hpool hannouncer ha hannouncing
  obtain ⟨hlt, -⟩ := List.getElem?_eq_some_iff.1 hm
  have hhalted : (s.members.set i m.halted)[i]? = some m.halted := List.getElem?_set_self hlt
  obtain ⟨lines', hgive⟩ := giveBack_ofBackend (b := b) (s := { s with
    world := (a.withdrawal b s.world).2.2
    calls := s.calls ++ (a.withdrawal b s.world).2.1
    announcers := s.announcers.set k a.stopped
    members := s.members.set i m.halted
    lines }) hhalted p hgateway
  rw [List.set_set, List.append_assoc] at hgive
  rw [hdone] at hstop
  exact ⟨lines', hstop.trans (Doing.bind_of_eq hgive _)⟩

end

end Member

end RollCall
