import RollCall.Proofs.Announcer.Writing

/-!
# What the stages of an announcer's life do to a site

Starting, renewing, a round of the loop and stopping, each by the site it finds and the site it
leaves. Whatever writes the record does so by announcing; stopping is the one stage that deletes it,
and an announcer that is stopped afterwards is told so before its record goes.

## Main definitions

* `Announcer.beginning`: the site at which an announcer that starts announces for the first time.
* `Announcer.stopping`: the site that an announcer leaves when it stops.

## Main results

* `refresh_eq`, `start_begun`, `tick_round`, `stop_ofBackend`: the stages.
* `start_cases`: all that a start may bring.
-/

namespace RollCall.Announcer

variable {ω : Type} {g : Gateway ω} {i : Nat} {s : Site ω} {a : Announcer}

/-- The site at which an announcer that starts announces for the first time. -/
def beginning (i : Nat) (a : Announcer) (s : Site ω) : Site ω :=
  { s with
    announcers := s.announcers.set i { a with isStopRequested := false, isAnnouncing := true } }

/-- An announcer that was told to announce. -/
def told (a : Announcer) : Announcer :=
  { a with isStopRequested := false, isAnnouncing := true }

/-- An announcer that is not writing is not writing when it was told to announce. -/
theorem rested_told (hidle : a.isWriting = false) : a.told.rested = a.told := by
  simp only [rested, told, hidle]

/-- The site that an announcer leaves when it stops, up to what was said. -/
def stopping (b : Backend ω) (i : Nat) (a : Announcer) (s : Site ω) : Site ω :=
  { s with
    world := (b.delete a.key s.world).2
    calls := s.calls ++ [.delete a.gateway a.key]
    announcers := s.announcers.set i
      { a with isStopRequested := true, hasLoop := false, isAnnouncing := false } }

/-- What comes of withdrawing a record: only what is no failure of the store is passed on. -/
def withdrawn : Except Failure Unit → Except Failure Unit
  | .ok () => .ok ()
  | .error f => if f.isStore then .ok () else .error f

section

variable (ha : s.announcers[i]? = some a)
include ha

/-! ### Renewing and starting -/

/-- Renewing is announcing, if the announcer is announcing and the record is due. -/
theorem refresh_eq :
    refresh g i s =
      if a.isAnnouncing && a.isDue s.now then announce g i s else (.ok false, s) := by
  rw [refresh, Doing.bind_of_eq (Site.announcer_of_getElem? ha)]
  cases a.isAnnouncing with
  | false => rfl
  | true =>
    refine (Doing.bind_of_eq rfl _).trans ?_
    rw [Bool.true_and]
    split <;> rfl

/-- Starting again does nothing. -/
theorem start_announcing (hannouncing : a.isAnnouncing = true) :
    start g i s = (.ok a.last.isSome, s) := by
  rw [start, Doing.bind_of_eq (Site.announcer_of_getElem? ha), hannouncing]
  rfl

/-- A start whose announcing fails ends there. -/
theorem start_failed (hstopped : a.isAnnouncing = false) {f : Failure} {s' : Site ω}
    (hannounce : announce g i (beginning i a s) = (.error f, s')) :
    start g i s = (.error f, s') := by
  rw [start, Doing.bind_of_eq (Site.announcer_of_getElem? ha), hstopped]
  exact (Doing.bind_of_eq (Site.updateAnnouncer_of_getElem? ha _) _).trans
    (Doing.bind_of_eq hannounce _)

/-- A start whose announcing does not fail begins the loop. -/
theorem start_begun (hstopped : a.isAnnouncing = false) {written : Bool} {s' : Site ω}
    {a' : Announcer} (hannounce : announce g i (beginning i a s) = (.ok written, s'))
    (ha' : s'.announcers[i]? = some a') :
    ∃ lines, start g i s = (.ok written, { s' with
      announcers := s'.announcers.set i { a' with hasLoop := true }
      calls := s'.calls ++ [.loop a.loopName]
      lines }) := by
  rw [start, Doing.bind_of_eq (Site.announcer_of_getElem? ha), hstopped]
  exact ⟨_, (Doing.bind_of_eq (Site.updateAnnouncer_of_getElem? ha _) _).trans
    ((Doing.bind_of_eq hannounce _).trans
      (Doing.bind_of_eq (Site.updateAnnouncer_of_getElem? ha' _) _))⟩

/-- **The start** of an announcer that is stopped: its record cannot be made, or something that is
no failure of the store keeps it from being written, and no loop begins; or the record is written,
or refused by the store, and the loop begins. -/
theorem start_cases {b : Backend ω} (hstopped : a.isAnnouncing = false) :
    (∃ f, a.body s.now = .error f ∧ start (.ofBackend b) i s =
      (.error f, { s with announcers := s.announcers.set i a.told.rested })) ∨
    ∃ r data, a.body s.now = .ok (r, data) ∧
      ((∃ f, answerTo (b.put a.key data s.world).1 = .error f ∧ start (.ofBackend b) i s =
          (.error f, { putting b a data s with
            announcers := s.announcers.set i a.told.rested })) ∨
        ∃ written lines, answerTo (b.put a.key data s.world).1 = .ok written ∧
          start (.ofBackend b) i s = (.ok written, { putting b a data s with
            calls := s.calls ++ [.put a.gateway a.key data, .loop a.loopName]
            announcers := s.announcers.set i { a.told.rested with
              hasLoop := true, last := a.lastAfter s.now (b.put a.key data s.world).1 }
            lines
            tally := a.tallied s.tally (b.put a.key data s.world).1 })) := by
  have htold : (beginning i a s).announcers[i]? = some a.told := getElem?_set_announcer ha _
  have hset (a' : Announcer) : (beginning i a s).announcers.set i a' = s.announcers.set i a' :=
    List.set_set ..
  cases hbody : a.body s.now with
  | error f =>
    have hannounce := announce_refused (b := b) htold rfl hbody
    rw [hset] at hannounce
    exact .inl ⟨f, rfl, start_failed ha hstopped hannounce⟩
  | ok record =>
    obtain ⟨r, data⟩ := record
    have hannounce := announce_offered (b := b) htold rfl hbody
    have hput : (b.put a.told.key data (beginning i a s).world).1 =
      (b.put a.key data s.world).1 := rfl
    rw [hset, hput] at hannounce
    cases hanswer : answerTo (b.put a.key data s.world).1 with
    | error f =>
      obtain ⟨hfailed, hstore⟩ := answerTo_eq_error_iff.1 hanswer
      rw [hanswer, hfailed, remarked, tallied, hstore] at hannounce
      exact .inr ⟨r, data, rfl, .inl ⟨f, hanswer, start_failed ha hstopped hannounce⟩⟩
    | ok written =>
      rw [hanswer] at hannounce
      obtain ⟨lines, hstart⟩ := start_begun ha hstopped hannounce (getElem?_set_announcer ha _)
      rw [List.set_set] at hstart
      have hcalls : s.calls ++ [.put a.gateway a.key data] ++ [.loop a.loopName] =
        s.calls ++ [.put a.gateway a.key data, .loop a.loopName] := List.append_assoc ..
      refine .inr ⟨r, data, rfl, .inr ⟨written, lines, hanswer, ?_⟩⟩
      rw [← hcalls]
      exact hstart

/-! ### Rounds of the loop -/

/-- The loop of an announcer that is to stop ends. -/
theorem tick_stopped (hrequested : a.isStopRequested = true) (millis : Int) (rounds : Nat) :
    tick g i millis (rounds + 1) s = ([a.settings.interval], s) := by
  rw [tick, Doing.bind_of_eq (Site.announcer_of_getElem? ha), hrequested]
  rfl

/-- A round of the loop is a wait and announcing. -/
theorem tick_round (hgoing : a.isStopRequested = false) {millis : Int}
    {result : Except Failure Bool} {s' : Site ω}
    (hannounce : announce g i { s with now := s.now + millis } = (result, s')) (rounds : Nat) :
    ∃ lines, (tick g i millis (rounds + 1) s).2 =
      (tick g i millis rounds { s' with lines }).2 := by
  have hadvance : Site.advance millis s = ((), { s with now := s.now + millis }) := rfl
  rw [tick, Doing.bind_of_eq (Site.announcer_of_getElem? ha), hgoing, if_neg Bool.false_ne_true,
    Doing.bind_of_eq hadvance, Doing.bind_of_eq hannounce]
  cases result with
  | ok written => exact ⟨s'.lines, rfl⟩
  | error f => exact ⟨s'.lines ++ [⟨.error, loopFailedText⟩], rfl⟩

/-! ### Stopping -/

/-- Stopping again does nothing. -/
theorem stop_stopped (hstopped : a.isAnnouncing = false) (patience : Value) :
    stop g i patience s = (.ok (), s) := by
  rw [stop, Doing.bind_of_eq (Site.announcer_of_getElem? ha), hstopped]
  rfl

/-- Afterwards there is no loop. -/
theorem endLoop_eq (patience : Value) :
    ∃ lines, endLoop i patience s = ((), { s with
      announcers := s.announcers.set i { a with hasLoop := false }, lines }) := by
  rw [endLoop, Doing.bind_of_eq (Site.announcer_of_getElem? ha)]
  cases hloop : a.hasLoop with
  | false =>
    have hset : s.announcers.set i { a with hasLoop := false } = s.announcers := by
      rw [← hloop]
      exact set_announcer_self ha
    rw [hset]
    exact ⟨s.lines, rfl⟩
  | true =>
    have hupdate : ∀ lines, Site.updateAnnouncer i (fun a => { a with hasLoop := false })
        { s with lines } = ((), { s with
          announcers := s.announcers.set i { a with hasLoop := false }, lines }) :=
      fun lines => Site.updateAnnouncer_of_getElem? (s := { s with lines }) ha _
    rw [if_pos rfl, Doing.bind_of_eq (rfl : (get : Doing ω (Site ω)) s = (s, s))]
    split
    · exact ⟨_, (Doing.bind_of_eq rfl _).trans (hupdate _)⟩
    · exact ⟨_, hupdate s.lines⟩

/-- Withdrawing the record of an announcer that is not writing deletes it. -/
theorem withdraw_ofBackend {b : Backend ω} (hidle : a.isWriting = false) (patience : Value) :
    ∃ lines, withdraw (.ofBackend b) i patience s =
      (withdrawn (b.delete a.key s.world).1, { s with
        world := (b.delete a.key s.world).2
        calls := s.calls ++ [.delete a.gateway a.key]
        announcers := s.announcers.set i { a with isAnnouncing := false }
        lines }) := by
  have hmark := getElem?_set_announcer ha { a with isWriting := true, isAnnouncing := false }
  have hfinish : ∀ lines, Site.updateAnnouncer i (fun a => { a with isWriting := false })
      { s with
        world := (b.delete a.key s.world).2
        calls := s.calls ++ [.delete a.gateway a.key]
        announcers := s.announcers.set i { a with isWriting := true, isAnnouncing := false }
        lines } =
      ((), { s with
        world := (b.delete a.key s.world).2
        calls := s.calls ++ [.delete a.gateway a.key]
        announcers := s.announcers.set i { a with isWriting := false, isAnnouncing := false }
        lines }) := by
    intro lines
    rw [Site.updateAnnouncer_of_getElem? hmark, List.set_set]
  rw [withdraw, Doing.bind_of_eq (Site.announcer_of_getElem? ha), hidle, if_neg Bool.false_ne_true,
    Doing.bind_of_eq (Site.updateAnnouncer_of_getElem? ha _),
    Doing.bind_of_eq (Gateway.ofBackend_delete ..)]
  dsimp only
  cases (b.delete a.key s.world).1 with
  | ok u =>
    exact ⟨_, (Doing.bind_of_eq rfl _).trans
      ((Doing.bind_of_eq rfl _).trans (Doing.bind_of_eq (hfinish _) _))⟩
  | error f =>
    dsimp only [withdrawn]
    cases f.isStore with
    | true =>
      exact ⟨_, (Doing.bind_of_eq rfl _).trans
        ((Doing.bind_of_eq rfl _).trans (Doing.bind_of_eq (hfinish _) _))⟩
    | false => exact ⟨_, (Doing.bind_of_eq rfl _).trans (Doing.bind_of_eq (hfinish s.lines) _)⟩

/-- **Stopping** an announcer that is announcing and not writing: it is told to stop, and its record
is deleted. -/
theorem stop_ofBackend {b : Backend ω} (hannouncing : a.isAnnouncing = true)
    (hidle : a.isWriting = false) (patience : Value) :
    ∃ lines, stop (.ofBackend b) i patience s =
      (withdrawn (b.delete a.key s.world).1, { stopping b i a s with lines }) := by
  have htold := getElem?_set_announcer ha { a with isStopRequested := true }
  obtain ⟨lines, hloop⟩ := endLoop_eq (s := { s with
    announcers := s.announcers.set i { a with isStopRequested := true } }) htold patience
  rw [List.set_set] at hloop
  have hended := getElem?_set_announcer ha { a with isStopRequested := true, hasLoop := false }
  obtain ⟨lines', hwithdraw⟩ := withdraw_ofBackend (b := b) (s := { s with
    announcers := s.announcers.set i { a with isStopRequested := true, hasLoop := false }
    lines }) hended hidle patience
  rw [List.set_set] at hwithdraw
  rw [stop, Doing.bind_of_eq (Site.announcer_of_getElem? ha), hannouncing]
  exact ⟨lines', (Doing.bind_of_eq (Site.updateAnnouncer_of_getElem? ha _) _).trans
    ((Doing.bind_of_eq hloop _).trans hwithdraw)⟩

end

end RollCall.Announcer
