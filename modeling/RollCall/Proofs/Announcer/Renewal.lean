import RollCall.Proofs.Announcer.Stages
import RollCall.Store.Backend

/-!
# Renewing a record in memory

Over a store in memory no write fails, and so whatever an announcer does to renew its record (to
start, to announce, to go through a round of its loop, to renew it when it is due) comes to one of
two things: nothing is written, or the record of the moment is written under the key of the
announcer. Either way the announcer is what it was made, and it does not stop announcing.

## Main definitions

* `Announcer.IsLater`: an announcer at a later point of its life.
* `Renewed`: what renewing a record may do to a site.

## Main results

* `renewed_announce`, `renewed_start`, `renewed_refresh`, `renewed_tick`.
-/

namespace RollCall.Announcer

/-- An announcer at a later point of its life, when no one is writing: what it was made of is the
same. -/
structure IsLater (a a' : Announcer) : Prop where
  gateway : a'.gateway = a.gateway
  settings : a'.settings = a.settings
  node : a'.node = a.node
  host : a'.host = a.host
  port : a'.port = a.port
  key : a'.key = a.key
  ttl : a'.ttl = a.ttl
  interval : a'.interval = a.interval
  isWriting : a'.isWriting = a.isWriting

namespace IsLater

/-- How far its life has come does not matter. -/
theorem life (a : Announcer) (isAnnouncing isStopRequested hasLoop : Bool) (last : Option Int) :
    a.IsLater { a with isAnnouncing, isStopRequested, hasLoop, last } :=
  ⟨rfl, rfl, rfl, rfl, rfl, rfl, rfl, rfl, rfl⟩

theorem refl (a : Announcer) : a.IsLater a :=
  .life a ..

theorem trans {a a' a'' : Announcer} (h : a.IsLater a') (h' : a'.IsLater a'') : a.IsLater a'' where
  gateway := h'.gateway.trans h.gateway
  settings := h'.settings.trans h.settings
  node := h'.node.trans h.node
  host := h'.host.trans h.host
  port := h'.port.trans h.port
  key := h'.key.trans h.key
  ttl := h'.ttl.trans h.ttl
  interval := h'.interval.trans h.interval
  isWriting := h'.isWriting.trans h.isWriting

/-- It writes the same record at the same time. -/
theorem body_eq {a a' : Announcer} (h : a.IsLater a') (now : Int) : a'.body now = a.body now := by
  have hdraft : a'.draft now = a.draft now := by
    rw [draft, draft, h.settings, h.node, h.host, h.port, h.ttl]
  rw [body, body, record, record, hdraft]

end IsLater

/-- What an announcer does at a site while others do nothing: it goes on with its life, calls the
store, and may let time pass. -/
structure Part (i : Nat) (a a' : Announcer) (calls : List Call) (s s' : Site Store) : Prop where
  later : a.IsLater a'
  announcers : s'.announcers = s.announcers.set i a'
  calls : s'.calls = s.calls ++ calls
  now : s.now ≤ s'.now

/-- What renewing a record may do to a site. -/
inductive Renewed (i : Nat) (a : Announcer) (s s' : Site Store) : Prop
  /-- Nothing is written. -/
  | quiet {a' : Announcer} {calls : List Call} (part : Part i a a' calls s s')
      (steady : a.isAnnouncing = true → a'.isAnnouncing = true) (world : s'.world = s.world)
      (noPut : ∀ gateway key data, .put gateway key data ∉ calls)
  /-- The record of the moment is written. -/
  | wrote {a' : Announcer} {calls : List Call} {r : Presence} {data : List UInt8}
      (part : Part i a a' calls s s') (announcing : a'.isAnnouncing = true)
      (body : a.body s'.now = .ok (r, data)) (world : s'.world = s.world.put a.key data)
      (put : .put a.gateway a.key data ∈ calls)
      (only : ∀ gateway key data, .put gateway key data ∈ calls → key = a.key)

variable {i : Nat} {s : Site Store} {a : Announcer} (ha : s.announcers[i]? = some a)
include ha

theorem Renewed.self : Renewed i a s s :=
  .quiet ⟨.refl a, (set_announcer_self ha).symm, (List.append_nil _).symm, Int.le_refl _⟩ id rfl
    fun _ _ _ => List.not_mem_nil

/-- Announcing changes nothing, and fails if the announcer is announcing, or writes the record of
the moment. -/
theorem announce_store (hidle : a.isWriting = false) :
    (∃ result, announce (.ofBackend Store.backend) i s = (result, s) ∧
        (a.isAnnouncing = true → ∃ f, result = .error f)) ∨
      ∃ r data lines tally, a.isAnnouncing = true ∧ a.body s.now = .ok (r, data) ∧
        announce (.ofBackend Store.backend) i s =
          (.ok true, { putting Store.backend a data s with
            announcers := s.announcers.set i { a with last := some s.now }, lines, tally }) := by
  obtain ⟨result, s', hannounce⟩ : ∃ result s',
    announce (.ofBackend Store.backend) i s = (result, s') := ⟨_, _, rfl⟩
  have hannounced := announced_ofBackend (b := Store.backend) ha hidle
  rw [hannounce] at hannounced
  cases hannounced with
  | idle hstopped =>
    refine .inl ⟨_, hannounce, fun hannouncing => ?_⟩
    rw [hstopped] at hannouncing
    cases hannouncing
  | refused hannouncing hbody => exact .inl ⟨_, hannounce, fun _ => ⟨_, rfl⟩⟩
  | written hannouncing hbody hput => exact .inr ⟨_, _, _, _, hannouncing, hbody, hannounce⟩
  | unwritten hannouncing hbody hput => cases hput
  | failed hannouncing hbody hput => cases hput

theorem renewed_announce (hidle : a.isWriting = false) :
    Renewed i a s (announce (.ofBackend Store.backend) i s).2 := by
  rcases announce_store ha hidle with ⟨result, hannounce, -⟩ |
    ⟨r, data, lines, tally, hannouncing, hbody, hannounce⟩
  · rw [hannounce]
    exact .self ha
  · rw [hannounce]
    have hpart : Part i a { a with last := some s.now } [.put a.gateway a.key data] s
        { putting Store.backend a data s with
          announcers := s.announcers.set i { a with last := some s.now }, lines, tally } :=
      ⟨.life a .., rfl, rfl, Int.le_refl _⟩
    refine .wrote hpart hannouncing hbody rfl List.mem_cons_self fun _ _ _ hput => ?_
    exact (Call.put.inj (List.mem_singleton.1 hput)).2.1

theorem renewed_refresh (hidle : a.isWriting = false) :
    Renewed i a s (refresh (.ofBackend Store.backend) i s).2 := by
  rw [refresh_eq ha]
  split
  · exact renewed_announce ha hidle
  · exact .self ha

theorem renewed_start (hidle : a.isWriting = false) :
    Renewed i a s (start (.ofBackend Store.backend) i s).2 := by
  cases hstopped : a.isAnnouncing with
  | true =>
    rw [start_announcing ha hstopped]
    exact .self ha
  | false =>
    rcases start_cases (b := Store.backend) ha hstopped with ⟨f, -, hstart⟩ |
      ⟨r, data, hbody, ⟨f, hanswer, -⟩ | ⟨written, lines, -, hstart⟩⟩
    · rw [hstart, rested_told hidle]
      have hpart : Part i a a.told [] s { s with announcers := s.announcers.set i a.told } :=
        ⟨.life a .., rfl, (List.append_nil _).symm, Int.le_refl _⟩
      exact .quiet hpart (fun _ => rfl) rfl fun _ _ _ => List.not_mem_nil
    · cases hanswer
    · rw [hstart, rested_told hidle]
      have hlater : a.IsLater { a.told with last := some s.now, hasLoop := true } := .life a ..
      refine .wrote ⟨hlater, rfl, rfl, Int.le_refl _⟩ rfl hbody rfl List.mem_cons_self ?_
      intro gateway key data' hput
      rcases List.mem_cons.1 hput with hput | hput
      · exact (Call.put.inj hput).2.1
      · cases List.mem_singleton.1 hput

theorem renewed_tick (hidle : a.isWriting = false) (millis : Nat) :
    Renewed i a s (tick (.ofBackend Store.backend) i millis 1 s).2 := by
  cases hrequested : a.isStopRequested with
  | true =>
    rw [tick_stopped ha hrequested]
    exact .self ha
  | false =>
    have hlater : s.now ≤ s.now + (millis : Int) := by omega
    rcases announce_store (s := { s with now := s.now + millis }) ha hidle with
      ⟨result, hannounce, -⟩ | ⟨r, data, lines, tally, hannouncing, hbody, hannounce⟩
    · obtain ⟨lines', htick⟩ := tick_round ha hrequested hannounce 0
      rw [htick]
      refine .quiet ⟨.refl a, (set_announcer_self ha).symm, (List.append_nil _).symm, hlater⟩ id
        rfl fun _ _ _ => List.not_mem_nil
    · obtain ⟨lines', htick⟩ := tick_round ha hrequested hannounce 0
      rw [htick]
      have hlife : a.IsLater { a with last := some (s.now + millis) } := .life a ..
      refine .wrote ⟨hlife, rfl, rfl, hlater⟩ hannouncing hbody rfl List.mem_cons_self
        fun _ _ _ hput => ?_
      exact (Call.put.inj (List.mem_singleton.1 hput)).2.1

end RollCall.Announcer
