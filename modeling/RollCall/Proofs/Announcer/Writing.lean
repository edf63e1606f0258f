import RollCall.Announcer.Life
import RollCall.Proofs.Site.Calls

/-!
# What announcing does to a site

An announcer that announces makes at most one call to the store, which writes its record. What comes
of it is one of five things: the announcer is not announcing, the record cannot be made, the store
writes it, the store refuses it, or something else fails. Announcing does not ask whether the record
is being written already, so that all this is so at any moment. For an announcer that is not writing
each of the five is a constructor of `Announced`, with all that it changes at the site but what is
said.

## Main definitions

* `Announcer.body`: the record that is written now, with its stored form.
* `Announced`: what announcing may bring, and do to a site.
* `Announcer.tallied`, `Announcer.counted`: what is counted when a record is offered to the store.

## Main results

* `announce_stopped`, `announce_refused`, `announce_offered`: announcing at any moment.
* `announced_ofBackend`: announcing brings one of the five outcomes.
-/

namespace RollCall

variable {ω : Type} {b : Backend ω} {i : Nat} {s : Site ω} {a : Announcer}

/-! ### Announcers by number -/

namespace Site

theorem announcer_of_getElem? (h : s.announcers[i]? = some a) : announcer i s = (a, s) := by
  have hget : s.announcers.getD i default = a := by rw [List.getD_eq_getElem?_getD, h]; rfl
  exact congrArg (·, s) hget

theorem updateAnnouncer_of_getElem? (h : s.announcers[i]? = some a) (f : Announcer → Announcer) :
    updateAnnouncer i f s = ((), { s with announcers := s.announcers.set i (f a) }) := by
  have hset : s.announcers.modify i f = s.announcers.set i (f a) := by
    rw [List.modify_eq_set, h]
    rfl
  rw [← hset]
  rfl

end Site

/-- Setting an announcer to what it is changes nothing. -/
theorem set_announcer_self {l : List Announcer} (h : l[i]? = some a) : l.set i a = l := by
  obtain ⟨hi, rfl⟩ := List.getElem?_eq_some_iff.1 h
  exact List.set_getElem_self hi

theorem getElem?_set_announcer {l : List Announcer} (h : l[i]? = some a) (a' : Announcer) :
    (l.set i a')[i]? = some a' := by
  obtain ⟨hi, -⟩ := List.getElem?_eq_some_iff.1 h
  rw [List.getElem?_set_self hi]

namespace Announcer

/-! ### What may come of it -/

/-- The record that is written now, with its stored form. -/
def body (a : Announcer) (now : Int) : Except Failure (Presence × List UInt8) :=
  a.record now >>= fun r => r.encode.map fun data => (r, data)

theorem record_eq_ok_iff {now : Int} {r : Presence} :
    a.record now = .ok r ↔ a.draft now = r.draft ∧ r.Valid := by
  rw [← Presence.ofDraft_eq_ok_iff, record]
  cases Presence.ofDraft (a.draft now) <;> simp

theorem body_eq_ok_iff {now : Int} {r : Presence} {data : List UInt8} :
    a.body now = .ok (r, data) ↔ a.record now = .ok r ∧ r.encode = .ok data := by
  rw [body]
  cases a.record now with
  | error f => exact iff_of_false nofun nofun
  | ok r' =>
    constructor
    · intro h
      change Except.map _ r'.encode = _ at h
      cases hencode : r'.encode with
      | error f =>
        rw [hencode] at h
        cases h
      | ok data' =>
        rw [hencode] at h
        cases h
        exact ⟨rfl, hencode⟩
    · rintro ⟨hrecord, hencode⟩
      cases hrecord
      change Except.map _ r.encode = _
      rw [hencode]
      rfl

/-- The site after a call that writes some data under the key of an announcer. -/
def putting (b : Backend ω) (a : Announcer) (data : List UInt8) (s : Site ω) : Site ω :=
  { s with
    world := (b.put a.key data s.world).2
    calls := s.calls ++ [.put a.gateway a.key data] }

/-- What comes of the call that writes a record. -/
def settle (i : Nat) (a : Announcer) (now : Int) (r : Presence) :
    Except Failure Unit → Doing ω (Except Failure (Option Int))
  | .ok () => do
    Site.updateAnnouncer i fun a => { a with last := some now }
    return .ok (some r.expires)
  | .error f =>
    if f.isStore then do
      Site.count (.announcements a.settings.cluster false)
      Site.say .warning (a.notAnnouncedText f)
      return .ok none
    else return .error f

/-- What is said of a write, and its answer. -/
def conclude (a : Announcer) : Except Failure (Option Int) → Doing ω (Except Failure Bool)
  | .error f => return .error f
  | .ok none => return .ok false
  | .ok (some expires) => do
    Site.count (.announcements a.settings.cluster true)
    Site.say .debug (a.announcedText expires)
    return .ok true

/-- An announcer that is not writing. -/
def rested (a : Announcer) : Announcer :=
  { a with isWriting := false }

/-- When the record of an announcer was last written, if it is offered to the store now. -/
def lastAfter (a : Announcer) (now : Int) : Except Failure Unit → Option Int
  | .ok () => some now
  | .error _ => a.last

/-- What is made of what the store says to a record. -/
def answerTo : Except Failure Unit → Except Failure Bool
  | .ok () => .ok true
  | .error f => if f.isStore then .ok false else .error f

/-- Only what is no failure of the store is passed on. -/
theorem answerTo_eq_error_iff {outcome : Except Failure Unit} {f : Failure} :
    answerTo outcome = .error f ↔ outcome = .error f ∧ f.isStore = false := by
  rcases outcome with f' | u
  · cases hstore : f'.isStore with
    | true =>
      rw [answerTo, if_pos hstore]
      refine iff_of_false nofun fun ⟨hf, hother⟩ => ?_
      cases hf
      cases hstore.symm.trans hother
    | false =>
      rw [answerTo, hstore, if_neg Bool.false_ne_true, Except.error.injEq, Except.error.injEq]
      exact ⟨fun hf => ⟨hf, hf ▸ hstore⟩, And.left⟩
  · exact iff_of_false nofun nofun

/-- What was said once a record is offered to the store. -/
def remarked (a : Announcer) (r : Presence) (lines : List Logging.Line) :
    Except Failure Unit → List Logging.Line
  | .ok () => lines ++ [⟨.debug, a.announcedText r.expires⟩]
  | .error f => if f.isStore then lines ++ [⟨.warning, a.notAnnouncedText f⟩] else lines

/-- What was counted once the record of an announcer is offered to the store. -/
def tallied (a : Announcer) (t : Tally) : Except Failure Unit → Tally
  | .ok () => t.bump (.announcements a.settings.cluster true)
  | .error f => if f.isStore then t.bump (.announcements a.settings.cluster false) else t

/-- How often something is counted when the record of an announcer is offered to the store. -/
def counted (a : Announcer) : Except Failure Unit → Counter → Nat
  | .ok () => Counter.once (.announcements a.settings.cluster true)
  | .error f =>
    if f.isStore then Counter.once (.announcements a.settings.cluster false) else fun _ => 0

theorem gains_tallied (a : Announcer) (t : Tally) (put : Except Failure Unit) :
    t.Gains (a.tallied t put) (a.counted put) := by
  rcases put with f | u
  · rw [tallied, counted]
    split
    · exact .bump t _
    · exact .refl t
  · exact .bump t _

/-- What announcing may bring, and do to a site, if the announcer is not writing already. -/
inductive Announced (b : Backend ω) (i : Nat) (a : Announcer) (s : Site ω) :
    Except Failure Bool → Site ω → Prop
  /-- The announcer is not announcing. -/
  | idle (hstopped : a.isAnnouncing = false) : Announced b i a s (.ok false) s
  /-- The record cannot be made or stored. -/
  | refused {f : Failure} (hannouncing : a.isAnnouncing = true)
      (hbody : a.body s.now = .error f) : Announced b i a s (.error f) s
  /-- The store writes the record. -/
  | written {r : Presence} {data : List UInt8} {lines : List Logging.Line}
      (hannouncing : a.isAnnouncing = true) (hbody : a.body s.now = .ok (r, data))
      (hput : (b.put a.key data s.world).1 = .ok ()) :
      Announced b i a s (.ok true) { putting b a data s with
        announcers := s.announcers.set i { a with last := some s.now }
        lines
        tally := s.tally.bump (.announcements a.settings.cluster true) }
  /-- The store refuses to write the record. -/
  | unwritten {r : Presence} {data : List UInt8} {f : Failure} {lines : List Logging.Line}
      (hannouncing : a.isAnnouncing = true) (hbody : a.body s.now = .ok (r, data))
      (hput : (b.put a.key data s.world).1 = .error f) (hstore : f.isStore = true) :
      Announced b i a s (.ok false) { putting b a data s with
        lines
        tally := s.tally.bump (.announcements a.settings.cluster false) }
  /-- Something else fails. -/
  | failed {r : Presence} {data : List UInt8} {f : Failure}
      (hannouncing : a.isAnnouncing = true) (hbody : a.body s.now = .ok (r, data))
      (hput : (b.put a.key data s.world).1 = .error f) (hstore : f.isStore = false) :
      Announced b i a s (.error f) (putting b a data s)

/-! ### Writing -/

section

variable (ha : s.announcers[i]? = some a)
include ha

theorem write_idle (hstopped : a.isAnnouncing = false) :
    write (.ofBackend b) i s = (.ok none, s) := by
  rw [write, Doing.bind_of_eq (Site.announcer_of_getElem? ha), hstopped]
  rfl

theorem write_refused (hannouncing : a.isAnnouncing = true) {f : Failure}
    (hbody : a.body s.now = .error f) : write (.ofBackend b) i s = (.error f, s) := by
  rw [write, Doing.bind_of_eq (Site.announcer_of_getElem? ha), hannouncing]
  refine (Doing.bind_of_eq rfl _).trans ?_
  rw [body] at hbody
  rw [hbody]
  rfl

/-- Writing the record is a call to the store and what comes of it. -/
theorem write_calling (hannouncing : a.isAnnouncing = true) {r : Presence} {data : List UInt8}
    (hbody : a.body s.now = .ok (r, data)) :
    write (.ofBackend b) i s =
      settle i a s.now r (b.put a.key data s.world).1 (putting b a data s) := by
  rw [write, Doing.bind_of_eq (Site.announcer_of_getElem? ha), hannouncing]
  refine (Doing.bind_of_eq rfl _).trans ?_
  rw [body] at hbody
  rw [hbody]
  refine (Doing.bind_of_eq (Gateway.ofBackend_put b s a.gateway a.key data) _).trans ?_
  cases (b.put a.key data s.world).1 <;> rfl

theorem write_written (hannouncing : a.isAnnouncing = true) {r : Presence} {data : List UInt8}
    (hbody : a.body s.now = .ok (r, data)) (hput : (b.put a.key data s.world).1 = .ok ()) :
    write (.ofBackend b) i s =
      (.ok (some r.expires), { putting b a data s with
        announcers := s.announcers.set i { a with last := some s.now } }) := by
  rw [write_calling ha hannouncing hbody, hput]
  exact Doing.bind_of_eq (Site.updateAnnouncer_of_getElem? (s := putting b a data s) ha _) _

theorem write_unwritten (hannouncing : a.isAnnouncing = true) {r : Presence} {data : List UInt8}
    (hbody : a.body s.now = .ok (r, data)) {f : Failure}
    (hput : (b.put a.key data s.world).1 = .error f) (hstore : f.isStore = true) :
    write (.ofBackend b) i s = (.ok none, { putting b a data s with
      lines := s.lines ++ [⟨.warning, a.notAnnouncedText f⟩]
      tally := s.tally.bump (.announcements a.settings.cluster false) }) := by
  rw [write_calling ha hannouncing hbody, hput, settle, if_pos hstore]
  rfl

theorem write_failed (hannouncing : a.isAnnouncing = true) {r : Presence} {data : List UInt8}
    (hbody : a.body s.now = .ok (r, data)) {f : Failure}
    (hput : (b.put a.key data s.world).1 = .error f) (hstore : f.isStore = false) :
    write (.ofBackend b) i s = (.error f, putting b a data s) := by
  rw [write_calling ha hannouncing hbody, hput, settle, hstore]
  rfl

/-- Announcing is writing, between two marks that the announcer is at it, and saying what came of
it. -/
theorem announce_of_write {g : Gateway ω} {written : Except Failure (Option Int)} {s' : Site ω}
    {a' : Announcer}
    (hwrite : write g i { s with announcers := s.announcers.set i { a with isWriting := true } } =
      (written, s'))
    (ha' : s'.announcers[i]? = some a') {announcers : List Announcer}
    (hunmark : s'.announcers.set i { a' with isWriting := false } = announcers) :
    announce g i s = a.conclude written { s' with announcers } := by
  rw [announce, Doing.bind_of_eq (Site.announcer_of_getElem? ha),
    Doing.bind_of_eq (Site.updateAnnouncer_of_getElem? ha _), Doing.bind_of_eq hwrite,
    Doing.bind_of_eq (Site.updateAnnouncer_of_getElem? ha' _), hunmark]
  rcases written with f | (_ | expires) <;> rfl

/-! ### Announcing

Announcing does not ask whether the record is being written already; afterwards it is not. -/

theorem announce_stopped (hstopped : a.isAnnouncing = false) :
    announce (.ofBackend b) i s =
      (.ok false, { s with announcers := s.announcers.set i a.rested }) := by
  have hmark := getElem?_set_announcer ha { a with isWriting := true }
  exact announce_of_write ha (write_idle hmark hstopped) hmark (List.set_set ..)

theorem announce_refused (hannouncing : a.isAnnouncing = true) {f : Failure}
    (hbody : a.body s.now = .error f) :
    announce (.ofBackend b) i s =
      (.error f, { s with announcers := s.announcers.set i a.rested }) := by
  have hmark := getElem?_set_announcer ha { a with isWriting := true }
  exact announce_of_write ha (write_refused (a := { a with isWriting := true }) hmark hannouncing
    hbody) hmark (List.set_set ..)

/-- **The record of the moment is offered to the store**, and what the store says decides when it
was last written, what is said and what is counted. -/
theorem announce_offered (hannouncing : a.isAnnouncing = true) {r : Presence} {data : List UInt8}
    (hbody : a.body s.now = .ok (r, data)) :
    announce (.ofBackend b) i s =
      (answerTo (b.put a.key data s.world).1, { putting b a data s with
        announcers := s.announcers.set i
          { a.rested with last := a.lastAfter s.now (b.put a.key data s.world).1 }
        lines := a.remarked r s.lines (b.put a.key data s.world).1
        tally := a.tallied s.tally (b.put a.key data s.world).1 }) := by
  have hmark : ({ s with announcers := s.announcers.set i { a with isWriting := true } } :
      Site ω).announcers[i]? = some { a with isWriting := true } := getElem?_set_announcer ha _
  have hunmark : (s.announcers.set i { a with isWriting := true }).set i
      { a with isWriting := false } = s.announcers.set i a.rested := List.set_set ..
  cases hput : (b.put a.key data s.world).1 with
  | ok u =>
    have hwritten : ((s.announcers.set i { a with isWriting := true }).set i
        { a with isWriting := true, last := some s.now }).set i
          { a with isWriting := false, last := some s.now } =
        s.announcers.set i { a.rested with last := some s.now } := by
      rw [List.set_set, List.set_set]
      rfl
    rw [announce_of_write ha (write_written hmark hannouncing hbody hput)
      (getElem?_set_announcer hmark _) hwritten]
    rfl
  | error f =>
    rw [answerTo, remarked, tallied]
    cases hstore : f.isStore with
    | true =>
      rw [announce_of_write ha (write_unwritten hmark hannouncing hbody hput hstore) hmark hunmark]
      rfl
    | false =>
      rw [announce_of_write ha (write_failed hmark hannouncing hbody hput hstore) hmark hunmark]
      rfl

/-- What announcing comes to if the record can be made: what the store says. -/
theorem announce_fst {r : Presence} {data : List UInt8} (hbody : a.body s.now = .ok (r, data)) :
    (announce (.ofBackend b) i s).1 =
      if a.isAnnouncing then answerTo (b.put a.key data s.world).1 else .ok false := by
  cases hannouncing : a.isAnnouncing with
  | false => rw [announce_stopped ha hannouncing, if_neg Bool.false_ne_true]
  | true => rw [announce_offered ha hannouncing hbody, if_pos rfl]

/-- **Announcing, at any moment**: nothing is offered to the store, as the announcer is not announcing
or its record cannot be made; or the record of the moment is offered, and what the store says
decides when it was last written. -/
theorem announce_cases :
    (∃ result, announce (.ofBackend b) i s =
        (result, { s with announcers := s.announcers.set i a.rested }) ∧
      (a.isAnnouncing = true → ∃ f, a.body s.now = .error f)) ∨
    ∃ r data lines tally, a.isAnnouncing = true ∧ a.body s.now = .ok (r, data) ∧
      announce (.ofBackend b) i s =
        (answerTo (b.put a.key data s.world).1, { putting b a data s with
          announcers := s.announcers.set i
            { a.rested with last := a.lastAfter s.now (b.put a.key data s.world).1 }
          lines, tally }) := by
  cases hannouncing : a.isAnnouncing with
  | false => exact .inl ⟨_, announce_stopped ha hannouncing, nofun⟩
  | true =>
    cases hbody : a.body s.now with
    | error f => exact .inl ⟨_, announce_refused ha hannouncing hbody, fun _ => ⟨f, rfl⟩⟩
    | ok record =>
      exact .inr ⟨_, _, _, _, rfl, rfl, announce_offered ha hannouncing hbody⟩

/-- **Announcing brings one of the outcomes**, with what it changes at the site. -/
theorem announced_ofBackend (hidle : a.isWriting = false) :
    Announced b i a s (announce (.ofBackend b) i s).1 (announce (.ofBackend b) i s).2 := by
  have hrested : a.rested = a := by rw [rested, ← hidle]
  cases hannouncing : a.isAnnouncing with
  | false =>
    rw [announce_stopped ha hannouncing, hrested, set_announcer_self ha]
    exact .idle hannouncing
  | true =>
    cases hbody : a.body s.now with
    | error f =>
      rw [announce_refused ha hannouncing hbody, hrested, set_announcer_self ha]
      exact .refused hannouncing hbody
    | ok record =>
      obtain ⟨r, data⟩ := record
      rw [announce_offered ha hannouncing hbody, hrested]
      cases hput : (b.put a.key data s.world).1 with
      | ok u => exact .written hannouncing hbody hput
      | error f =>
        have hsame : s.announcers.set i { a with last := a.lastAfter s.now (.error f) } =
            s.announcers := set_announcer_self ha
        rw [hsame, answerTo, remarked, tallied]
        cases hstore : f.isStore with
        | true => exact .unwritten hannouncing hbody hput hstore
        | false => exact .failed hannouncing hbody hput hstore

end

end Announcer

end RollCall
