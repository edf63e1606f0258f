import Mathlib.Data.List.Basic
import RollCall.Proofs.Announcer.Record
import RollCall.Proofs.Member.Stopping

/-!
# The books of an announcer

An announcer remembers when its record was last written, and counts how often it was written and how
often the store refused it. Whatever is done with an announcer, in any order, with the clock at any
reading and with any outcome of each write and each deletion, these books agree with what happened:
a ledger of all writes and deletions with their outcomes, each with the reading of the clock.

The stages of a run are taken one at a time, as a write waits for the one before it. A write that
takes its time is marked: meanwhile the announcer may be stopped, and then it deletes nothing. A
round of the loop whose wait had ended before the loop was told to end announces, and does nothing
else to the books. A refresh looks at the clock twice, and the clock may go on in between.

## Main definitions

* `Deed`, `Backend.noted`: a write or a deletion with its outcome, and a backend that keeps them.
* `Announcer.Stage`, `Announcer.through`: what is done with an announcer, and a run.
* `Announcer.ledger`: the deeds of a run, each with the reading of the clock.
* `Announcer.Books`: books that agree with a ledger.

## Main results

* `Announcer.tick_eq_through`: rounds of the loop, one at a time.
* `Announcer.Stage.after_cases`: what a stage comes to.
* `Announcer.enters_after`: the deed of one stage, if there is any, and what is made of it.
* `Announcer.books_through`: the books of a run.
* `Announcer.bookkeeping`: the books of an announcer from its creation on.
-/

namespace RollCall

variable {ω : Type}

/-- A write or a deletion, with its outcome. -/
inductive Deed
  | put (key : String) (data : List UInt8) (outcome : Except Failure Unit)
  | delete (key : String) (outcome : Except Failure Unit)
  deriving DecidableEq

namespace Deed

/-- The key that is written or deleted. -/
def key : Deed → String
  | put key _ _ => key
  | delete key _ => key

/-- Whether something was written. -/
def isWritten : Deed → Bool
  | put _ _ (.ok ()) => true
  | _ => false

/-- Whether the store refused to write something. -/
def isRefused : Deed → Bool
  | put _ _ (.error f) => f.isStore
  | _ => false

end Deed

/-- A backend that keeps all writes and deletions with their outcomes, next to its world. -/
def Backend.noted (b : Backend ω) : Backend (ω × List Deed) where
  put key data := fun (w, deeds) =>
    let (outcome, w) := b.put key data w
    (outcome, w, deeds ++ [.put key data outcome])
  get key := fun (w, deeds) =>
    let (outcome, w) := b.get key w
    (outcome, w, deeds)
  list keyPrefix := fun (w, deeds) =>
    let (outcome, w) := b.list keyPrefix w
    (outcome, w, deeds)
  delete key := fun (w, deeds) =>
    let (outcome, w) := b.delete key w
    (outcome, w, deeds ++ [.delete key outcome])
  checkBucket := fun (w, deeds) =>
    let (outcome, w) := b.checkBucket w
    (outcome, w, deeds)
  close := fun (w, deeds) =>
    let (outcome, w) := b.close w
    (outcome, w, deeds)
  connect settings := fun (w, deeds) =>
    let (outcome, w) := b.connect settings w
    (outcome, w, deeds)

namespace Announcer

/-! ### Runs -/

/-- What may be done with an announcer, and what may happen around it. -/
inductive Stage
  /-- The clock shows something. -/
  | clock (now : Int)
  | start
  | announce
  | refresh
  /-- A refresh that finds another reading when it looks at the clock again, to write. -/
  | lateRefresh (now : Int)
  /-- A round of the loop. -/
  | tick (millis : Int)
  | stop (patience : Value)
  /-- A write begins to take its time, or no longer does. -/
  | mark (isWriting : Bool)

/-- The site after a stage. -/
def Stage.after (g : Gateway ω) (i : Nat) (s : Site ω) : Stage → Site ω
  | clock now => { s with now }
  | start => (Announcer.start g i s).2
  | announce => (Announcer.announce g i s).2
  | refresh => (Announcer.refresh g i s).2
  | lateRefresh now =>
    let a := (Site.announcer i s).1
    if a.isAnnouncing && a.isDue s.now then (Announcer.announce g i { s with now }).2 else s
  | tick millis => (Announcer.tick g i millis 1 s).2
  | stop patience => (Announcer.stop g i patience s).2
  | mark isWriting => (Site.updateAnnouncer i (fun a => { a with isWriting }) s).2

/-- The site after some stages. -/
def through (g : Gateway ω) (i : Nat) (stages : List Stage) (s : Site ω) : Site ω :=
  stages.foldl (Stage.after g i) s

/-- The deeds of a run, each with the reading of the clock. -/
def ledger (g : Gateway (ω × List Deed)) (i : Nat) :
    List Stage → Site (ω × List Deed) → List (Int × Deed)
  | [], _ => []
  | stage :: stages, s =>
    let s' := stage.after g i s
    (s'.world.2.drop s.world.2.length).map (s'.now, ·) ++ ledger g i stages s'

/-- When the last deed that wrote something was done. -/
def lastWritten (ledger : List (Int × Deed)) : Option Int :=
  ((ledger.filter (·.2.isWritten)).map (·.1)).getLast?

/-- What is said of a round of the loop. -/
def noteFailure : Except Failure Bool → Doing ω Unit
  | .ok _ => pure ()
  | .error _ => Site.say .error loopFailedText

/-- Some rounds of the loop are one round, and then those that are left. -/
theorem tick_succ (g : Gateway ω) (i : Nat) (millis : Int) (rounds : Nat) (s : Site ω) :
    (tick g i millis (rounds + 1) s).2 = (tick g i millis rounds (tick g i millis 1 s).2).2 := by
  have hannouncer (s : Site ω) : Site.announcer i s = (s.announcers.getD i default, s) := rfl
  cases hrequested : (s.announcers.getD i default).isStopRequested with
  | true =>
    have hstopped (rounds : Nat) : (tick g i millis rounds s).2 = s := by
      cases rounds with
      | zero => rfl
      | succ rounds =>
        rw [tick, Doing.bind_of_eq (hannouncer s), hrequested]
        rfl
    rw [hstopped, hstopped, hstopped]
  | false =>
    obtain ⟨result, s', hannounce⟩ : ∃ result s',
      announce g i { s with now := s.now + millis } = (result, s') := ⟨_, _, rfl⟩
    have hadvance : Site.advance millis s = ((), { s with now := s.now + millis }) := rfl
    have hround (rounds : Nat) : (tick g i millis (rounds + 1) s).2 =
        (tick g i millis rounds (noteFailure result s').2).2 := by
      rw [tick, Doing.bind_of_eq (hannouncer s), hrequested, if_neg Bool.false_ne_true,
        Doing.bind_of_eq hadvance, Doing.bind_of_eq hannounce]
      cases result <;> rfl
    rw [hround, hround]
    rfl

/-- Rounds of the loop are taken one at a time. -/
theorem tick_eq_through (g : Gateway ω) (i : Nat) (millis : Int) (rounds : Nat) (s : Site ω) :
    (tick g i millis rounds s).2 = through g i (List.replicate rounds (.tick millis)) s := by
  induction rounds generalizing s with
  | zero => rfl
  | succ rounds ih =>
    rw [tick_succ, ih]
    rfl

/-! ### One stage -/

variable {a a' : Announcer}

/-- **What a stage comes to.** If it is neither a start nor a stop, the announcer announces at some
reading of the clock, or nothing is done but to the clock and to the mark of a write. -/
theorem Stage.after_cases {g : Gateway ω} {i : Nat} {s : Site ω} (ha : s.announcers[i]? = some a)
    (stage : Stage) :
    stage = .start ∨ (∃ patience, stage = .stop patience) ∨
      (stage ≠ .start ∧ ∀ patience, stage ≠ .stop patience) ∧
        ((∃ now lines,
            stage.after g i s = { (Announcer.announce g i { s with now }).2 with lines }) ∨
          ∃ now isWriting, stage.after g i s =
            { s with now, announcers := s.announcers.set i { a with isWriting } }) := by
  have hclock (now : Int) : ∃ now' isWriting, ({ s with now } : Site ω) =
      { s with now := now', announcers := s.announcers.set i { a with isWriting } } :=
    ⟨now, a.isWriting, congrArg (fun announcers => ({ s with now, announcers } : Site ω))
      (set_announcer_self ha).symm⟩
  cases stage with
  | start => exact .inl rfl
  | stop patience => exact .inr (.inl ⟨patience, rfl⟩)
  | clock now => exact .inr (.inr ⟨⟨nofun, nofun⟩, .inr (hclock now)⟩)
  | announce => exact .inr (.inr ⟨⟨nofun, nofun⟩, .inl ⟨s.now, _, rfl⟩⟩)
  | refresh =>
    refine .inr (.inr ⟨⟨nofun, nofun⟩, ?_⟩)
    rw [after, refresh_eq ha]
    split
    · exact .inl ⟨s.now, _, rfl⟩
    · exact .inr (hclock s.now)
  | lateRefresh now =>
    refine .inr (.inr ⟨⟨nofun, nofun⟩, ?_⟩)
    rw [after, Site.announcer_of_getElem? ha]
    dsimp only
    split
    · exact .inl ⟨now, _, rfl⟩
    · exact .inr (hclock s.now)
  | tick millis =>
    refine .inr (.inr ⟨⟨nofun, nofun⟩, ?_⟩)
    by_cases hrequested : a.isStopRequested = true
    · rw [after, tick_stopped ha hrequested]
      exact .inr (hclock s.now)
    · obtain ⟨lines, htick⟩ := tick_round (g := g) ha (Bool.eq_false_iff.2 hrequested)
        rfl 0
      exact .inl ⟨s.now + millis, lines, htick⟩
  | mark isWriting =>
    refine .inr (.inr ⟨⟨nofun, nofun⟩, .inr ⟨s.now, isWriting, ?_⟩⟩)
    rw [after, Site.updateAnnouncer_of_getElem? ha]

/-- An announcer as it was when it was made. -/
def made (a : Announcer) : Announcer :=
  { a with
    isAnnouncing := false, isStopRequested := false, hasLoop := false, isWriting := false
    last := none }

theorem body_eq_of_made (h : a'.made = a.made) (now : Int) : a'.body now = a.body now := by
  change a'.made.body now = a.made.body now
  rw [h]

theorem settings_eq_of_made (h : a'.made = a.made) : a'.settings = a.settings :=
  congrArg (·.settings) h

theorem key_eq_of_made (h : a'.made = a.made) : a'.key = a.key :=
  congrArg (·.key) h

/-- What may be entered into the books of an announcer at a moment: the deeds, when the record was
last written, and what is counted. -/
inductive Entry (a : Announcer) (now : Int) (t : Tally) : List Deed → Option Int → Tally → Prop
  | nothing : Entry a now t [] a.last t
  | put {r : Presence} {data : List UInt8} (hbody : a.body now = .ok (r, data))
      (outcome : Except Failure Unit) :
      Entry a now t [.put a.key data outcome] (a.lastAfter now outcome) (a.tallied t outcome)
  | delete (outcome : Except Failure Unit) : Entry a now t [.delete a.key outcome] a.last t

/-- How far its life has come does not matter. -/
theorem Entry.of_made {now : Int} {t t' : Tally} {deeds : List Deed} {last : Option Int}
    (h : Entry a' now t deeds last t') (hmade : a'.made = a.made) (hlast : a'.last = a.last) :
    Entry a now t deeds last t' := by
  cases h with
  | nothing =>
    rw [hlast]
    exact .nothing
  | put hbody outcome =>
    have hafter : a'.lastAfter now outcome = a.lastAfter now outcome := by
      cases outcome with
      | ok u => rfl
      | error f => exact hlast
    have htallied : a'.tallied t outcome = a.tallied t outcome := by
      rw [tallied.eq_def, tallied.eq_def, settings_eq_of_made hmade]
    rw [hafter, htallied, key_eq_of_made hmade]
    exact .put (body_eq_of_made hmade now ▸ hbody) outcome
  | delete outcome =>
    rw [hlast, key_eq_of_made hmade]
    exact .delete outcome

/-- A stage enters at most one deed into the books, and the announcer is what it was made. -/
def Enters (i : Nat) (a : Announcer) (s s' : Site (ω × List Deed)) : Prop :=
  ∃ a' deeds, s'.announcers[i]? = some a' ∧ a'.made = a.made ∧
    s'.world.2 = s.world.2 ++ deeds ∧ Entry a s'.now s.tally deeds a'.last s'.tally

variable {i : Nat} {s s' s'' : Site (ω × List Deed)}

/-- What concerns neither the world nor the tally nor the time of the last write enters nothing. -/
theorem Enters.nothing (ha' : s'.announcers[i]? = some a') (hmade : a'.made = a.made)
    (hlast : a'.last = a.last) (hworld : s'.world = s.world) (htally : s'.tally = s.tally) :
    Enters i a s s' := by
  refine ⟨a', [], ha', hmade, ?_, ?_⟩
  · rw [hworld, List.append_nil]
  · rw [hlast, htally]
    exact .nothing

section

variable {b : Backend ω} (ha : s.announcers[i]? = some a)
include ha

theorem Enters.self : Enters i a s s :=
  .nothing ha rfl rfl rfl rfl

/-- **Announcing enters the write**, if there is one. -/
theorem enters_announce : Enters i a s (Announcer.announce (.ofBackend b.noted) i s).2 := by
  have hrested := getElem?_set_announcer ha a.rested
  cases hannouncing : a.isAnnouncing with
  | false =>
    rw [announce_stopped ha hannouncing]
    exact .nothing hrested rfl rfl rfl rfl
  | true =>
    cases hbody : a.body s.now with
    | error f =>
      rw [announce_refused ha hannouncing hbody]
      exact .nothing hrested rfl rfl rfl rfl
    | ok record =>
      obtain ⟨r, data⟩ := record
      rw [announce_offered ha hannouncing hbody]
      exact ⟨_, [.put a.key data _], getElem?_set_announcer ha _, rfl, rfl, .put hbody _⟩

theorem enters_start : Enters i a s (Announcer.start (.ofBackend b.noted) i s).2 := by
  cases hstopped : a.isAnnouncing with
  | true =>
    rw [start_announcing ha hstopped]
    exact .self ha
  | false =>
    have hwritten (data : List UInt8) : (b.noted.put a.key data s.world).2.2 =
      s.world.2 ++ [.put a.key data (b.noted.put a.key data s.world).1] := rfl
    rcases start_cases (b := b.noted) ha hstopped with ⟨f, -, hstart⟩ |
      ⟨r, data, hbody, ⟨f, hanswer, hstart⟩ | ⟨written, lines, -, hstart⟩⟩
    · rw [hstart]
      exact .nothing (getElem?_set_announcer ha _) rfl rfl rfl rfl
    · obtain ⟨hput, hstore⟩ := answerTo_eq_error_iff.1 hanswer
      have hentry := Entry.put (t := s.tally) hbody (.error f)
      rw [tallied, hstore] at hentry
      rw [hstart]
      exact ⟨_, _, getElem?_set_announcer ha _, rfl, hput ▸ hwritten data, hentry⟩
    · rw [hstart]
      exact ⟨_, _, getElem?_set_announcer ha _, rfl, hwritten data, .put hbody _⟩

/-- **Stopping enters the deletion**, if there is one. -/
theorem enters_stop (patience : Value) :
    Enters i a s (Announcer.stop (.ofBackend b.noted) i patience s).2 := by
  cases hannouncing : a.isAnnouncing with
  | false =>
    rw [stop_stopped ha hannouncing]
    exact .self ha
  | true =>
    obtain ⟨lines, hstop⟩ := stop_announcing (b := b.noted) ha hannouncing patience
    have ha' := getElem?_set_announcer ha a.stopped
    rw [hstop, withdrawal]
    cases a.isWriting with
    | true => exact .nothing ha' rfl rfl rfl rfl
    | false => exact ⟨_, [.delete a.key _], ha', rfl, rfl, .delete _⟩

/-- **What one stage enters into the books.** -/
theorem enters_after (stage : Stage) : Enters i a s (stage.after (.ofBackend b.noted) i s) := by
  rcases stage.after_cases (g := .ofBackend b.noted) ha with rfl | ⟨patience, rfl⟩ |
    ⟨-, ⟨now, lines, hafter⟩ | ⟨now, isWriting, hafter⟩⟩
  · exact enters_start ha
  · exact enters_stop ha patience
  · rw [hafter]
    exact enters_announce (s := { s with now }) ha
  · rw [hafter]
    exact .nothing (getElem?_set_announcer ha _) rfl rfl rfl rfl

end

/-! ### Whole runs -/

/-- Books that agree with a ledger: those of an announcer that wrote its record at some moment last,
over a run from one site to another. -/
structure Books (a : Announcer) (last : Option Int) (s s' : Site (ω × List Deed))
    (ledger : List (Int × Deed)) : Prop where
  /-- All that was written or deleted is in the ledger. -/
  deeds : s'.world.2 = s.world.2 ++ ledger.map (·.2)
  /-- Nothing is written or deleted but under the own key. -/
  key (e : Int × Deed) (he : e ∈ ledger) : e.2.key = a.key
  /-- Whatever is offered to the store is the record of the moment. -/
  record (now : Int) (key : String) (data : List UInt8) (outcome : Except Failure Unit)
    (h : (now, .put key data outcome) ∈ ledger) :
    ∃ r, a.IsRecord now r ∧ Presence.decode data (some key) = .ok r
  /-- The announcer remembers when its record was last written. -/
  last : last = (lastWritten ledger).or a.last
  /-- Each record that was written is counted once. -/
  written : s'.tally.count (.announcements a.settings.cluster true) =
    s.tally.count (.announcements a.settings.cluster true) + ledger.countP (·.2.isWritten)
  /-- Each record that the store refused is counted once. -/
  refused : s'.tally.count (.announcements a.settings.cluster false) =
    s.tally.count (.announcements a.settings.cluster false) + ledger.countP (·.2.isRefused)
  /-- Nothing else is counted. -/
  others (c : Counter) (hc : ∀ written, c ≠ .announcements a.settings.cluster written) :
    s'.tally.count c = s.tally.count c
  found (cluster : String) : s'.tally.found? cluster = s.tally.found? cluster

/-- A record is counted as written if it was. -/
theorem counted_written (a : Announcer) (key : String) (data : List UInt8)
    (outcome : Except Failure Unit) :
    a.counted outcome (.announcements a.settings.cluster true) =
      if (Deed.put key data outcome).isWritten then 1 else 0 := by
  rcases outcome with f | u
  · rw [counted]
    split <;> simp [Counter.once, Deed.isWritten]
  · simp [counted, Counter.once, Deed.isWritten]

/-- A record is counted as refused if it was. -/
theorem counted_refused (a : Announcer) (key : String) (data : List UInt8)
    (outcome : Except Failure Unit) :
    a.counted outcome (.announcements a.settings.cluster false) =
      if (Deed.put key data outcome).isRefused then 1 else 0 := by
  rcases outcome with f | u
  · rw [counted]
    split <;> simp_all [Counter.once, Deed.isRefused]
  · simp [counted, Counter.once, Deed.isRefused]

/-- Nothing but announcements is counted. -/
theorem counted_other (a : Announcer) {c : Counter}
    (hc : ∀ written, c ≠ .announcements a.settings.cluster written)
    (outcome : Except Failure Unit) : a.counted outcome c = 0 := by
  rcases outcome with f | u
  · rw [counted]
    split
    · exact if_neg (hc false)
    · rfl
  · exact if_neg (hc true)

variable {l l' : List (Int × Deed)} {last last' : Option Int}

theorem lastWritten_append : lastWritten (l ++ l') = (lastWritten l').or (lastWritten l) := by
  rw [lastWritten, List.filter_append, List.map_append, List.getLast?_append]
  rfl

/-- A record of an announcer is one of the announcer as it was made. -/
theorem IsRecord.of_made {now : Int} {r : Presence} (h : a'.IsRecord now r)
    (hmade : a'.made = a.made) : a.IsRecord now r where
  cluster := h.cluster.trans (congrArg (·.settings.cluster) hmade)
  node := h.node.trans (congrArg (·.node) hmade)
  host := h.host.trans (congrArg (·.host) hmade)
  port := h.port.trans (congrArg (·.port) hmade)
  expires := h.expires.trans (congrArg (now + ·.ttl) hmade)

namespace Books

theorem refl (a : Announcer) (s : Site (ω × List Deed)) : Books a a.last s s [] where
  deeds := (List.append_nil _).symm
  key _ he := absurd he List.not_mem_nil
  record _ _ _ _ h := absurd h List.not_mem_nil
  last := rfl
  written := rfl
  refused := rfl
  others _ _ := rfl
  found _ := rfl

/-- **Books that are continued** by an announcer that goes on with its life. -/
theorem trans (h : Books a last s s' l) (h' : Books a' last' s' s'' l')
    (hmade : a'.made = a.made) (hlast : a'.last = last) : Books a last' s s'' (l ++ l') where
  deeds := by rw [h'.deeds, h.deeds, List.map_append, List.append_assoc]
  key e he := by
    rcases List.mem_append.1 he with he | he
    · exact h.key e he
    · exact (h'.key e he).trans (key_eq_of_made hmade)
  record now key data outcome hmem := by
    rcases List.mem_append.1 hmem with hmem | hmem
    · exact h.record now key data outcome hmem
    · obtain ⟨r, hr, hdecode⟩ := h'.record now key data outcome hmem
      exact ⟨r, hr.of_made hmade, hdecode⟩
  last := by rw [h'.last, hlast, h.last, lastWritten_append, Option.or_assoc]
  written := by
    have hwritten := h'.written
    rw [settings_eq_of_made hmade] at hwritten
    rw [hwritten, h.written, List.countP_append, Nat.add_assoc]
  refused := by
    have hrefused := h'.refused
    rw [settings_eq_of_made hmade] at hrefused
    rw [hrefused, h.refused, List.countP_append, Nat.add_assoc]
  others c hc := by
    have hc' : ∀ written, c ≠ .announcements a'.settings.cluster written := by
      rwa [settings_eq_of_made hmade]
    rw [h'.others c hc', h.others c hc]
  found cluster := (h'.found cluster).trans (h.found cluster)

end Books

/-- What is entered at a moment makes books that agree with it. -/
theorem Entry.books {deeds : List Deed} (h : Entry a s'.now s.tally deeds last s'.tally)
    (hworld : s'.world.2 = s.world.2 ++ deeds) :
    Books a last s s' (deeds.map (s'.now, ·)) := by
  generalize hnow : s'.now = now at h ⊢
  generalize htally : s'.tally = t at h
  cases h with
  | nothing =>
    have hrefl := Books.refl a s
    refine ⟨hworld, hrefl.key, hrefl.record, hrefl.last, ?_, ?_, fun c _ => ?_, fun cluster => ?_⟩
    all_goals rw [htally]
    all_goals rfl
  | @put r data hbody outcome =>
    have hgains := a.gains_tallied s.tally outcome
    rw [← htally] at hgains
    refine ⟨hworld, ?_, ?_, ?_, ?_, ?_, fun c hc => ?_, hgains.found⟩
    · exact List.forall_mem_singleton.2 rfl
    · intro now' key data' outcome' hmem
      cases List.mem_singleton.1 hmem
      exact ⟨r, decode_of_body hbody (some a.key)⟩
    · rcases outcome with f | u <;> rfl
    · rw [hgains.count, a.counted_written a.key data, List.map_singleton, List.countP_singleton]
    · rw [hgains.count, a.counted_refused a.key data, List.map_singleton, List.countP_singleton]
    · rw [hgains.count, a.counted_other hc, Nat.add_zero]
  | delete outcome =>
    refine ⟨hworld, ?_, ?_, rfl, ?_, ?_, fun c _ => ?_, fun cluster => ?_⟩
    · exact List.forall_mem_singleton.2 rfl
    · intro now' key data' outcome' hmem
      cases List.mem_singleton.1 hmem
    all_goals rw [htally]
    all_goals rfl

/-- **The books of a run** agree with its ledger. -/
theorem books_through (b : Backend ω) (stages : List Stage) (ha : s.announcers[i]? = some a) :
    ∃ a', (through (.ofBackend b.noted) i stages s).announcers[i]? = some a' ∧
      a'.made = a.made ∧ Books a a'.last s (through (.ofBackend b.noted) i stages s)
        (ledger (.ofBackend b.noted) i stages s) := by
  induction stages generalizing s a with
  | nil => exact ⟨a, ha, rfl, .refl a s⟩
  | cons stage stages ih =>
    obtain ⟨a₁, deeds, ha₁, hmade, hworld, hentry⟩ := enters_after (b := b) ha stage
    obtain ⟨a', ha', hmade', hbooks⟩ := ih ha₁
    refine ⟨a', ha', hmade'.trans hmade, ?_⟩
    rw [ledger, hworld, List.drop_left]
    exact (hentry.books hworld).trans hbooks hmade rfl

/-- **The books of an announcer** agree with what happened, from its creation on and whatever is
done with it: it writes and deletes under its own key only; whatever it offers to the store is the
record of its node that expires a fixed time after the reading of the clock; it remembers the
reading at its last write, if there was one; and each write is counted once, each write that the
store refused is counted once, and nothing else is. -/
theorem bookkeeping (b : Backend ω) {gateway : Nat} {settings : Settings} {node host port : Value}
    (hcreate : create gateway settings node host port = .ok a) (ha : s.announcers[i]? = some a)
    (stages : List Stage) :
    let s' := through (.ofBackend b.noted) i stages s
    let deeds := ledger (.ofBackend b.noted) i stages s
    ∃ a' ttl, s'.announcers[i]? = some a' ∧ Duration.millis settings.expiration = .ok ttl ∧
      s'.world.2 = s.world.2 ++ deeds.map (·.2) ∧
      (∀ e ∈ deeds, e.2.key = ObjectKey.node settings.keyPrefix settings.cluster node.display) ∧
      (∀ now key data outcome, (now, .put key data outcome) ∈ deeds →
        ∃ r, Presence.decode data (some key) = .ok r ∧ r.cluster = settings.cluster ∧
          .text r.node = node ∧ .text r.host = host ∧ .int r.port = port ∧
          r.expires = now + ttl) ∧
      a'.last = lastWritten deeds ∧
      s'.tally.count (.announcements settings.cluster true) =
        s.tally.count (.announcements settings.cluster true) + deeds.countP (·.2.isWritten) ∧
      s'.tally.count (.announcements settings.cluster false) =
        s.tally.count (.announcements settings.cluster false) + deeds.countP (·.2.isRefused) ∧
      (∀ c, (∀ written, c ≠ .announcements settings.cluster written) →
        s'.tally.count c = s.tally.count c) ∧
      ∀ cluster, s'.tally.found? cluster = s.tally.found? cluster := by
  obtain ⟨a', ha', -, hbooks⟩ := books_through b stages ha
  obtain ⟨ttl, interval, httl, -, rfl⟩ := create_eq_ok_iff.1 hcreate
  refine ⟨a', ttl, ha', httl, hbooks.deeds, hbooks.key, ?_, ?_, hbooks.written, hbooks.refused,
    hbooks.others, hbooks.found⟩
  · intro now key data outcome hmem
    obtain ⟨r, hr, hdecode⟩ := hbooks.record now key data outcome hmem
    exact ⟨r, hdecode, hr.cluster, hr.node, hr.host, hr.port, hr.expires⟩
  · exact hbooks.last.trans Option.or_none

/-- A backend whose world is how the writes and deletions to come end. -/
def fated : Backend (List (Except Failure Unit)) where
  put _ _ outcomes := (outcomes.headD (.ok ()), outcomes.tail)
  get key outcomes := (.error (.notFound (some key)), outcomes)
  list _ outcomes := (.ok [], outcomes)
  delete _ outcomes := (outcomes.headD (.ok ()), outcomes.tail)
  checkBucket outcomes := (.ok .existing, outcomes)
  close outcomes := (.ok (), outcomes)
  connect _ outcomes := (.ok (), outcomes)

/-- A run with every stage: the clock is set back, writes are refused and fail otherwise, a stop
finds the record being written and another fails to delete it. -/
def eventful : List Stage :=
  [.announce, .clock 5, .start, .clock 3, .announce, .refresh, .clock 20000, .refresh,
    .lateRefresh 20007, .tick 10000, .mark true, .stop (.int 5), .mark false, .start,
    .stop (.int 5), .clock 40000, .announce]

/-- Of six writes three took place and two were refused, and one deletion failed. -/
theorem bookkeeping_eventful :
    let settings : Settings := { (default : Settings) with
      keyPrefix := "p", cluster := "c", expiration := .ofInt 30, interval := .ofInt 10 }
    let a : Announcer := {
      gateway := 0, settings, node := .text "x", host := .text "h", port := .int 2
      key := ObjectKey.node settings.keyPrefix settings.cluster (Value.text "x").display
      ttl := 30000, interval := 10000
      isAnnouncing := false, isStopRequested := false, hasLoop := false, isWriting := false
      last := none }
    let refused : Except Failure Unit := .error (.store "put" (some "p/c/x") "busy")
    let failed : Except Failure Unit := .error (.unforeseen "reset")
    let s : Site (List (Except Failure Unit) × List Deed) :=
      { Site.initial ([.ok (), refused, failed, .ok (), refused, .ok (), failed], []) 0 with
        announcers := [a] }
    let s' := through (.ofBackend fated.noted) 0 eventful s
    let deeds := ledger (.ofBackend fated.noted) 0 eventful s
    create 0 settings (.text "x") (.text "h") (.int 2) = .ok a ∧ s.announcers[0]? = some a ∧
      deeds.map (fun e => (e.1, e.2.isWritten, e.2.isRefused)) =
        [(5, true, false), (3, false, true), (20000, false, false), (20007, true, false),
          (30007, false, true), (30007, true, false), (30007, false, false)] ∧
      (∀ e ∈ deeds, e.2.key = "p/c/x") ∧
      (∀ now key data outcome, (now, .put key data outcome) ∈ deeds →
        ∃ r, Presence.decode data (some key) = .ok r ∧ r.cluster = "c" ∧ r.expires = now + 30000) ∧
      (∃ a', s'.announcers[0]? = some a' ∧ a'.last = some 30007) ∧
      s'.tally.count (.announcements "c" true) = 3 ∧
      s'.tally.count (.announcements "c" false) = 2 := by
  intro settings a refused failed s s' deeds
  have hcreate : create 0 settings (.text "x") (.text "h") (.int 2) = .ok a :=
    create_eq_ok_iff.2 ⟨30000, 10000, by decide +kernel, by decide +kernel, rfl⟩
  have ha : s.announcers[0]? = some a := rfl
  have hdeeds : deeds.map (fun e => (e.1, e.2.isWritten, e.2.isRefused)) =
      [(5, true, false), (3, false, true), (20000, false, false), (20007, true, false),
        (30007, false, true), (30007, true, false), (30007, false, false)] := by decide +kernel
  have hlast : lastWritten deeds = some 30007 := by decide +kernel
  have hwritten : deeds.countP (·.2.isWritten) = 3 := by decide +kernel
  have hrefused : deeds.countP (·.2.isRefused) = 2 := by decide +kernel
  have hkey : ObjectKey.node settings.keyPrefix settings.cluster (Value.text "x").display =
      "p/c/x" := by decide +kernel
  have httl : Duration.millis settings.expiration = .ok 30000 := by decide +kernel
  obtain ⟨a', ttl, ha', httl', -, hkeys, hrecords, hlast', hwritten', hrefused', -, -⟩ :=
    bookkeeping fated hcreate ha eventful
  cases httl'.symm.trans httl
  refine ⟨hcreate, ha, hdeeds, fun e he => (hkeys e he).trans hkey, ?_,
    ⟨a', ha', hlast'.trans hlast⟩, hwritten'.trans ?_, hrefused'.trans ?_⟩
  · intro now key data outcome hmem
    obtain ⟨r, hdecode, hcluster, -, -, -, hexpires⟩ := hrecords now key data outcome hmem
    exact ⟨r, hdecode, hcluster, hexpires⟩
  · exact congrArg (0 + ·) hwritten
  · exact congrArg (0 + ·) hrefused

end Announcer

end RollCall
