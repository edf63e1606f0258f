import RollCall.Proofs.Member.Lifecycle
import RollCall.Proofs.Site.Contents
import RollCall.Proofs.Site.Manned
import RollCall.Proofs.Site.Upkeep

/-!
# Incidents

Besides the events of the life of members there are things that happen around them: a loop whose
wait ended just before it was told to end makes one more round, a write that took its time ends
without having written, and the world changes from outside. Together these are *incidents*.

Some incidents cannot happen: an announcer whose start failed has no loop and is given no work, so
that nothing of it ever comes up; and work is done in one step each, so that no write lands apart
from the step it belongs to. A run in which none of this happens is *admitted*. All along it the
site stays *tended*: it is orderly, its announcers belong to its members, and whatever waits may be
done.

## Main definitions

* `Incident`: what may happen at a site and around it.
* `Site.Along`: a run all of whose incidents have a property.
* `Incident.Allowed`, `Site.Admits`: incidents and runs that can happen.
* `Site.Tended`: the invariant of the runs that can happen.
* `Onward`: what is left of a site by the work of pools and loops.

## Main results

* `Upkeep.occur`: what the work of pools and loops keeps, incidents keep that are such work.
* `Onward.upkeep`: whatever is written by such work is the record of an announcer that is
  announcing.
* `Site.Tended.occur`, `Site.Tended.through`: a site stays tended.
-/

namespace RollCall

/-- What may happen at a site with `n` members, and around it. -/
inductive Incident (ω : Type) (n : Nat)
  | event (event : Event n)
  /-- A round of a loop whose wait had ended before the loop was told to end. -/
  | round (announcer : Nat)
  /-- A write that took its time ends, and has not written. -/
  | release (announcer : Nat)
  /-- Something outside changes the world. -/
  | outside (change : ω → ω)

variable {ω : Type} {b : Backend ω} {n : Nat} {s : Site ω}

/-- Whether a record is being written is no matter of the standing. -/
theorem Announcer.isSteady_mark (k : Nat) (isWriting : Bool) :
    (Site.updateAnnouncer k fun a => { a with isWriting } : Doing ω Unit).IsSteady :=
  .updateAnnouncer fun _ => rfl

namespace Incident

/-- A round of a loop: the record is written, and a failure is noted. -/
def makeRound (g : Gateway ω) (k : Nat) : Doing ω Unit := do
  match ← Announcer.announce g k with
  | .ok _ => pure ()
  | .error _ => Site.say .error Announcer.loopFailedText

theorem isSteady_makeRound (b : Backend ω) (k : Nat) : (makeRound (.ofBackend b) k).IsSteady := by
  refine .bind (Announcer.isSteady_announce b k) fun r => ?_
  split
  · exact .pure _
  · exact .say

/-- An incident happens. -/
def occur (g : Gateway ω) : Incident ω n → Doing ω Unit
  | event e => e.occur g
  | round k => makeRound g k
  | release k => Site.updateAnnouncer k fun a => { a with isWriting := false }
  | outside change => modify fun s => { s with world := change s.world }

/-- The calls that are made when an incident happens. -/
def calls (g : Gateway ω) (incident : Incident ω n) (s : Site ω) : List Call :=
  (incident.occur g s).2.calls.drop s.calls.length

/-- Whether an incident is a start. -/
def isStart : Incident ω n → Bool
  | event (.start _ _) => true
  | _ => false

/-- An incident is the work of pools and loops, and what is done fits. -/
def Fits (fits : Job → Prop) : Incident ω n → Prop
  | event (.start _ _) | event (.stop _) | event (.land _ _) | event (.addHandler _) | outside _ =>
    False
  | event (.tick k _ _) | round k => fits (.refresh k)
  | event (.perform t) => fits t.job
  | _ => True

/-- An incident is a round or a refresh of an announcer. -/
def BelongsTo (k : Nat) : Incident ω n → Prop
  | event (.tick k' _ _) | round k' => k' = k
  | event (.perform t) => t.job = .refresh k
  | _ => False

end Incident

/-- Whether a job may be done: an announcer whose start failed renews nothing. -/
def Job.Ready (st : Standing) : Job → Prop
  | .refresh k => st.hasBegun k = true
  | .query _ => True

instance (st : Standing) : (job : Job) → Decidable (job.Ready st)
  | .refresh _ => inferInstanceAs (Decidable (_ = true))
  | .query _ => inferInstanceAs (Decidable True)

/-- An incident that can happen: no write lands apart from the step it belongs to, and announcers
whose start failed do nothing. -/
def Incident.Allowed (st : Standing) : Incident ω n → Prop
  | event (.land _ _) => False
  | event (.tick k _ _) | round k => (Job.refresh k).Ready st
  | event (.perform t) => t.job.Ready st
  | _ => True

/-- An incident that can happen is a start, a stop, a handler or something outside, or it is work
that may be done. -/
theorem Incident.Allowed.cases {st : Standing} {incident : Incident ω n}
    (h : incident.Allowed st) :
    (∃ i offered, incident = .event (.start i offered)) ∨ (∃ i, incident = .event (.stop i)) ∨
      (∃ name, incident = .event (.addHandler name)) ∨ (∃ change, incident = .outside change) ∨
      incident.Fits (Job.Ready st) := by
  cases incident with
  | event e =>
    cases e with
    | start i offered => exact .inl ⟨i, offered, rfl⟩
    | stop i => exact .inr (.inl ⟨i, rfl⟩)
    | addHandler name => exact .inr (.inr (.inl ⟨name, rfl⟩))
    | land k data => exact absurd h id
    | tick k millis rounds => exact .inr (.inr (.inr (.inr h)))
    | perform t => exact .inr (.inr (.inr (.inr h)))
    | _ => exact .inr (.inr (.inr (.inr trivial)))
  | outside change => exact .inr (.inr (.inr (.inl ⟨change, rfl⟩)))
  | round k => exact .inr (.inr (.inr (.inr h)))
  | release k => exact .inr (.inr (.inr (.inr trivial)))

/-- **The work of pools and loops** keeps what its steps keep. -/
theorem Upkeep.occur {I : Site ω → Prop} {mine : Nat → Prop} {fits : Job → Prop}
    (h : Upkeep b I mine fits) {incident : Incident ω n} (hwork : incident.Fits fits) :
    (incident.occur (.ofBackend b)).Keeps I := by
  cases incident with
  | outside change => exact absurd hwork id
  | release k => exact h.mark k false
  | round k =>
    refine Doing.Keeps.bind (h.announce k hwork) fun r => ?_
    split
    · exact .done _
    · exact h.say _ _
  | event e =>
    cases e with
    | start | stop | land | addHandler => exact absurd hwork id
    | discover i => exact Doing.Keeps.bind (h.discover i) fun _ => .done _
    | tick k millis rounds => exact Doing.Keeps.bind (h.tick hwork millis rounds) fun _ => .done _
    | perform t => exact h.perform t hwork
    | drain => exact Doing.Keeps.bind h.drain fun _ => .done _
    | seize k => exact h.mark k true
    | wait millis =>
      exact fun s hs => ⟨trivial, h.aside s s.lines s.tally (s.now + millis) s.stall s.isLoopStuck hs⟩
    | stall which =>
      exact fun s hs => ⟨trivial, h.aside s s.lines s.tally s.now which s.isLoopStuck hs⟩
    | stick isLoopStuck =>
      exact fun s hs => ⟨trivial, h.aside s s.lines s.tally s.now s.stall isLoopStuck hs⟩

/-! ### Runs -/

namespace Site

/-- A site after some incidents. -/
def through (g : Gateway ω) (incidents : List (Incident ω n)) (s : Site ω) : Site ω :=
  incidents.foldl (fun s incident => (incident.occur g s).2) s

/-- All incidents of a run have a property, each when its turn comes. -/
def Along (g : Gateway ω) (P : Standing → Incident ω n → Prop) :
    List (Incident ω n) → Site ω → Prop
  | [], _ => True
  | incident :: incidents, s =>
    P s.standing incident ∧ Along g P incidents (incident.occur g s).2

/-- All incidents of a run can happen, each when its turn comes. -/
abbrev Admits (g : Gateway ω) (incidents : List (Incident ω n)) (s : Site ω) : Prop :=
  s.Along g (fun st incident => incident.Allowed st) incidents

theorem along_append {g : Gateway ω} {P : Standing → Incident ω n → Prop}
    {incidents incidents' : List (Incident ω n)} {s : Site ω} :
    s.Along g P (incidents ++ incidents') ↔
      s.Along g P incidents ∧ (s.through g incidents).Along g P incidents' := by
  induction incidents generalizing s with
  | nil => exact ⟨fun h => ⟨trivial, h⟩, And.right⟩
  | cons incident incidents ih => exact (and_congr_right fun _ => ih).trans and_assoc.symm

/-- A site that is orderly, whose announcers belong to its members, and where only such work waits
as may be done. -/
structure Tended (s : Site ω) : Prop where
  orderly : s.standing.Orderly
  manned : s.standing.Manned
  waiting (t : Task) (ht : t ∈ s.waiting) : t.job.Ready s.standing

end Site

/-! ### What work leaves behind -/

/-- An announcer that is announcing and has a loop writes under some key through some gateway. -/
def Standing.Announces (st : Standing) (gateway : Nat) (key : String) : Prop :=
  ∃ (k : Nat) (a : Announcer), st.announcers[k]? = some a ∧ a.isAnnouncing = true ∧
    a.hasLoop = true ∧ a.gateway = gateway ∧ a.key = key

/-- What is left of a site by the work of pools and loops: its standing, and waiting work that may be
done. The calls account for the world, and whatever they write is the record of an announcer that is
announcing. -/
structure Onward (b : Backend ω) (s₀ s : Site ω) : Prop where
  standing : s.standing = s₀.standing
  waiting (t : Task) (ht : t ∈ s.waiting) : t.job.Ready s₀.standing
  calls : ∃ calls, s.calls = s₀.calls ++ calls ∧ b.Does calls s₀.world s.world ∧
    ∀ gateway key data, .put gateway key data ∈ calls → s₀.standing.Announces gateway key

namespace Onward

variable {s₀ : Site ω}

theorem refl (h : s.Tended) : Onward b s s :=
  ⟨rfl, h.waiting, [], (List.append_nil _).symm, .nil _, fun _ _ _ hput => absurd hput List.not_mem_nil⟩

/-- One more call that writes nothing. -/
theorem called (h : Onward b s₀ s) {call : Call} {w : ω} (hput : ∀ n key data, call ≠ .put n key data)
    (hclose : call.closed? = none)
    (hdoes : ∀ {calls}, b.Does calls s₀.world s.world → b.Does (calls ++ [call]) s₀.world w) :
    Onward b s₀ { s with world := w, calls := s.calls ++ [call] } where
  standing := (s.standing_called hclose w).trans h.standing
  waiting := h.waiting
  calls := by
    obtain ⟨calls, hcalls, hworld, hputs⟩ := h.calls
    refine ⟨calls ++ [call], ?_, hdoes hworld, fun n key data hmem => ?_⟩
    · rw [← List.append_assoc, ← hcalls]
    · rcases List.mem_append.1 hmem with hmem | hmem
      · exact hputs n key data hmem
      · exact absurd (List.mem_singleton.1 hmem).symm (hput n key data)

/-- Announcing leaves the standing, and offers at most the record of an announcer that is
announcing. -/
theorem announced (h : Onward b s₀ s) {k : Nat} (hk : s₀.standing.hasBegun k = true) :
    Onward b s₀ (Announcer.announce (.ofBackend b) k s).2 := by
  have hstanding := (Announcer.isSteady_announce b k s).trans h.standing
  obtain ⟨settled, hsettled, hbegun⟩ := (Option.any_eq_true _ _).1 hk
  rw [← h.standing] at hsettled
  obtain ⟨a, ha, rfl⟩ := Site.exists_announcer_of_standing hsettled
  obtain ⟨calls, hcalls, hworld, hputs⟩ := h.calls
  rcases Announcer.announce_cases (b := b) ha with ⟨result, hannounce, -⟩ |
    ⟨r, data, lines, tally, hannouncing, -, hannounce⟩
  · rw [hannounce] at hstanding ⊢
    exact ⟨hstanding, h.waiting, calls, hcalls, hworld, hputs⟩
  · have hannounces : s₀.standing.Announces a.gateway a.key :=
      ⟨k, a.settled, h.standing ▸ hsettled, hannouncing,
        Announcer.hasLoop_of_hasBegun hbegun hannouncing, rfl, rfl⟩
    rw [hannounce] at hstanding ⊢
    refine ⟨hstanding, h.waiting, calls ++ [.put a.gateway a.key data], ?_, .put hworld _ _ _,
      fun n key data' hmem => ?_⟩
    · rw [← List.append_assoc, ← hcalls]
      rfl
    · rcases List.mem_append.1 hmem with hmem | hmem
      · exact hputs n key data' hmem
      · cases List.mem_singleton.1 hmem
        exact hannounces

/-- **The work of pools and loops** goes on from a tended site. -/
theorem upkeep (h : s₀.Tended) :
    Upkeep b (Onward b s₀) (fun _ => True) (Job.Ready s₀.standing) where
  aside _ _ _ _ _ _ hs := ⟨hs.standing, hs.waiting, hs.calls⟩
  announce _ hk _ hs := ⟨trivial, hs.announced hk⟩
  list q _ s hs := by
    rw [Gateway.ofBackend_list]
    exact ⟨trivial, hs.called (fun _ _ _ => nofun) rfl fun hdoes => hdoes.list _ _⟩
  get q _ key s hs := by
    rw [Gateway.ofBackend_get]
    exact ⟨trivial, hs.called (fun _ _ _ => nofun) rfl fun hdoes => hdoes.get _ _⟩
  delete q _ key _ s hs := by
    rw [Gateway.ofBackend_delete]
    exact ⟨trivial, hs.called (fun _ _ _ => nofun) rfl fun hdoes => hdoes.delete _ _⟩
  gives s hs {i pool k m q} hm hpool hk _ := by
    have hm' : s₀.standing.members[i]? = some m.settled := hs.standing ▸ Site.standing_member hm
    have hstarted : m.settled.pool.isSome = true := Option.isSome_of_eq_some hpool
    obtain ⟨k', a, hk', ha, -, -⟩ := (h.orderly.active hm' hstarted).announcer
    have hkk : k' = k := Option.some.inj (hk'.symm.trans hk)
    subst hkk
    have hbegun : a.hasBegun = true := by
      rw [Announcer.hasBegun, h.manned.loop hm' hstarted hk' ha, Bool.or_true]
    exact ⟨trivial, (Option.any_eq_true _ _).2 ⟨a, ha, hbegun⟩, trivial⟩
  enqueue i pool job _ hjob s hs := by
    refine ⟨trivial, (Doing.IsSteady.enqueue s).trans hs.standing, fun t ht => ?_, hs.calls⟩
    rcases List.mem_append.1 ht with ht | ht
    · exact hs.waiting t ht
    · cases List.mem_singleton.1 ht
      exact hjob
  forget i numbers s hs :=
    ⟨trivial, (Doing.IsSteady.forget s).trans hs.standing, hs.waiting, hs.calls⟩
  waiting _ hs := hs.waiting
  emptied _ hs := ⟨hs.standing, fun _ ht => absurd ht List.not_mem_nil, hs.calls⟩
  mark k isWriting s hs :=
    ⟨trivial, (Announcer.isSteady_mark k isWriting s).trans hs.standing, hs.waiting, hs.calls⟩

end Onward

/-! ### Tended sites stay tended -/

/-- A job that may be done stays so. -/
theorem Job.Ready.turn {mayHalt : Prop} {st st' : Standing} {job : Job} (h : job.Ready st)
    (hturn : Standing.Turn mayHalt st st') : job.Ready st' := by
  cases job with
  | refresh k => exact hturn.hasBegun h
  | query q => trivial

namespace Member

variable {i : Nat} {m : Member} {offered : Offered}

/-- A start gives no work to a pool. -/
theorem waiting_start (hm : s.members[i]? = some m) :
    (start (.ofBackend b) i offered s).2.waiting = s.waiting := by
  cases hpool : m.pool with
  | some pool => rw [start_started hm (Option.isSome_of_eq_some hpool)]
  | none =>
    by_cases hrefusal : ∃ f calls, Refusal b m offered s f calls
    · obtain ⟨f, calls, hrefusal⟩ := hrefusal
      rcases start_refused hm hpool hrefusal with ⟨-, hstart⟩ | ⟨_, _, _, hstart⟩ <;> rw [hstart]
    · obtain ⟨_, _, _, _, _, _, hstart, -⟩ :=
        start_begun hm hpool fun f calls h => hrefusal ⟨f, calls, h⟩
      rw [hstart]

/-- What waits after a stop has waited before. -/
theorem mem_waiting_of_stop (h : s.standing.Orderly) (hm : s.members[i]? = some m) {t : Task}
    (ht : t ∈ (stop (.ofBackend b) i s).2.waiting) : t ∈ s.waiting := by
  cases hpool : m.pool with
  | none => rwa [stop_unstarted hm hpool] at ht
  | some pool =>
    obtain ⟨k, a, hk, ha, hannouncing, hgateway⟩ :=
      Site.exists_announcer h hm (Option.isSome_of_eq_some hpool)
    cases hdone : (a.withdrawal b s.world).1 with
    | ok u =>
      obtain ⟨lines, hstop⟩ := stop_whole (b := b) hm hpool hk ha hannouncing hgateway hdone
      rw [hstop] at ht
      exact List.mem_of_mem_filter ht
    | error f =>
      obtain ⟨lines, hstop⟩ := stop_halfway (b := b) hm hpool hk ha hannouncing hdone
      rwa [hstop] at ht

end Member

namespace Incident

/-- Every incident is a turn of the standing, at an orderly site. -/
theorem turn (h : s.standing.Orderly) (hn : s.members.length = n) (incident : Incident ω n) :
    Standing.Turn (¬ b.DeletesAsStore) s.standing
      (incident.occur (.ofBackend b) s).2.standing := by
  cases incident with
  | event e => exact e.turn h hn
  | outside change => exact .steady
  | release k =>
    have hsteady : ((release k : Incident ω n).occur (.ofBackend b) s).2.standing = s.standing :=
      Announcer.isSteady_mark k false s
    rw [hsteady]
    exact .steady
  | round k =>
    have hsteady : ((round k : Incident ω n).occur (.ofBackend b) s).2.standing = s.standing :=
      isSteady_makeRound b k s
    rw [hsteady]
    exact .steady

theorem length_members (h : s.standing.Orderly) (hn : s.members.length = n)
    (incident : Incident ω n) :
    (incident.occur (.ofBackend b) s).2.members.length = n := by
  have hlength := (incident.turn (b := b) h hn).length_members
  rw [Site.standing, Site.standing, List.length_map, List.length_map] at hlength
  exact hlength.trans hn

end Incident

namespace Site.Tended

/-- **A site stays tended**, whatever happens that can happen. -/
theorem occur (h : s.Tended) (hn : s.members.length = n) {incident : Incident ω n}
    (hallowed : incident.Allowed s.standing) :
    (incident.occur (.ofBackend b) s).2.Tended := by
  have hturn := incident.turn (b := b) h.orderly hn
  have hmember (i : Fin n) : s.members[i.val]? = some (s.members.get (i.cast hn.symm)) :=
    List.getElem?_eq_getElem _
  refine ⟨h.orderly.turn hturn, h.manned.turn h.orderly hturn, fun t ht => ?_⟩
  suffices hready : t.job.Ready s.standing from hready.turn hturn
  rcases hallowed.cases with ⟨i, offered, rfl⟩ | ⟨i, rfl⟩ | ⟨name, rfl⟩ | ⟨change, rfl⟩ | hwork
  · have hwaiting : (Member.start (.ofBackend b) i offered s).2.waiting = s.waiting :=
      Member.waiting_start (hmember i)
    exact h.waiting t (hwaiting ▸ ht)
  · exact h.waiting t (Member.mem_waiting_of_stop h.orderly (hmember i) ht)
  · exact h.waiting t ht
  · exact h.waiting t ht
  · exact ((Onward.upkeep h).occur hwork s (.refl h)).2.waiting t ht

/-- A site stays tended all along a run that can happen. -/
theorem through (h : s.Tended) (hn : s.members.length = n) {incidents : List (Incident ω n)}
    (hadmits : s.Admits (.ofBackend b) incidents) :
    (s.through (.ofBackend b) incidents).Tended ∧
      (s.through (.ofBackend b) incidents).members.length = n := by
  induction incidents generalizing s with
  | nil => exact ⟨h, hn⟩
  | cons incident incidents ih =>
    exact ih (h.occur hn hadmits.1) (incident.length_members h.orderly hn) hadmits.2

/-- Nothing has happened yet at a site with members that were never started. -/
theorem assembled (world : ω) (now : Int) (crew : List (Value × Value × Value)) :
    (Site.assembled world now crew).Tended where
  orderly := orderly_assembled
  manned := by
    refine ⟨fun hm hpool => ?_, fun ha => ?_⟩
    · obtain ⟨node, host, port, rfl⟩ := exists_create_of_assembled hm
      cases hpool
    · cases ha
  waiting _ ht := absurd ht List.not_mem_nil

end Site.Tended

end RollCall
