import RollCall.Proofs.Member.Starting
import RollCall.Proofs.PeerQuery.Cleanup

/-!
# What the work of pools and loops keeps

Everything that is done at a site between starts and stops is made of few things: announcing,
listing, reading and deleting for a query, and keeping the list of tasks. A property of sites that
all of these keep is kept by refreshing, by rounds of loops, by whole queries, by discovering, and
by whatever tasks that waited. So such a property has to be looked at for a handful of steps only,
and the programs are gone through here, once.

What may be given to a pool depends on the property: `fits` says which jobs leave it alone, and
`mine` in which pools they wait.

## Main definitions

* `Doing.Yields`: a step keeps a property of the site and brings a result with a property.
* `Doing.Keeps`: a step keeps a property of the site.
* `Upkeep`: the few steps that keep a property.

## Main results

* `Upkeep.refresh`, `Upkeep.tick`, `Upkeep.query`: what announcers and queries do keeps it too.
* `Upkeep.discover`, `Upkeep.perform`, `Upkeep.drain`: and so does the work for pools.
-/

namespace RollCall

variable {ω α β : Type}

/-- A step that keeps a property of the site, and whose result has another. -/
def Doing.Yields (m : Doing ω α) (I : Site ω → Prop) (P : α → Prop) : Prop :=
  ∀ s, I s → P (m s).1 ∧ I (m s).2

/-- A step that keeps a property of the site. -/
abbrev Doing.Keeps (m : Doing ω α) (I : Site ω → Prop) : Prop :=
  m.Yields I fun _ => True

namespace Doing

variable {I : Site ω → Prop} {P : α → Prop} {Q : β → Prop} {m : Doing ω α} {f : α → Doing ω β}

theorem Yields.pure {a : α} (h : P a) : (Pure.pure a : Doing ω α).Yields I P :=
  fun _ hs => ⟨h, hs⟩

theorem Yields.done (a : α) : (Pure.pure a : Doing ω α).Keeps I :=
  .pure trivial

theorem Yields.bind (h : m.Yields I P) (h' : ∀ a, P a → (f a).Yields I Q) : (m >>= f).Yields I Q :=
  fun s hs => h' (m s).1 (h s hs).1 (m s).2 (h s hs).2

theorem Keeps.bind (h : m.Keeps I) (h' : ∀ a, (f a).Yields I Q) : (m >>= f).Yields I Q :=
  Yields.bind h fun a _ => h' a

/-- A step that leaves the site as it is. -/
theorem Yields.of_eq (h : ∀ s, (m s).2 = s) (hP : ∀ s, I s → P (m s).1) : m.Yields I P :=
  fun s hs => ⟨hP s hs, (h s).symm ▸ hs⟩

theorem Yields.look (h : ∀ s, (m s).2 = s) : m.Keeps I :=
  .of_eq h fun _ _ => trivial

theorem Keeps.of_isRemark {m : Doing ω Unit} (h : m.IsRemark)
    (hI : ∀ s lines tally, I s → I { s with lines, tally }) : m.Keeps I := by
  intro s hs
  obtain ⟨lines, tally, hm⟩ := h s
  rw [hm]
  exact ⟨trivial, hI s lines tally hs⟩

end Doing

open Doing (Yields Keeps)

/-- The steps that keep a property, of which all work between starts and stops is made. Jobs that
fit leave the property alone, and may wait in certain pools. -/
structure Upkeep (b : Backend ω) (I : Site ω → Prop) (mine : Nat → Prop) (fits : Job → Prop) :
    Prop where
  /-- Words, counts, the clock and the ways of pools and loops do not matter. -/
  aside (s : Site ω) (lines : List Logging.Line) (tally : Tally) (now : Int) (stall : Stall)
    (isLoopStuck : Bool) (h : I s) : I { s with lines, tally, now, stall, isLoopStuck }
  announce (k : Nat) (h : fits (.refresh k)) : (Announcer.announce (.ofBackend b) k).Keeps I
  list (q : PeerQuery) (h : fits (.query q)) :
    ((Gateway.ofBackend b).list q.gateway q.clusterPrefix).Keeps I
  get (q : PeerQuery) (h : fits (.query q)) (key : String) :
    ((Gateway.ofBackend b).get q.gateway key).Keeps I
  /-- A query does not delete the record of the node that asks. -/
  delete (q : PeerQuery) (h : fits (.query q)) (key : String) (hkey : key ≠ q.ownKey) :
    ((Gateway.ofBackend b).delete q.gateway key).Keeps I
  /-- What a started member gives to its pool. -/
  gives (s : Site ω) (h : I s) {i pool k : Nat} {m : Member} {q : PeerQuery}
    (hm : s.members[i]? = some m) (hpool : m.pool = some pool) (hk : m.announcer = some k)
    (hq : m.query = some q) : mine pool ∧ fits (.refresh k) ∧ fits (.query q)
  enqueue (i pool : Nat) (job : Job) (hpool : mine pool) (hjob : fits job) :
    (Site.enqueue i pool job : Doing ω Unit).Keeps I
  forget (i : Nat) (numbers : List Nat) : (Site.forget i numbers : Doing ω Unit).Keeps I
  /-- What waits. -/
  waiting (s : Site ω) (h : I s) (t : Task) (ht : t ∈ s.waiting) : fits t.job
  emptied (s : Site ω) (h : I s) : I { s with waiting := [] }
  /-- Whether a record is being written. -/
  mark (k : Nat) (isWriting : Bool) :
    (Site.updateAnnouncer k fun a => { a with isWriting } : Doing ω Unit).Keeps I

namespace Upkeep

variable {b : Backend ω} {I : Site ω → Prop} {mine : Nat → Prop} {fits : Job → Prop}
  (h : Upkeep b I mine fits)
include h

theorem remark {m : Doing ω Unit} (hm : m.IsRemark) : m.Keeps I :=
  .of_isRemark hm fun s lines tally => h.aside s lines tally s.now s.stall s.isLoopStuck

theorem say (level : Logging.Level) (text : String) :
    (Site.say level text : Doing ω Unit).Keeps I :=
  h.remark (Doing.Counts.say level text).isRemark

theorem count (c : Counter) : (Site.count c : Doing ω Unit).Keeps I :=
  h.remark (Doing.Counts.count c).isRemark

/-! ### Announcers -/

section

variable {k : Nat} (hk : fits (.refresh k))
include hk

theorem refresh : (Announcer.refresh (.ofBackend b) k).Keeps I := by
  refine Keeps.bind (.look fun _ => rfl) fun a => ?_
  split
  · exact .done _
  refine Keeps.bind (.look fun _ => rfl) fun s => ?_
  split
  · exact h.announce k hk
  · exact .done _

theorem tick (millis : Int) (rounds : Nat) :
    (Announcer.tick (.ofBackend b) k millis rounds).Keeps I := by
  induction rounds with
  | zero => exact Keeps.bind (.look fun _ => rfl) fun _ => .done _
  | succ rounds ih =>
    refine Keeps.bind (.look fun _ => rfl) fun a => ?_
    split
    · exact .done _
    have hadvance : (Site.advance millis : Doing ω Unit).Keeps I := fun s hs =>
      ⟨trivial, h.aside s s.lines s.tally (s.now + millis) s.stall s.isLoopStuck hs⟩
    refine Keeps.bind hadvance fun _ => Keeps.bind (h.announce k hk) fun r => ?_
    split
    · exact Keeps.bind ih fun _ => .done _
    · exact Keeps.bind (h.say _ _) fun _ => Keeps.bind ih fun _ => .done _

end

/-! ### Queries -/

section

variable {q : PeerQuery} (hq : fits (.query q))
include hq

/-- The own key is not among the keys of the expired records. -/
theorem survey (now : Int) (keys : List String) (seen : PeerQuery.Sightings)
    (hseen : q.ownKey ∉ seen.expired) :
    (PeerQuery.survey (.ofBackend b) q now keys seen).Yields I fun r =>
      ∀ seen', r = .ok seen' → q.ownKey ∉ seen'.expired := by
  induction keys generalizing seen with
  | nil =>
    refine .pure fun seen' hr => ?_
    cases hr
    exact hseen
  | cons key keys ih =>
    rw [PeerQuery.survey]
    split
    · exact ih seen hseen
    next hkey =>
    refine Keeps.bind (h.get q hq key) fun r => ?_
    split
    · refine .pure fun seen' hr => ?_
      cases hr
    next reading _ =>
    have hnote : q.ownKey ∉ (seen.note key (q.judge now reading)).expired := by
      cases hverdict : q.judge now reading with
      | accept r =>
        rw [PeerQuery.Sightings.note, PeerQuery.expired_see]
        exact hseen
      | skip reason =>
        cases reason with
        | expired =>
          rw [PeerQuery.Sightings.note, List.mem_append, List.mem_singleton]
          rintro (hmem | hown)
          · exact hseen hmem
          · exact hkey hown.symm
        | _ => exact hseen
    exact Keeps.bind (h.remark (PeerQuery.isRemark_announceVerdict q now key _)) fun _ =>
      ih _ hnote

theorem clean (keys : List String) (hkeys : q.ownKey ∉ keys) :
    (PeerQuery.clean (.ofBackend b) q keys).Keeps I := by
  induction keys with
  | nil => exact .done _
  | cons key keys ih =>
    have hkey : key ≠ q.ownKey := fun hown => hkeys (hown ▸ List.mem_cons_self)
    have hrest := ih fun hmem => hkeys (List.mem_cons_of_mem _ hmem)
    refine Keeps.bind (h.delete q hq key hkey) fun r => ?_
    split
    · exact Keeps.bind (h.say _ _) fun _ => hrest
    · split
      · exact Keeps.bind (h.say _ _) fun _ => hrest
      · exact .done _

theorem conclude (records : Nat) (seen : PeerQuery.Sightings) (hseen : q.ownKey ∉ seen.expired) :
    (PeerQuery.conclude (.ofBackend b) q records seen).Keeps I := by
  have hfound (peers : Nat) : (modify fun s : Site ω =>
      { s with tally := s.tally.setFound q.cluster peers } : Doing ω Unit).Keeps I := fun s hs =>
    ⟨trivial, h.aside s s.lines _ s.now s.stall s.isLoopStuck hs⟩
  unfold PeerQuery.conclude
  split
  case' isTrue => refine Keeps.bind (h.clean hq _ hseen) fun cleaned => ?_
  case' isFalse => refine Keeps.bind (.done _) fun cleaned => ?_
  all_goals
    cases cleaned with
    | error f => exact .done _
    | ok u =>
      exact Keeps.bind (h.count _) fun _ => Keeps.bind (hfound _) fun _ =>
        Keeps.bind (h.say _ _) fun _ => .done _

/-- **A whole query.** -/
theorem query : (q.discover (.ofBackend b)).Keeps I := by
  refine Keeps.bind (h.list q hq) fun r => ?_
  split
  · split
    · exact Keeps.bind (h.count _) fun _ => Keeps.bind (h.say _ _) fun _ => .done _
    · exact .done _
  · refine Keeps.bind (.look fun _ => rfl) fun s =>
      Yields.bind (h.survey hq _ _ _ List.not_mem_nil) fun r hr => ?_
    split
    · exact .done _
    · exact h.conclude hq _ _ (hr _ rfl)

end

/-! ### Members -/

theorem noteRefresh (i : Nat) (r : Except Failure Bool) :
    (Member.noteRefresh i r : Doing ω Unit).Keeps I := by
  unfold Member.noteRefresh
  split
  · exact .done _
  · exact Keeps.bind (.look fun _ => rfl) fun _ => h.say _ _

theorem submitRefresh (i : Nat) {pool k : Nat} (hpool : mine pool) (hk : fits (.refresh k)) :
    (Member.submitRefresh (.ofBackend b) i pool k).Keeps I := by
  refine Keeps.bind (.look fun _ => rfl) fun s => ?_
  split
  · exact h.enqueue i pool _ hpool hk
  · exact Keeps.bind (h.refresh hk) fun r => h.noteRefresh i r

theorem submitQuery (i : Nat) {pool : Nat} {q : PeerQuery} (hpool : mine pool)
    (hq : fits (.query q)) : (Member.submitQuery (.ofBackend b) i pool q).Keeps I := by
  refine Keeps.bind (.look fun _ => rfl) fun s => ?_
  split
  · exact Keeps.bind (h.enqueue i pool _ hpool hq) fun _ => .done _
  · exact Keeps.bind (h.query hq) fun _ => .done _

/-- **Discovering.** -/
theorem discover (i : Nat) : (Member.discover (.ofBackend b) i).Keeps I := by
  have hmember : (Site.member i : Doing ω Member).Yields I fun m =>
      ∀ pool k q, m.pool = some pool → m.announcer = some k → m.query = some q →
        mine pool ∧ fits (.refresh k) ∧ fits (.query q) := by
    refine .of_eq (fun _ => rfl) fun s hs => ?_
    intro pool k q hpool hk hq
    cases hm : s.members[i]? with
    | none =>
      have hdefault : (Site.member i s).1 = default := by
        change s.members.getD i default = default
        rw [List.getD_eq_getElem?_getD, hm]
        rfl
      rw [hdefault] at hpool
      cases hpool
    | some m =>
      rw [Site.member_of_getElem? hm] at hpool hk hq
      exact h.gives s hs hm hpool hk hq
  refine Yields.bind hmember fun m hm => ?_
  split
  · next pool k q settings hpool hk hq hsettings =>
    obtain ⟨hmine, hrefresh, hquery⟩ := hm pool k q hpool hk hq
    refine Keeps.bind (h.submitRefresh i hmine hrefresh) fun _ =>
      Keeps.bind (h.submitQuery i hmine hquery) fun r => ?_
    split
    · exact .done _
    · exact Keeps.bind (h.say _ _) fun _ => .done _
  · exact .done _

/-- **A task that waited.** -/
theorem perform (t : Task) (ht : fits t.job) : (Member.perform (.ofBackend b) t).Keeps I := by
  unfold Member.perform
  split
  · next k hjob =>
    rw [hjob] at ht
    exact Keeps.bind (h.refresh ht) fun r => Keeps.bind (h.forget _ _) fun _ => h.noteRefresh _ r
  · next q hjob =>
    rw [hjob] at ht
    exact Keeps.bind (h.query ht) fun _ => h.forget _ _

theorem performAll (tasks : List Task) (htasks : ∀ t ∈ tasks, fits t.job) :
    (Member.performAll (.ofBackend b) tasks).Keeps I := by
  induction tasks with
  | nil => exact .done _
  | cons t ts ih =>
    obtain ⟨ht, hts⟩ := List.forall_mem_cons.1 htasks
    exact Keeps.bind (h.perform t ht) fun _ => ih hts

/-- **All tasks that wait.** -/
theorem drain : (Member.drain (.ofBackend b)).Keeps I := by
  have hget : (MonadState.get : Doing ω (Site ω)).Yields I fun s => ∀ t ∈ s.waiting, fits t.job :=
    .of_eq (fun _ => rfl) h.waiting
  have hempty : (modify fun s : Site ω => { s with waiting := [] } : Doing ω Unit).Keeps I :=
    fun s hs => ⟨trivial, h.emptied s hs⟩
  exact Yields.bind hget fun s hs => Keeps.bind hempty fun _ =>
    Keeps.bind (h.performAll s.waiting hs) fun _ => .done _

end Upkeep

end RollCall
