import RollCall.Proofs.Announcer.Record
import RollCall.Proofs.Member.Silence

/-!
# A started node stays visible

An announcer that refreshes its record trusts its memory: if the record was written within the
interval, it does not look whether it is still there. That is as good as looking, as long as nobody
else writes or deletes under its key. What it remembers is then what is stored: the last write that
the store took is what is under its key, whatever was refused since, whichever way the clock went,
and however often the member stopped and started. So after every refresh that the store does not
refuse, there is a record of the node that still counts, and counts long enough for the next one.

## Main definitions

* `Backend.StoresOrRefuses`: a backend that stores, or refuses to and leaves everything as it was.
* `Incident.LeavesAlone`: an incident is not somebody else's meddling with the record.
* `Standing.Employs`: the announcer of a started member is what the member made it.
* `Site.Recorded`: what announcers remember is what is stored.
* `Site.Visible`: the invariant.

## Main results

* `Keeping.upkeep`: the work of pools and loops keeps the memory of announcers right.
* `Site.Visible.occur`, `Site.Visible.through`: the invariant of all runs.
* `started_stays_visible`: what a refresh leaves.
-/

namespace RollCall

variable {ω : Type} {b : Backend ω} {content : ω → String → Option (List UInt8)} {n : Nat}
  {s s₀ : Site ω}

/-- A backend that stores what it is given, or refuses to and leaves everything as it was. -/
structure Backend.StoresOrRefuses (b : Backend ω) (content : ω → String → Option (List UInt8)) :
    Prop extends Backend.Stores b content where
  put_ok (key : String) (data : List UInt8) (w : ω) (h : (b.put key data w).1 = .ok ()) :
    content (b.put key data w).2 key = some data
  put_error (key : String) (data : List UInt8) (w : ω) (f : Failure)
    (h : (b.put key data w).1 = .error f) :
    f.isStore = true ∧ content (b.put key data w).2 = content w
  delete_error (key : String) (w : ω) (f : Failure) (h : (b.delete key w).1 = .error f) :
    f.isStore = true

/-! ### Whose work it is -/

/-- A pool is that of a started member. -/
def Standing.IsPool (st : Standing) (pool : Nat) : Prop :=
  ∃ m ∈ st.members, m.pool = some pool

/-- A job leaves the records of announcing announcers alone: a query takes them for its own. -/
def Job.Spares (st : Standing) : Job → Prop
  | .refresh k => st.hasBegun k = true
  | .query q => ∀ gateway key, st.Announces gateway key → key = q.ownKey

/-- An incident is not somebody else's meddling with the record of an announcing announcer: what
comes from outside leaves it as it is, and late queries are those of nodes that ask under its
key. -/
def Incident.LeavesAlone (content : ω → String → Option (List UInt8)) (st : Standing) :
    Incident ω n → Prop
  | event (.perform t) => t.job.Spares st
  | outside change =>
    ∀ gateway key, st.Announces gateway key → ∀ w, content (change w) key = content w key
  | _ => True

theorem Incident.Fits.spares {st : Standing} {incident : Incident ω n}
    (h : incident.Fits (Job.Ready st)) (halone : incident.LeavesAlone content st) :
    incident.Fits (Job.Spares st) := by
  cases incident with
  | event e =>
    cases e with
    | perform t => exact halone
    | _ => exact h
  | _ => exact h

/-- A started member has an announcer that it made with its settings, and that could make its
record. -/
structure Standing.Employs (st : Standing) (m : Member) (k : Nat) (a : Announcer) : Prop where
  announcer : m.announcer = some k
  settings : m.settings = some a.settings
  query : m.query = some (.create a.gateway a.settings m.node)
  create : Announcer.create a.gateway a.settings m.node m.host m.port = .ok a
  begun : st.announcers[k]? = some (a.begun none).settled
  body : ∃ t r data, a.body t = .ok (r, data)

/-- Of a single member, at most one announcer is announcing. -/
theorem Standing.Manned.unique {st : Standing} (h : st.Manned) (hone : st.members.length = 1)
    {k k' : Nat} {a a' : Announcer} (ha : st.announcers[k]? = some a)
    (hannouncing : a.isAnnouncing = true) (hloop : a.hasLoop = true)
    (ha' : st.announcers[k']? = some a') (hannouncing' : a'.isAnnouncing = true)
    (hloop' : a'.hasLoop = true) : k = k' := by
  obtain ⟨i, m, hm, -, hk⟩ := h.has ha hannouncing hloop
  obtain ⟨i', m', hm', -, hk'⟩ := h.has ha' hannouncing' hloop'
  have hi : i < 1 := hone ▸ (List.getElem?_eq_some_iff.1 hm).1
  have hi' : i' < 1 := hone ▸ (List.getElem?_eq_some_iff.1 hm').1
  obtain rfl : i = i' := by omega
  cases hm.symm.trans hm'
  exact Option.some.inj (hk.symm.trans hk')

/-! ### What announcers remember -/

theorem Site.standing_announcer {k : Nat} {a : Announcer} (h : s.announcers[k]? = some a) :
    s.standing.announcers[k]? = some a.settled := by
  rw [standing, List.getElem?_map, h]
  rfl

theorem Site.announces_of {k : Nat} {a : Announcer} (h : s.announcers[k]? = some a)
    (hannouncing : a.isAnnouncing = true) (hloop : a.hasLoop = true) :
    s.standing.Announces a.gateway a.key :=
  ⟨k, a.settled, standing_announcer h, hannouncing, hloop, rfl, rfl⟩

/-- What announcers remember is what is stored: under the key of one that is announcing there is the
record that it wrote last. -/
def Site.Recorded (content : ω → String → Option (List UInt8)) (s : Site ω) : Prop :=
  ∀ ⦃k : Nat⦄ ⦃a : Announcer⦄ ⦃t : Int⦄, s.announcers[k]? = some a → a.isAnnouncing = true →
    a.hasLoop = true → a.last = some t →
      ∃ r data, a.body t = .ok (r, data) ∧ content s.world a.key = some data

/-- What is left by the work of pools and loops of a single member: its standing, work that leaves
records alone, and announcers whose memory is right. -/
structure Keeping (content : ω → String → Option (List UInt8)) (s₀ s : Site ω) : Prop where
  standing : s.standing = s₀.standing
  waiting (t : Task) (ht : t ∈ s.waiting) :
    s₀.standing.IsPool t.pool ∧ t.job.Spares s₀.standing
  recorded : s.Recorded content

namespace Keeping

/-- One more call that changes nothing under the keys of announcing announcers. -/
theorem called (h : Keeping content s₀ s) {call : Call} {w : ω} (hclose : call.closed? = none)
    (hw : ∀ gateway key, s₀.standing.Announces gateway key → content w key = content s.world key) :
    Keeping content s₀ { s with world := w, calls := s.calls ++ [call] } where
  standing := (s.standing_called hclose w).trans h.standing
  waiting := h.waiting
  recorded k a t ha hannouncing hloop ht := by
    obtain ⟨r, data, hbody, hdata⟩ := h.recorded ha hannouncing hloop ht
    have hannounces := Site.announces_of (s := s) ha hannouncing hloop
    rw [h.standing] at hannounces
    exact ⟨r, data, hbody, (hw _ _ hannounces).trans hdata⟩

/-- Announcing keeps the memory of announcers right, whatever the store says to the record. -/
theorem announced (hb : b.StoresOrRefuses content) (h₀ : s₀.standing.Manned)
    (hone : s₀.standing.members.length = 1) (h : Keeping content s₀ s) {k : Nat}
    (hk : s₀.standing.hasBegun k = true) :
    Keeping content s₀ (Announcer.announce (.ofBackend b) k s).2 := by
  have hstanding := (Announcer.isSteady_announce b k s).trans h.standing
  obtain ⟨settled, hsettled, hbegun⟩ := (Option.any_eq_true _ _).1 hk
  rw [← h.standing] at hsettled
  obtain ⟨a, ha, rfl⟩ := Site.exists_announcer_of_standing hsettled
  rcases Announcer.announce_cases (b := b) ha with ⟨result, hannounce, -⟩ |
    ⟨r, data, lines, tally, hannouncing, hbody, hannounce⟩
  · rw [hannounce] at hstanding ⊢
    refine ⟨hstanding, h.waiting, fun k' a' t ha' hannouncing hloop ht => ?_⟩
    rcases getElem?_set_cases ha' with ⟨rfl, rfl⟩ | ⟨-, ha'⟩
    · have hrecorded : ∃ r data, a.body t = .ok (r, data) ∧ content s.world a.key = some data :=
        h.recorded ha hannouncing hloop ht
      exact hrecorded
    · exact h.recorded ha' hannouncing hloop ht
  · rw [hannounce] at hstanding ⊢
    refine ⟨hstanding, h.waiting, fun k' a' t ha' hannouncing' hloop' ht => ?_⟩
    have hloop : a.hasLoop = true := Announcer.hasLoop_of_hasBegun hbegun hannouncing
    rcases getElem?_set_cases ha' with ⟨rfl, rfl⟩ | ⟨hne, ha'⟩
    · cases hput : (b.put a.key data s.world).1 with
      | ok u =>
        have hlast : s.now = t := by
          rw [hput] at ht
          exact Option.some.inj ht
        exact ⟨r, data, hlast ▸ hbody, hb.put_ok a.key data s.world hput⟩
      | error f =>
        have hlast : a.last = some t := by
          rw [hput] at ht
          exact ht
        obtain ⟨r', data', hbody', hdata⟩ := h.recorded ha hannouncing hloop hlast
        refine ⟨r', data', hbody', ?_⟩
        exact (congrFun (hb.put_error a.key data s.world f hput).2 a.key).trans hdata
    · -- No second announcer is announcing.
      have hsettled' := Site.standing_announcer ha'
      rw [h.standing] at hsettled hsettled'
      exact absurd (h₀.unique hone hsettled hannouncing hloop hsettled' hannouncing' hloop') hne

/-- **The work of pools and loops** of a single member keeps the memory of announcers right. -/
theorem upkeep (hb : b.StoresOrRefuses content) (h : s₀.Tended)
    (hone : s₀.standing.members.length = 1)
    (hemploys : ∀ m ∈ s₀.standing.members, m.pool.isSome = true →
      ∃ k a, s₀.standing.Employs m k a) :
    Upkeep b (Keeping content s₀) s₀.standing.IsPool (Job.Spares s₀.standing) where
  aside _ _ _ _ _ _ hs := ⟨hs.standing, hs.waiting, hs.recorded⟩
  announce _ hk _ hs := ⟨trivial, announced hb h.manned hone hs hk⟩
  list q _ s hs := by
    rw [Gateway.ofBackend_list]
    exact ⟨trivial, hs.called rfl fun _ key _ => congrFun (hb.list _ _) key⟩
  get q _ key s hs := by
    rw [Gateway.ofBackend_get]
    exact ⟨trivial, hs.called rfl fun _ key' _ => congrFun (hb.get _ _) key'⟩
  delete q hq key hkey s hs := by
    rw [Gateway.ofBackend_delete]
    refine ⟨trivial, hs.called rfl fun gateway key' hannounces => ?_⟩
    have hown : key' = q.ownKey := hq gateway key' hannounces
    exact hb.delete_other key s.world key' fun heq => hkey (heq.symm.trans hown)
  gives s hs {i pool k m q} hm hpool hk hq := by
    have hm' : s₀.standing.members[i]? = some m.settled := hs.standing ▸ Site.standing_member hm
    have hmem := List.mem_of_getElem? hm'
    have hstarted : m.settled.pool.isSome = true := Option.isSome_of_eq_some hpool
    obtain ⟨k', a, hemploy⟩ := hemploys _ hmem hstarted
    obtain rfl : k' = k := Option.some.inj (hemploy.announcer.symm.trans hk)
    refine ⟨⟨_, hmem, hpool⟩, (Option.any_eq_true _ _).2 ⟨_, hemploy.begun, rfl⟩, ?_⟩
    rintro gateway key ⟨k'', a'', ha'', hannouncing'', hloop'', -, rfl⟩
    obtain rfl := h.manned.unique hone hemploy.begun rfl rfl ha'' hannouncing'' hloop''
    cases hemploy.begun.symm.trans ha''
    obtain rfl : PeerQuery.create a.gateway a.settings m.settled.node = q :=
      Option.some.inj (hemploy.query.symm.trans hq)
    have hkey := Announcer.key_of_create hemploy.create
    exact hkey
  enqueue i pool job hpool hjob s hs := by
    refine ⟨trivial, (Doing.IsSteady.enqueue s).trans hs.standing, fun t ht => ?_, hs.recorded⟩
    rcases List.mem_append.1 ht with ht | ht
    · exact hs.waiting t ht
    · cases List.mem_singleton.1 ht
      exact ⟨hpool, hjob⟩
  forget i numbers s hs :=
    ⟨trivial, (Doing.IsSteady.forget s).trans hs.standing, hs.waiting, hs.recorded⟩
  waiting _ hs t ht := (hs.waiting t ht).2
  emptied _ hs := ⟨hs.standing, fun _ ht => absurd ht List.not_mem_nil, hs.recorded⟩
  mark k isWriting s hs := by
    refine ⟨trivial, (Announcer.isSteady_mark k isWriting s).trans hs.standing, hs.waiting, ?_⟩
    intro k' a t ha hannouncing hloop ht
    have ha : (s.announcers.modify k fun a => { a with isWriting })[k']? = some a := ha
    rw [List.getElem?_modify] at ha
    obtain ⟨a', ha', rfl⟩ := Option.map_eq_some_iff.1 ha
    by_cases hk : k = k'
    · rw [if_pos hk] at hannouncing hloop ht ⊢
      have hrecorded : ∃ r data, a'.body t = .ok (r, data) ∧ content s.world a'.key = some data :=
        hs.recorded ha' hannouncing hloop ht
      exact hrecorded
    · rw [if_neg hk] at hannouncing hloop ht ⊢
      exact hs.recorded ha' hannouncing hloop ht

end Keeping

/-! ### All along a run -/

namespace Site

/-- A site with a single member: whatever waits is work of this member, and its announcer, if it is
started, is the one it made, and remembers what is stored. -/
structure Visible (content : ω → String → Option (List UInt8)) (s : Site ω) : Prop where
  tended : s.Tended
  one : s.members.length = 1
  waiting (t : Task) (ht : t ∈ s.waiting) : s.standing.IsPool t.pool ∧ t.job.Spares s.standing
  employs (m : Member) (hm : m ∈ s.standing.members) (hpool : m.pool.isSome = true) :
    ∃ k a, s.standing.Employs m k a
  recorded : s.Recorded content

/-- The single member is not started. -/
theorem idle_of_one (hone : s.members.length = 1) {m : Member} (hm : s.members[0]? = some m)
    (hpool : m.pool = none) : s.standing.Idle := by
  intro m' hm'
  obtain ⟨m'', hm'', rfl⟩ := List.mem_map.1 hm'
  obtain ⟨x, hx⟩ := List.length_eq_one_iff.1 hone
  rw [hx] at hm hm''
  cases hm
  cases List.mem_singleton.1 hm''
  exact hpool

namespace Visible

/-- Nothing needs to be remembered while the member is not started. -/
theorem of_idle (h : s.Tended) (hone : s.members.length = 1) (hidle : s.standing.Idle)
    (hwaiting : s.waiting = []) : s.Visible content where
  tended := h
  one := hone
  waiting t ht := absurd (hwaiting ▸ ht) List.not_mem_nil
  employs m hm hpool := by
    rw [hidle m hm] at hpool
    cases hpool
  recorded k a t ha hannouncing hloop _ := by
    obtain ⟨i, m, hm, hpool, -⟩ := h.manned.has (standing_announcer ha) hannouncing hloop
    rw [hidle m (List.mem_of_getElem? hm)] at hpool
    cases hpool

/-- Nothing waits while the member is not started. -/
theorem waiting_of_idle (h : s.Visible content) (hidle : s.standing.Idle) : s.waiting = [] := by
  refine List.eq_nil_iff_forall_not_mem.2 fun t ht => ?_
  obtain ⟨⟨m, hm, hpool⟩, -⟩ := h.waiting t ht
  cases (hidle m hm).symm.trans hpool

/-- A member that starts made its announcer, which remembers its first record if the store took
it. -/
theorem entered (hb : b.StoresOrRefuses content) (h : s.Visible content) (hidle : s.standing.Idle)
    {m : Member} {settings : Settings} {a : Announcer} {data : List UInt8} {w : ω}
    (hdebut : Member.Debut b m settings s.gateways s.now w a data)
    {s' : Site ω} (htended : s'.Tended) (hwaiting : s'.waiting = s.waiting)
    (hmembers : s'.members =
      s.members.set 0 (m.started settings s.gateways s.announcers.length s.pools))
    (hannouncers : s'.announcers =
      s.announcers ++ [a.begun (a.lastAfter s.now (b.put a.key data w).1)])
    (hworld : s'.world = (b.put a.key data w).2) : s'.Visible content := by
  obtain ⟨r, hbody⟩ := hdebut.body
  obtain ⟨ttl, interval, -, -, hcreate⟩ := Announcer.create_eq_ok_iff.1 hdebut.create
  have hgateway : a.gateway = s.gateways := congrArg Announcer.gateway hcreate
  have hsettings : a.settings = settings := congrArg Announcer.settings hcreate
  have hnever : a.last = none := congrArg Announcer.last hcreate
  have hnone : s'.waiting = [] := hwaiting.trans (h.waiting_of_idle hidle)
  refine ⟨htended, ?_, fun t ht => absurd (hnone ▸ ht) List.not_mem_nil, fun m' hm' hpool => ?_,
    fun k a' t ha' hannouncing hloop ht => ?_⟩
  · rw [hmembers, List.length_set, h.one]
  · obtain ⟨m'', hm'', rfl⟩ := List.mem_map.1 hm'
    obtain ⟨x, hx⟩ := List.length_eq_one_iff.1 h.one
    rw [hmembers, hx, List.set_cons_zero, List.mem_singleton] at hm''
    subst hm''
    have hbegun : s'.standing.announcers[s.announcers.length]? = some (a.begun none).settled := by
      rw [standing, List.getElem?_map, hannouncers, List.getElem?_concat_length]
      rfl
    refine ⟨s.announcers.length, a, rfl, congrArg some hsettings.symm, ?_, ?_, hbegun,
      s.now, r, data, hbody⟩
    · rw [hgateway, hsettings]
      rfl
    · rw [hgateway, hsettings]
      exact hdebut.create
  · rw [hannouncers] at ha'
    rcases getElem?_append_cases ha' with hold | ⟨-, hnew⟩
    · -- An announcer of an earlier start is not announcing.
      obtain ⟨i, m', hm', hpool, -⟩ :=
        h.tended.manned.has (standing_announcer hold) hannouncing hloop
      rw [hidle m' (List.mem_of_getElem? hm')] at hpool
      cases hpool
    · cases List.mem_singleton.1 (List.mem_of_getElem? hnew)
      have hlast : a.lastAfter s.now (b.put a.key data w).1 = some t := ht
      cases hput : (b.put a.key data w).1 with
      | ok u =>
        rw [hput] at hlast
        refine ⟨r, data, Option.some.inj hlast ▸ hbody, ?_⟩
        rw [hworld]
        exact hb.put_ok a.key data w hput
      | error f =>
        rw [hput] at hlast
        cases hnever.symm.trans hlast

/-- A start keeps the invariant, whether it is refused or not. -/
theorem started (hb : b.StoresOrRefuses content) (h : s.Visible content)
    (offered : Member.Offered) (htended : (Member.start (.ofBackend b) 0 offered s).2.Tended) :
    (Member.start (.ofBackend b) 0 offered s).2.Visible content := by
  obtain ⟨m, hsingle⟩ := List.length_eq_one_iff.1 h.one
  have hm : s.members[0]? = some m := by
    rw [hsingle]
    rfl
  cases hpool : m.pool with
  | some pool =>
    rw [Member.start_started hm (Option.isSome_of_eq_some hpool)] at htended ⊢
    exact ⟨htended, h.one, h.waiting, h.employs, h.recorded⟩
  | none =>
    have hidle := idle_of_one h.one hm hpool
    have hwaiting := h.waiting_of_idle hidle
    by_cases hrefusal : ∃ f calls, Member.Refusal b m offered s f calls
    · obtain ⟨f, calls, hrefusal⟩ := hrefusal
      rcases Member.start_refused hm hpool hrefusal with ⟨-, hstart⟩ | ⟨_, _, _, hstart⟩
      · rw [hstart]
        exact h
      · rw [hstart] at htended ⊢
        exact .of_idle htended h.one hidle hwaiting
    · obtain ⟨settings, a, data, lines, tally, -, hdebut, hstart⟩ :=
        Member.start_entered hm hpool fun f calls h => hrefusal ⟨f, calls, h⟩
      rw [hstart] at htended ⊢
      exact h.entered hb hidle hdebut htended rfl rfl rfl rfl

/-- A stop keeps the invariant: what waited is dropped. -/
theorem stopped (hb : b.StoresOrRefuses content) (h : s.Visible content)
    (htended : (Member.stop (.ofBackend b) 0 s).2.Tended) :
    (Member.stop (.ofBackend b) 0 s).2.Visible content := by
  obtain ⟨m, hsingle⟩ := List.length_eq_one_iff.1 h.one
  have hm : s.members[0]? = some m := by
    rw [hsingle]
    rfl
  cases hpool : m.pool with
  | none =>
    rw [Member.stop_unstarted hm hpool]
    exact h
  | some p =>
    obtain ⟨k, a, hk, ha, hannouncing, hgateway⟩ :=
      exists_announcer h.tended.orderly hm (Option.isSome_of_eq_some hpool)
    have hdone := Member.withdrawal_of_deletesAsStore (b := b) hb.delete_error a s.world
    obtain ⟨lines, hstop⟩ := Member.stop_whole (b := b) hm hpool hk ha hannouncing hgateway hdone
    rw [hstop] at htended ⊢
    have hlength : (s.members.set 0 m.stopped).length = 1 := List.length_set.trans h.one
    have hidle := idle_of_one (s := { s with members := s.members.set 0 m.stopped }) hlength
      (List.getElem?_set_self (h.one.symm ▸ Nat.one_pos)) rfl
    refine .of_idle htended hlength hidle (List.filter_eq_nil_iff.2 fun t ht => ?_)
    obtain ⟨⟨m', hm', hpool'⟩, -⟩ := h.waiting t ht
    rw [standing, hsingle] at hm'
    cases List.mem_singleton.1 hm'
    have hsame : t.pool = p := Option.some.inj (hpool'.symm.trans hpool)
    simp [hsame]

/-- **The invariant is kept**, whatever happens that can happen, unless somebody else meddles with
the record. -/
theorem occur (hb : b.StoresOrRefuses content) (h : s.Visible content) {incident : Incident ω 1}
    (hallowed : incident.Allowed s.standing) (halone : incident.LeavesAlone content s.standing) :
    (incident.occur (.ofBackend b) s).2.Visible content := by
  have htended := h.tended.occur (b := b) h.one hallowed
  rcases hallowed.cases with ⟨i, offered, rfl⟩ | ⟨i, rfl⟩ | ⟨name, rfl⟩ | ⟨change, rfl⟩ | hwork
  · obtain rfl : i = 0 := Subsingleton.elim _ _
    exact h.started hb offered htended
  · obtain rfl : i = 0 := Subsingleton.elim _ _
    exact h.stopped hb htended
  · refine ⟨htended, h.one, h.waiting, fun m hm hpool => ?_, h.recorded⟩
    obtain ⟨k, a, hemploys⟩ := h.employs m hm hpool
    exact ⟨k, a, { hemploys with }⟩
  · refine ⟨htended, h.one, h.waiting, h.employs, fun k a t ha hannouncing hloop ht => ?_⟩
    obtain ⟨r, data, hbody, hdata⟩ := h.recorded ha hannouncing hloop ht
    have hkept := halone _ _ (announces_of ha hannouncing hloop) s.world
    exact ⟨r, data, hbody, hkept.trans hdata⟩
  · have hone : s.standing.members.length = 1 := (List.length_map _).trans h.one
    have hkept := ((Keeping.upkeep hb h.tended hone h.employs).occur (hwork.spares halone) s
      ⟨rfl, h.waiting, h.recorded⟩).2
    have hlength := incident.length_members (b := b) h.tended.orderly h.one
    refine ⟨htended, hlength, ?_, ?_, hkept.recorded⟩
    · rw [hkept.standing]
      exact hkept.waiting
    · rw [hkept.standing]
      exact h.employs

/-- The invariant holds all along a run. -/
theorem through (hb : b.StoresOrRefuses content) (h : s.Visible content)
    {incidents : List (Incident ω 1)} (hrun : s.Along (.ofBackend b)
      (fun st incident => incident.Allowed st ∧ incident.LeavesAlone content st) incidents) :
    (s.through (.ofBackend b) incidents).Visible content := by
  induction incidents generalizing s with
  | nil => exact h
  | cons incident incidents ih => exact ih (h.occur hb hrun.1.1 hrun.1.2) hrun.2

/-- The invariant holds before the first start. -/
theorem assembled (world : ω) (now : Int) (node host port : Value) :
    (Site.assembled world now [(node, host, port)]).Visible content := by
  refine .of_idle (.assembled world now _) rfl (fun m hm => ?_) rfl
  obtain ⟨i, hi⟩ := List.getElem?_of_mem hm
  obtain ⟨node, host, port, rfl⟩ := exists_create_of_assembled hi
  rfl

end Visible

end Site

/-! ### What a refresh leaves -/

namespace Announcer

/-- What an announcer is made of decides what it writes, not how far its life has come. -/
theorem body_eq_of_settled {a a' : Announcer} (h : a.settled = a'.settled) (t : Int) :
    a.body t = a'.body t := by
  change a.settled.body t = a'.settled.body t
  rw [h]

/-- Under the key of an announcer is its record, which counts at some moment and expires no earlier
than another. -/
def ShownAt (content : ω → String → Option (List UInt8)) (a : Announcer) (w : ω)
    (now deadline : Int) : Prop :=
  ∃ data r, content w a.key = some data ∧ Presence.decode data (some a.key) = .ok r ∧
    r.cluster = a.settings.cluster ∧ .text r.node = a.node ∧ .text r.host = a.host ∧
    .int r.port = a.port ∧ now < r.expires ∧ deadline ≤ r.expires

/-- A record that was written at some moment is shown. -/
theorem shownAt_of_body {a : Announcer} {w : ω} {t now deadline : Int} {r : Presence}
    {data : List UInt8} (hbody : a.body t = .ok (r, data)) (hdata : content w a.key = some data)
    (hnow : now < t + a.ttl) (hdeadline : deadline ≤ t + a.ttl) : a.ShownAt content w now deadline := by
  obtain ⟨hr, hdecode⟩ := decode_of_body hbody (some a.key)
  rw [← hr.expires] at hnow hdeadline
  exact ⟨data, r, hdata, hdecode, hr.cluster, hr.node, hr.host, hr.port, hnow, hdeadline⟩

/-- **A refresh** of an announcer that remembers what is stored: its record was offered and refused,
or it is there. -/
theorem refresh_shows (hb : b.StoresOrRefuses content) (h : s.Recorded content) {k : Nat}
    {a : Announcer} (ha : s.announcers[k]? = some a) (hannouncing : a.isAnnouncing = true)
    (hloop : a.hasLoop = true) {t : Int} {r : Presence} {data : List UInt8}
    (hbody : a.body t = .ok (r, data)) (httl : 1 ≤ a.ttl) (hinterval : 0 ≤ a.interval)
    (hle : a.interval ≤ a.ttl) (hpos : 0 < s.now + a.ttl) (hshort : s.now + a.ttl < 10 ^ 4300) :
    ∃ written s', refresh (.ofBackend b) k s = (.ok written, s') ∧
      ((∃ data f, (b.put a.key data s.world).1 = .error f ∧ written = false ∧
          s'.calls = s.calls ++ [.put a.gateway a.key data]) ∨
        a.ShownAt content s'.world s.now (s.now + a.ttl - a.interval)) := by
  rw [refresh_eq ha, hannouncing, Bool.true_and]
  cases hdue : a.isDue s.now with
  | false =>
    rw [if_neg Bool.false_ne_true]
    refine ⟨false, s, rfl, .inr ?_⟩
    rw [isDue] at hdue
    split at hdue
    · cases hdue
    · next last hlast =>
      have hrecent : s.now - last < a.interval := Int.not_le.1 (of_decide_eq_false hdue)
      obtain ⟨r', data', hbody', hdata⟩ := h ha hannouncing hloop hlast
      exact shownAt_of_body hbody' hdata (by omega) (by omega)
  | true =>
    rw [if_pos rfl]
    obtain ⟨data', hbody'⟩ := body_eq_ok_of_body hbody hpos hshort
    rcases announce_cases (b := b) ha with ⟨_, _, hrefused⟩ |
      ⟨r'', data'', lines, tally, -, hbody'', hannounce⟩
    · obtain ⟨f, hf⟩ := hrefused hannouncing
      cases hf.symm.trans hbody'
    · cases hput : (b.put a.key data'' s.world).1 with
      | ok u =>
        rw [hannounce, hput]
        refine ⟨true, _, rfl, .inr ?_⟩
        exact shownAt_of_body hbody'' (hb.put_ok a.key data'' s.world hput) (by omega) (by omega)
      | error f =>
        rw [hannounce, hput, answerTo, if_pos (hb.put_error a.key data'' s.world f hput).1]
        exact ⟨false, _, rfl, .inl ⟨data'', f, hput, rfl, rfl⟩⟩

end Announcer

/-- A store in memory, with what it thinks of the writes to come: whether it refuses them. -/
abbrev MoodyStore := Store × List Bool

/-- A store in memory that refuses the writes that it is told to refuse. -/
def MoodyStore.backend : Backend MoodyStore where
  put key data
    | (store, true :: moods) => (.error (.store "put" (some key) "busy"), store, moods)
    | (store, moods) => (.ok (), store.put key data, moods.tail)
  get key w := (w.1.get key, w)
  list keyPrefix w := (.ok (w.1.list keyPrefix), w)
  delete key w := (.ok (), w.1.delete key, w.2)
  checkBucket w := (.ok .existing, w)
  close w := (.ok (), w)
  connect _ w := (.ok (), w)

/-- What it does not refuse it stores. -/
theorem MoodyStore.storesOrRefuses_backend :
    backend.StoresOrRefuses fun w => w.1.get? where
  put_other key data w key' h := by
    obtain ⟨store, _ | ⟨_ | _, moods⟩⟩ := w
    · exact (Store.get?_put store key key' data).trans (if_neg h)
    · exact (Store.get?_put store key key' data).trans (if_neg h)
    · rfl
  delete_ok key w _ := (Store.get?_delete w.1 key key).trans (if_pos rfl)
  delete_other key w key' h := (Store.get?_delete w.1 key key').trans (if_neg h)
  delete_self key w := .inl ((Store.get?_delete w.1 key key).trans (if_pos rfl))
  get _ _ := rfl
  list _ _ := rfl
  checkBucket _ := rfl
  close _ := rfl
  connect _ _ := rfl
  put_ok key data w h := by
    obtain ⟨store, _ | ⟨_ | _, moods⟩⟩ := w
    · exact (Store.get?_put store key key data).trans (if_pos rfl)
    · exact (Store.get?_put store key key data).trans (if_pos rfl)
    · cases h
  put_error key data w f h := by
    obtain ⟨store, _ | ⟨_ | _, moods⟩⟩ := w
    · cases h
    · cases h
    · cases h
      exact ⟨rfl, rfl⟩
  delete_error key w f h := by cases h

/-- The first record is refused, the second is written, and a round of the loop is refused again;
then the clock is set back. -/
def jumpyIncidents : List (Incident MoodyStore 1) :=
  [.event (.start ⟨0, Nat.one_pos⟩ (.ready plainSettings)), .event (.discover ⟨0, Nat.one_pos⟩),
    .event (.wait 12000), .event (.tick 0 0 1), .event (.wait (-6000))]

end RollCall
