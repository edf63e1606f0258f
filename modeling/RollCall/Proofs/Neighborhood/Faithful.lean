import RollCall.Proofs.Announcer.Record
import RollCall.Proofs.Announcer.Renewal
import RollCall.Proofs.Neighborhood.Basic
import RollCall.Proofs.PeerQuery.Cleanup

/-!
# A store is faithful to the past

The invariant of a run ties every object in the store to the latest write of a node. A node with a
latest write is announcing, as only a stop ends that. Under its key there is the record that it
wrote then, or nothing, and nothing only once that record no longer counts: other nodes delete it
when they clean up. There is nothing else in the store.

Every event keeps the invariant. Those that renew a record come to one of two things, which
`Announcer.Renewed` lists; a stop either finds the node stopped already or deletes its record; a
query deletes expired records and does nothing else.

## Main definitions

* `Neighborhood.Faithful`: the invariant.

## Main results

* `Faithful.step`: every event keeps the invariant.
* `faithful_initial`: it holds at the beginning.
-/

namespace RollCall.Neighborhood

variable {n : ℕ} {h : Neighborhood n}

/-- The site after a run is faithful to what the run did. -/
structure Faithful (h : Neighborhood n) (past : List (Entry n)) (s : Site Store) : Prop where
  /-- The announcers are those of the nodes, and a node with a latest write is announcing. -/
  announcer (j : Fin n) : ∃ a, s.announcers[j.val]? = some a ∧ (h.announcer j).IsLater a ∧
    ∀ w, h.LatestWrite past j w → a.isAnnouncing = true
  /-- What is stored under the key of a node is the record of its latest write. -/
  stored (j : Fin n) (data : List UInt8) (hdata : s.world.get? (h.key j) = some data) :
    ∃ w r, h.LatestWrite past j w ∧ (h.announcer j).body w = .ok (r, data)
  /-- The record of a latest write is there as long as it counts. -/
  present (j : Fin n) (w : Int) (hw : h.LatestWrite past j w) (hlive : s.now < w + h.ttl j) :
    (s.world.get? (h.key j)).isSome = true
  /-- Every key in the store is that of a node. -/
  keys (key : String) (hkey : (s.world.get? key).isSome = true) : ∃ j, key = h.key j

/-- The invariant holds at the beginning. -/
theorem faithful_initial (h : Neighborhood n) (now : Int) : h.Faithful [] (h.initial now) where
  announcer j := by
    refine ⟨h.announcer j, ?_, .refl _, fun w hw => absurd hw (h.not_latestWrite_nil j w)⟩
    exact List.getElem?_ofFn ▸ dif_pos j.isLt
  stored j data hdata := by cases hdata
  present j w hw := absurd hw (h.not_latestWrite_nil j w)
  keys key hkey := by cases hkey

variable {past : List (Entry n)} {entry : Entry n} {s s' : Site Store}

/-- What a step reports of an event that is done. -/
theorem step_eq (h : Neighborhood n) (event : Event n) {outcome : Outcome}
    (hperform : h.perform event s = (outcome, s')) :
    h.step event s = (⟨event, s'.now, s'.calls.drop s.calls.length, outcome⟩, s') := by
  rw [step, hperform]

/-! ### Events that write nothing -/

/-- An event that neither writes nor stops changes no latest write. -/
theorem latestWrite_quiet (hwrites : ∀ j, ¬h.Writes entry j) (hstops : ∀ j, ¬entry.Stops j)
    {j : Fin n} {w : Int} : h.LatestWrite (past ++ [entry]) j w ↔ h.LatestWrite past j w := by
  rw [latestWrite_concat_iff]
  constructor
  · rintro (⟨hw, -⟩ | ⟨-, -, hw⟩)
    · exact absurd hw (hwrites j)
    · exact hw
  · exact fun hw => .inr ⟨hwrites j, hstops j, hw⟩

/-- An event that neither writes nor stops keeps the invariant if no announcer stops announcing and
nothing is deleted but what no longer counts. -/
theorem Faithful.quiet (hs : h.Faithful past s) (hwrites : ∀ j, ¬h.Writes entry j)
    (hstops : ∀ j, ¬entry.Stops j) (hnow : s.now ≤ s'.now)
    (hannouncers : ∀ (j : ℕ) (a : Announcer), s.announcers[j]? = some a →
      ∃ a', s'.announcers[j]? = some a' ∧ a.IsLater a' ∧
        (a.isAnnouncing = true → a'.isAnnouncing = true))
    (hworld : ∀ key data, s'.world.get? key = some data → s.world.get? key = some data)
    (hkept : ∀ (j : Fin n) (w : Int), h.LatestWrite past j w → s'.now < w + h.ttl j →
      s'.world.get? (h.key j) = s.world.get? (h.key j)) :
    h.Faithful (past ++ [entry]) s' where
  announcer j := by
    obtain ⟨a, ha, hlater, hannouncing⟩ := hs.announcer j
    obtain ⟨a', ha', hlater', hsteady⟩ := hannouncers j a ha
    refine ⟨a', ha', hlater.trans hlater', fun w hw => ?_⟩
    exact hsteady (hannouncing w ((latestWrite_quiet hwrites hstops).1 hw))
  stored j data hdata := by
    obtain ⟨w, r, hw, hbody⟩ := hs.stored j data (hworld _ _ hdata)
    exact ⟨w, r, (latestWrite_quiet hwrites hstops).2 hw, hbody⟩
  present j w hw hlive := by
    have hpast := (latestWrite_quiet hwrites hstops).1 hw
    rw [hkept j w hpast hlive]
    exact hs.present j w hpast (by omega)
  keys key hkey := by
    obtain ⟨data, hdata⟩ := Option.isSome_iff_exists.1 hkey
    exact hs.keys key (Option.isSome_iff_exists.2 ⟨data, hworld key data hdata⟩)

/-! ### Events of one node -/

/-- An event of one node keeps the invariant if it leaves the others alone and what the invariant
says of that node holds afterwards. -/
theorem Faithful.concerned (hs : h.Faithful past s) {i : Fin n} {a : Announcer}
    (hnow : s.now ≤ s'.now)
    (hlatest : ∀ j w, j ≠ i → (h.LatestWrite (past ++ [entry]) j w ↔ h.LatestWrite past j w))
    (hothers : ∀ j : ℕ, j ≠ i → s'.announcers[j]? = s.announcers[j]?)
    (hget : ∀ key, key ≠ h.key i → s'.world.get? key = s.world.get? key)
    (ha : s'.announcers[i.val]? = some a) (hlater : (h.announcer i).IsLater a)
    (hannouncing : ∀ w, h.LatestWrite (past ++ [entry]) i w → a.isAnnouncing = true)
    (hstored : ∀ data, s'.world.get? (h.key i) = some data →
      ∃ w r, h.LatestWrite (past ++ [entry]) i w ∧ (h.announcer i).body w = .ok (r, data))
    (hpresent : ∀ w, h.LatestWrite (past ++ [entry]) i w →
      (s'.world.get? (h.key i)).isSome = true) :
    h.Faithful (past ++ [entry]) s' := by
  refine ⟨fun j => ?_, fun j data hdata => ?_, fun j w hw hlive => ?_, fun key hkey => ?_⟩
  · by_cases hj : j = i
    · exact hj ▸ ⟨a, ha, hlater, hannouncing⟩
    · obtain ⟨b, hb, hlater', hannouncing'⟩ := hs.announcer j
      refine ⟨b, ?_, hlater', fun w hw => hannouncing' w ((hlatest j w hj).1 hw)⟩
      rw [hothers j (Fin.val_ne_of_ne hj), hb]
  · by_cases hj : j = i
    · subst hj
      exact hstored data hdata
    · rw [hget _ (h.key_injective.ne hj)] at hdata
      obtain ⟨w, r, hw, hbody⟩ := hs.stored j data hdata
      exact ⟨w, r, (hlatest j w hj).2 hw, hbody⟩
  · by_cases hj : j = i
    · subst hj
      exact hpresent w hw
    · rw [hget _ (h.key_injective.ne hj)]
      exact hs.present j w ((hlatest j w hj).1 hw) (by omega)
  · by_cases hi : key = h.key i
    · exact ⟨i, hi⟩
    · rw [hget key hi] at hkey
      exact hs.keys key hkey

/-- An event whose calls put nothing does not write. -/
theorem not_writes_of_calls {calls : List Call} (hcalls : entry.calls = calls)
    (hnoPut : ∀ gateway key data, .put gateway key data ∉ calls) (j : Fin n) :
    ¬h.Writes entry j := by
  rintro ⟨gateway, data, hput⟩
  exact hnoPut gateway (h.key j) data (hcalls ▸ hput)

/-- Another announcer at the place of one leaves the others as they are. -/
theorem exists_set_announcer {l l' : List Announcer} {i : ℕ} {a a' : Announcer}
    (hl' : l' = l.set i a') (ha : l[i]? = some a) (hlater : a.IsLater a')
    (hsteady : a.isAnnouncing = true → a'.isAnnouncing = true) (j : ℕ) (b : Announcer)
    (hb : l[j]? = some b) :
    ∃ b', l'[j]? = some b' ∧ b.IsLater b' ∧ (b.isAnnouncing = true → b'.isAnnouncing = true) := by
  subst hl'
  by_cases hij : i = j
  · subst hij
    rw [ha] at hb
    cases hb
    exact ⟨a', getElem?_set_announcer ha a', hlater, hsteady⟩
  · exact ⟨b, by rw [List.getElem?_set_ne hij, hb], .refl b, id⟩

/-! ### Events that renew a record -/

/-- Writing the record of the moment keeps the invariant. -/
theorem Faithful.written (hs : h.Faithful past s) {i : Fin n} {a : Announcer} {r : Presence}
    {data : List UInt8} (hwrites : ∀ j, h.Writes entry j ↔ j = i)
    (hstops : ∀ j, ¬entry.Stops j) (hentry : entry.now = s'.now) (hnow : s.now ≤ s'.now)
    (hothers : ∀ j : ℕ, j ≠ i → s'.announcers[j]? = s.announcers[j]?)
    (ha : s'.announcers[i.val]? = some a) (hlater : (h.announcer i).IsLater a)
    (hannouncing : a.isAnnouncing = true) (hbody : (h.announcer i).body s'.now = .ok (r, data))
    (hworld : s'.world = s.world.put (h.key i) data) : h.Faithful (past ++ [entry]) s' := by
  have hlatest : ∀ j w, h.LatestWrite (past ++ [entry]) j w ↔
      j = i ∧ s'.now = w ∨ j ≠ i ∧ h.LatestWrite past j w := by
    intro j w
    rw [latestWrite_concat_iff, hwrites, hentry]
    simp only [hstops j, not_false_eq_true, true_and]
  have hown : s'.world.get? (h.key i) = some data := by
    rw [hworld, Store.get?_put, if_pos rfl]
  refine hs.concerned hnow (fun j w hj => ?_) hothers (fun key hkey => ?_) ha hlater
    (fun _ _ => hannouncing) (fun data' hdata => ?_) fun w _ => ?_
  · simp only [hlatest, hj, false_and, ne_eq, not_false_eq_true, true_and, false_or]
  · rw [hworld, Store.get?_put, if_neg hkey]
  · rw [hown] at hdata
    cases hdata
    exact ⟨s'.now, r, (hlatest i _).2 (.inl ⟨rfl, rfl⟩), hbody⟩
  · rw [hown]
    rfl

/-- Renewing a record keeps the invariant. -/
theorem Faithful.renewed (hs : h.Faithful past s) {i : Fin n} {a : Announcer}
    (ha : s.announcers[i.val]? = some a) (hlater : (h.announcer i).IsLater a)
    (hrenewed : Announcer.Renewed i a s s')
    (hcalls : entry.calls = s'.calls.drop s.calls.length) (hnow : entry.now = s'.now)
    (hstops : ∀ j, ¬entry.Stops j) : h.Faithful (past ++ [entry]) s' := by
  have hkey : a.key = h.key i := hlater.key
  cases hrenewed with
  | @quiet a' calls part steady world noPut =>
    have hadded : entry.calls = calls := by rw [hcalls, part.calls, List.drop_left]
    refine hs.quiet (not_writes_of_calls hadded noPut) hstops part.now
      (exists_set_announcer part.announcers ha part.later steady) ?_ ?_
    · exact fun key data hdata => world ▸ hdata
    · exact fun j w _ _ => by rw [world]
  | @wrote a' calls r data part announcing body world put only =>
    have hadded : entry.calls = calls := by rw [hcalls, part.calls, List.drop_left]
    have hwrites : ∀ j, h.Writes entry j ↔ j = i := by
      intro j
      constructor
      · rintro ⟨gateway, data', hput⟩
        rw [hadded] at hput
        exact h.key_injective ((only _ _ _ hput).trans hkey)
      · rintro rfl
        exact ⟨a.gateway, data, hadded ▸ hkey ▸ put⟩
    refine hs.written hwrites hstops hnow part.now (fun j hj => ?_) ?_ (hlater.trans part.later)
      announcing (hlater.body_eq s'.now ▸ body) (hkey ▸ world)
    · rw [part.announcers, List.getElem?_set_ne (Ne.symm hj)]
    · rw [part.announcers]
      exact getElem?_set_announcer ha a'

/-! ### Stops -/

/-- A stop keeps the invariant if it leaves nothing under the key of the node. -/
theorem Faithful.withdrawn (hs : h.Faithful past s) {i : Fin n}
    (hwrites : ∀ j, ¬h.Writes entry j) (hstops : ∀ j, entry.Stops j ↔ j = i)
    (hnow : s'.now = s.now) {a : Announcer} (ha : s'.announcers[i.val]? = some a)
    (hlater : (h.announcer i).IsLater a)
    (hothers : ∀ j : ℕ, j ≠ i → s'.announcers[j]? = s.announcers[j]?)
    (hget : ∀ key, s'.world.get? key = if key = h.key i then none else s.world.get? key) :
    h.Faithful (past ++ [entry]) s' := by
  have hlatest : ∀ j w, h.LatestWrite (past ++ [entry]) j w ↔
      j ≠ i ∧ h.LatestWrite past j w := by
    intro j w
    rw [latestWrite_concat_iff, hstops]
    simp only [hwrites j, false_and, not_false_eq_true, true_and, false_or, ne_eq]
  have hnever : ∀ w, ¬h.LatestWrite (past ++ [entry]) i w :=
    fun w hw => ((hlatest i w).1 hw).1 rfl
  refine hs.concerned (Int.le_of_eq hnow.symm) (fun j w hj => ?_) hothers (fun key hkey => ?_) ha
    hlater (fun w hw => absurd hw (hnever w)) (fun data hdata => ?_)
    fun w hw => absurd hw (hnever w)
  · simp only [hlatest, ne_eq, hj, not_false_eq_true, true_and]
  · rw [hget, if_neg hkey]
  · rw [hget, if_pos rfl] at hdata
    cases hdata

/-- Under the key of a node that is not announcing there is nothing. -/
theorem Faithful.get?_of_stopped (hs : h.Faithful past s) {i : Fin n} {a : Announcer}
    (ha : s.announcers[i.val]? = some a) (hstopped : a.isAnnouncing = false) :
    s.world.get? (h.key i) = none := by
  rw [Option.eq_none_iff_forall_ne_some]
  intro data hdata
  obtain ⟨w, r, hw, -⟩ := hs.stored i data hdata
  obtain ⟨a', ha', -, hannouncing⟩ := hs.announcer i
  rw [ha] at ha'
  cases ha'
  rw [hannouncing w hw] at hstopped
  cases hstopped

theorem stops_stop_iff {i : Fin n} {patience : Value} {now : Int} {calls : List Call} (j : Fin n) :
    (⟨.stop i patience, now, calls, .stopped (.ok ())⟩ : Entry n).Stops j ↔ j = i := by
  constructor
  · rintro ⟨patience', hevent, -⟩
    cases hevent
    rfl
  · rintro rfl
    exact ⟨patience, rfl, rfl⟩

/-- A stop comes to an end and keeps the invariant. -/
theorem Faithful.stopped (hs : h.Faithful past s) (i : Fin n) (patience : Value) :
    h.Faithful (past ++ [(h.step (.stop i patience) s).1]) (h.step (.stop i patience) s).2 := by
  obtain ⟨a, ha, hlater, -⟩ := hs.announcer i
  cases hannouncing : a.isAnnouncing with
  | false =>
    have hstop : h.perform (.stop i patience) s = (.stopped (.ok ()), s) :=
      Doing.bind_of_eq (Announcer.stop_stopped ha hannouncing patience) _
    rw [h.step_eq _ hstop]
    refine hs.withdrawn (not_writes_of_calls rfl ?_) stops_stop_iff rfl ha hlater
      (fun _ _ => rfl) fun key => ?_
    · rw [List.drop_length]
      exact fun _ _ _ => List.not_mem_nil
    · split
      · next hkey => rw [hkey, hs.get?_of_stopped ha hannouncing]
      · rfl
  | true =>
    obtain ⟨lines, hstop⟩ := Announcer.stop_ofBackend (b := Store.backend) ha hannouncing
      hlater.isWriting patience
    have hperform : h.perform (.stop i patience) s = (.stopped (.ok ()),
        { Announcer.stopping Store.backend i a s with lines }) := Doing.bind_of_eq hstop _
    rw [h.step_eq _ hperform]
    refine hs.withdrawn (not_writes_of_calls rfl ?_) stops_stop_iff rfl
      (getElem?_set_announcer ha _) (hlater.trans (.life a ..)) (fun j hj => ?_) fun key => ?_
    · rw [Announcer.stopping, List.drop_left]
      simp
    · exact List.getElem?_set_ne (Ne.symm hj)
    · rw [← show a.key = h.key i from hlater.key]
      exact s.world.get?_delete a.key key

/-! ### Queries -/

/-- The record that a node writes at some time. -/
def record (h : Neighborhood n) (j : Fin n) (w : Int) : Presence :=
  ⟨h.cluster, h.node j, h.host j, h.port j, w + h.ttl j⟩

/-- What a node writes is read as the record of the node. -/
theorem decode_of_body {j : Fin n} {w : Int} {r : Presence} {data : List UInt8}
    (hbody : (h.announcer j).body w = .ok (r, data)) (key : Option String) :
    Presence.decode data key = .ok (h.record j w) := by
  obtain ⟨hr, hdecode⟩ := Announcer.decode_of_body hbody key
  have hrecord : r = h.record j w := by
    obtain ⟨cluster, node, host, port, expires⟩ := r
    obtain ⟨rfl, ⟨⟩, ⟨⟩, ⟨⟩, rfl⟩ := hr
    rw [record, ← h.cluster_eq j]
    rfl
  exact hrecord ▸ hdecode

/-- Under the key of a node a query reads nothing but the record of its latest write. -/
theorem Faithful.decoded (hs : h.Faithful past s) {j : Fin n} {data : List UInt8}
    (hdata : s.world.get (h.key j) = .ok data) {key : Option String} {r : Presence}
    (hdecode : Presence.decode data key = .ok r) :
    ∃ w, h.LatestWrite past j w ∧ r = h.record j w := by
  obtain ⟨w, r', hw, hbody⟩ := hs.stored j data (Store.get_eq_ok_iff.1 hdata)
  refine ⟨w, hw, ?_⟩
  rw [decode_of_body hbody key] at hdecode
  exact (Except.ok.inj hdecode).symm

/-- A query leaves the record of a latest write alone as long as it counts. -/
theorem Faithful.not_doomed (hs : h.Faithful past s) {q : PeerQuery} {keys : List String}
    {j : Fin n} {w : Int} (hw : h.LatestWrite past j w) (hlive : s.now < w + h.ttl j) :
    h.key j ∉ q.doomed (PeerQuery.Sightings.none.gather q s.now
      (PeerQuery.occurrencesIn s.world keys)) := by
  intro hdoomed
  obtain ⟨-, o, ho, hkey, hverdict⟩ := PeerQuery.mem_doomed_iff.1 hdoomed
  obtain ⟨-, data, r, houtcome, hdecode, hexpired⟩ := PeerQuery.verdict?_eq_expired_iff.1 hverdict
  obtain ⟨key, -, rfl⟩ := List.mem_map.1 ho
  subst hkey
  obtain ⟨w', hw', rfl⟩ := hs.decoded houtcome hdecode
  rw [hw.unique h hw'] at hlive
  exact Int.not_lt.2 hexpired hlive

/-- A query keeps the invariant. -/
theorem Faithful.discovered (hs : h.Faithful past s) (i : Fin n) :
    h.Faithful (past ++ [(h.step (.discover i) s).1]) (h.step (.discover i) s).2 := by
  obtain ⟨calls, lines, tally, hdiscover, hnoPut⟩ := PeerQuery.discover_store (h.query i) s
  have hperform := Doing.bind_of_eq hdiscover fun result => return Outcome.found result
  rw [h.step_eq (.discover i) hperform]
  refine hs.quiet (not_writes_of_calls rfl ?_) ?_ (Int.le_refl _)
    (fun j a ha => ⟨a, ha, .refl a, id⟩) (fun key data hdata => ?_) fun j w hw hlive => ?_
  · dsimp only
    rw [List.drop_left]
    exact hnoPut
  · rintro j ⟨patience, hevent, -⟩
    cases hevent
  · rw [PeerQuery.get?_sweep] at hdata
    split at hdata
    · cases hdata
    · exact hdata
  · rw [PeerQuery.get?_sweep, if_neg (hs.not_doomed hw hlive)]

/-! ### All events -/

/-- **Every event keeps the invariant.** -/
theorem Faithful.step (hs : h.Faithful past s) (event : Event n) :
    h.Faithful (past ++ [(h.step event s).1]) (h.step event s).2 := by
  have hnoStop : ∀ {event : Event n}, (∀ j patience, event ≠ .stop j patience) →
      ∀ j, ¬(h.step event s).1.Stops j := by
    rintro event hevent j ⟨patience, hstop, -⟩
    exact hevent j patience hstop
  cases event with
  | wait millis =>
    have hperform : h.perform (.wait millis) s =
        (.waited, { s with now := s.now + millis }) := rfl
    rw [h.step_eq _ hperform]
    have hlater : s.now ≤ s.now + (millis : Int) := by omega
    refine hs.quiet (not_writes_of_calls rfl ?_) ?_ hlater
      (fun j a ha => ⟨a, ha, .refl a, id⟩) (fun _ _ hdata => hdata) fun _ _ _ _ => rfl
    · rw [List.drop_length]
      exact fun _ _ _ => List.not_mem_nil
    · rintro j ⟨patience, hevent, -⟩
      cases hevent
  | start i =>
    obtain ⟨a, ha, hlater, -⟩ := hs.announcer i
    exact hs.renewed ha hlater (Announcer.renewed_start ha hlater.isWriting) rfl rfl (hnoStop nofun)
  | announce i =>
    obtain ⟨a, ha, hlater, -⟩ := hs.announcer i
    exact hs.renewed ha hlater (Announcer.renewed_announce ha hlater.isWriting) rfl rfl
      (hnoStop nofun)
  | tick i millis =>
    obtain ⟨a, ha, hlater, -⟩ := hs.announcer i
    exact hs.renewed ha hlater (Announcer.renewed_tick ha hlater.isWriting millis) rfl rfl
      (hnoStop nofun)
  | refresh i =>
    obtain ⟨a, ha, hlater, -⟩ := hs.announcer i
    exact hs.renewed ha hlater (Announcer.renewed_refresh ha hlater.isWriting) rfl rfl
      (hnoStop nofun)
  | stop i patience => exact hs.stopped i patience
  | discover i => exact hs.discovered i

end RollCall.Neighborhood
