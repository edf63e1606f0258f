import RollCall.Proofs.PeerQuery.Survey
import RollCall.Store.Backend

/-!
# What a query does to a store

A query that cleans up deletes exactly the keys under which it read a record that no longer counts.
Over a store in memory reading changes nothing, so that each key brings the content it had when the
keys were listed, and the answer can be told from the keys and their contents. That is so over every
backend that shows a store to its readers, whatever it does when it is to delete.

## Main definitions

* `Backend.Shows`: listing and reading show a store.
* `Store.refusing`: the store in memory, where some deletions are refused.
* `FreshestIn`: the record under a key of a store counts for its node.
* `ExpiredIn`: the object under a key of a store is an expired record of a peer.

## Main results

* `mem_doomed_iff`, `mem_doomed_store_iff`: the keys that a query deletes.
* `mem_answer_store`: the answer over a store in memory.
* `discover_shown`, `discover_store`: what a query does to a site whose world shows a store.
* `get?_sweep_refusing`, `get?_sweep`: the store afterwards.
-/

namespace RollCall

/-- Listing and reading in a world show a store, and change nothing. -/
structure Backend.Shows {ω : Type} (b : Backend ω) (w : ω) (store : Store) : Prop where
  list (keyPrefix : String) : b.list keyPrefix w = (.ok (store.list keyPrefix), w)
  get (key : String) : b.get key w = (store.get key, w)

namespace Store

/-- The store in memory, where the deletions of some keys are refused and then change nothing. -/
def refusing (refusal : String → Option { f : Failure // f.isStore = true }) : Backend Store :=
  { backend with
    delete := fun key s =>
      match refusal key with
      | none => (.ok (), s.delete key)
      | some f => (.error f.1, s) }

/-- The store in memory refuses nothing. -/
theorem refusing_none : refusing (fun _ => none) = backend := rfl

theorem failsAsStore_refusing (refusal : String → Option { f : Failure // f.isStore = true }) :
    (refusing refusal).FailsAsStore where
  get key w f h := by
    dsimp only [refusing, backend, Store.get] at h
    split at h
    · cases h
    · cases h
      rfl
  delete key w f h := by
    dsimp only [refusing] at h
    split at h
    · cases h
    · next f' _ =>
      cases h
      exact f'.2

theorem shows_refusing (refusal : String → Option { f : Failure // f.isStore = true })
    (store : Store) : (refusing refusal).Shows store store :=
  ⟨fun _ => rfl, fun _ => rfl⟩

end Store

end RollCall

namespace RollCall.PeerQuery

variable {q : PeerQuery} {now : Int}

/-! ### Expired records -/

/-- A reading without a record has one of three reasons. -/
theorem reason_of_read {key : String} {outcome : Except Failure (List UInt8)} {reason : SkipReason}
    {f : Failure} (h : read key outcome = .ok (.error (reason, f))) :
    reason = .malformed ∨ reason = .vanished ∨ reason = .unreadable := by
  unfold read at h
  split at h
  · split at h
    · cases h
    · cases h
      exact .inl rfl
  · cases h
    exact .inr (.inl rfl)
  · split at h
    · cases h
      exact .inr (.inr rfl)
    · cases h

/-- A record is skipped as expired exactly if it no longer counts. -/
theorem judgeRecord_eq_expired_iff {r : Presence} :
    q.judgeRecord now r = .skip .expired ↔ r.expires ≤ now := by
  rw [judgeRecord, Presence.isExpired]
  split
  · next hexpired => exact iff_of_true rfl (of_decide_eq_true hexpired)
  · next hlive =>
    refine iff_of_false ?_ fun h => hlive (decide_eq_true h)
    split
    · simp
    · split <;> simp

/-- An occurrence is skipped as expired exactly if it holds a record that no longer counts. -/
theorem verdict?_eq_expired_iff {o : Occurrence} :
    o.verdict? q now = some (.skip .expired) ↔
      o.key ≠ q.ownKey ∧ ∃ data r, o.outcome = .ok data ∧
        Presence.decode data (some o.key) = .ok r ∧ r.expires ≤ now := by
  constructor
  · intro h
    unfold Occurrence.verdict? at h
    split at h
    · cases h
    · next hkey =>
      split at h
      · next reading hread =>
        have hjudge := Option.some.inj h
        rcases reading with ⟨reason, f⟩ | r
        · cases hjudge
          rcases reason_of_read hread with h | h | h <;> cases h
        · obtain ⟨data, houtcome, hdecode⟩ := read_eq_record_iff.1 hread
          exact ⟨hkey, data, r, houtcome, hdecode, judgeRecord_eq_expired_iff.1 hjudge⟩
      · cases h
  · rintro ⟨hkey, data, r, houtcome, hdecode, hexpired⟩
    have hread : read o.key o.outcome = .ok (.ok r) :=
      read_eq_record_iff.2 ⟨data, houtcome, hdecode⟩
    rw [Occurrence.verdict?, if_neg hkey, hread]
    exact congrArg some (judgeRecord_eq_expired_iff.2 hexpired)

/-- Seeing a record expires nothing. -/
theorem expired_see (s : Sightings) (r : Presence) : (s.see r).expired = s.expired := by
  rw [Sightings.see]
  split
  · split <;> rfl
  · rfl

/-- An occurrence expires its own key, or nothing. -/
theorem mem_expired_add {s : Sightings} {o : Occurrence} {key : String} :
    key ∈ (s.add q now o).expired ↔
      key ∈ s.expired ∨ o.key = key ∧ o.verdict? q now = some (.skip .expired) := by
  rw [Sightings.add]
  rcases o.verdict? q now with _ | (reason | r)
  · simp
  · cases reason <;> simp [Sightings.note, eq_comm]
  · simp [Sightings.note, expired_see]

theorem mem_expired_gather {s : Sightings} {os : List Occurrence} {key : String} :
    key ∈ (s.gather q now os).expired ↔
      key ∈ s.expired ∨ ∃ o ∈ os, o.key = key ∧ o.verdict? q now = some (.skip .expired) := by
  induction os generalizing s with
  | nil => simp [Sightings.gather]
  | cons o os ih =>
    rw [gather_cons, ih, mem_expired_add, or_assoc]
    simp only [List.mem_cons, exists_eq_or_imp]

/-- **The keys that a query deletes**: those under which it read a record that no longer counts, if
the settings ask for it. -/
theorem mem_doomed_iff {os : List Occurrence} {key : String} :
    key ∈ q.doomed (Sightings.none.gather q now os) ↔
      q.cleanup = true ∧ ∃ o ∈ os, o.key = key ∧ o.verdict? q now = some (.skip .expired) := by
  rw [doomed]
  split
  · next hcleanup =>
    rw [mem_expired_gather]
    simp [hcleanup, Sightings.none]
  · next hcleanup => simp [hcleanup]

/-! ### Over a store in memory -/

/-- The occurrences of some keys of a store. -/
def occurrencesIn (store : Store) (keys : List String) : List Occurrence :=
  keys.map fun key => ⟨key, store.get key⟩

theorem keys_occurrencesIn (store : Store) (keys : List String) :
    (occurrencesIn store keys).map (·.key) = keys := by
  rw [occurrencesIn, List.map_map]
  exact List.map_id keys

/-- Reading brings what is in the store that is shown. -/
theorem reads_shown {ω : Type} {b : Backend ω} {w : ω} {store : Store} (h : b.Shows w store)
    (own : String) (keys : List String) : Reads b own w (occurrencesIn store keys) w := by
  induction keys with
  | nil => exact .nil w
  | cons key keys ih =>
    by_cases hown : key = own
    · exact .own hown ih
    · exact .get hown (h.get key) ih

/-- The record under a key of a store counts for its node: the key is listed, the record is eligible,
and every other eligible record of the node that is listed expires earlier, or at the same time under
a later key. -/
structure FreshestIn (q : PeerQuery) (now : Int) (store : Store) (key : String) (r : Presence) :
    Prop where
  listed : Store.hasPrefix q.clusterPrefix key = true
  eligible : Occurrence.Eligible q now ⟨key, store.get key⟩ r
  first (key' : String) (r' : Presence) (hlisted : Store.hasPrefix q.clusterPrefix key' = true)
    (hr' : Occurrence.Eligible q now ⟨key', store.get key'⟩ r') (hne : key' ≠ key)
    (hnode : r'.node = r.node) : r'.expires < r.expires ∨ r'.expires = r.expires ∧ key < key'

/-- What stands at a place of a listing. -/
theorem getElem?_occurrencesIn (store : Store) {keys : List String} {p : ℕ} {o : Occurrence} :
    (occurrencesIn store keys)[p]? = some o ↔ ∃ key, keys[p]? = some key ∧
      ⟨key, store.get key⟩ = o := by
  rw [occurrencesIn, List.getElem?_map, Option.map_eq_some_iff]

/-- A key with an eligible record is listed. -/
theorem exists_place {store : Store} {key : String} {r : Presence}
    (hlisted : Store.hasPrefix q.clusterPrefix key = true)
    (hr : Occurrence.Eligible q now ⟨key, store.get key⟩ r) :
    ∃ p : ℕ, (store.list q.clusterPrefix)[p]? = some key := by
  obtain ⟨data, hdata, -⟩ := hr.decoded
  have hstored : (store.get? key).isSome = true :=
    Option.isSome_iff_exists.2 ⟨data, Store.get_eq_ok_iff.1 hdata⟩
  exact List.mem_iff_getElem?.1 ((store.mem_list_iff _ key).2 ⟨hlisted, hstored⟩)

/-- Earlier places of a listing hold smaller keys. -/
theorem lt_of_place_lt {store : Store} {keyPrefix key key' : String} {p p' : ℕ}
    (hkey : (store.list keyPrefix)[p]? = some key) (hkey' : (store.list keyPrefix)[p']? = some key')
    (hlt : p < p') : key < key' := by
  obtain ⟨hp, rfl⟩ := List.getElem?_eq_some_iff.1 hkey
  obtain ⟨hp', rfl⟩ := List.getElem?_eq_some_iff.1 hkey'
  exact List.pairwise_iff_getElem.1 (store.list_pairwise keyPrefix) p p' hp hp' hlt

/-- **The answer over a store in memory**: the addresses of the records that count for their
nodes. -/
theorem mem_answer_store {store : Store} {a : Address} :
    a ∈ answer (Sightings.none.gather q now
        (occurrencesIn store (store.list q.clusterPrefix))) ↔
      ∃ key r, FreshestIn q now store key r ∧ r.address = a := by
  rw [mem_answer_gather]
  constructor
  · rintro ⟨p, r, ⟨⟨o, ho, heligible⟩, hfirst⟩, rfl⟩
    obtain ⟨key, hkey, rfl⟩ := (getElem?_occurrencesIn store).1 ho
    refine ⟨key, r, ⟨?_, heligible, fun key' r' hlisted hr' hne hnode => ?_⟩, rfl⟩
    · exact ((store.mem_list_iff _ key).1 (List.mem_of_getElem? hkey)).1
    · obtain ⟨p', hkey'⟩ := exists_place hlisted hr'
      have hplace : p' ≠ p := by
        rintro rfl
        exact hne (Option.some.inj (hkey'.symm.trans hkey))
      have ho' := (getElem?_occurrencesIn store).2 ⟨key', hkey', rfl⟩
      refine (hfirst p' _ r' ho' hr' hplace hnode).imp_right ?_
      exact fun ⟨hexpires, hlt⟩ => ⟨hexpires, lt_of_place_lt hkey hkey' hlt⟩
  · rintro ⟨key, r, ⟨hlisted, heligible, hfirst⟩, rfl⟩
    obtain ⟨p, hkey⟩ := exists_place hlisted heligible
    refine ⟨p, r, ⟨⟨_, (getElem?_occurrencesIn store).2 ⟨key, hkey, rfl⟩, heligible⟩, ?_⟩, rfl⟩
    intro p' o r' ho hr' hplace hnode
    obtain ⟨key', hkey', rfl⟩ := (getElem?_occurrencesIn store).1 ho
    have hlisted' := ((store.mem_list_iff _ key').1 (List.mem_of_getElem? hkey')).1
    have hne : key' ≠ key := by
      rintro rfl
      rcases Nat.lt_or_gt_of_ne hplace with hlt | hlt
      · exact String.lt_irrefl key' (lt_of_place_lt hkey' hkey hlt)
      · exact String.lt_irrefl key' (lt_of_place_lt hkey hkey' hlt)
    refine (hfirst key' r' hlisted' hr' hne hnode).imp_right ?_
    rintro ⟨hexpires, hlt⟩
    refine ⟨hexpires, Nat.lt_of_le_of_ne (Nat.le_of_not_lt fun hgt => ?_) hplace.symm⟩
    exact String.lt_irrefl key (String.lt_trans hlt (lt_of_place_lt hkey' hkey hgt))

/-- The object under a key of a store is an expired record of a peer: the key is listed, it is not
the own one, and its content is a record that no longer counts. -/
structure ExpiredIn (q : PeerQuery) (now : Int) (store : Store) (key : String) : Prop where
  listed : Store.hasPrefix q.clusterPrefix key = true
  other : key ≠ q.ownKey
  expired : ∃ data r, store.get? key = some data ∧ Presence.decode data (some key) = .ok r ∧
    r.expires ≤ now

/-- **The keys that a query over a store deletes**: those of expired records of peers, if the
settings ask for it. -/
theorem mem_doomed_store_iff {store : Store} {key : String} :
    key ∈ q.doomed (Sightings.none.gather q now
        (occurrencesIn store (store.list q.clusterPrefix))) ↔
      q.cleanup = true ∧ ExpiredIn q now store key := by
  rw [mem_doomed_iff]
  refine and_congr_right fun _ => ?_
  constructor
  · rintro ⟨o, ho, rfl, hverdict⟩
    obtain ⟨key, hkey, rfl⟩ := List.mem_map.1 ho
    obtain ⟨hother, data, r, hdata, hdecode, hexpired⟩ := verdict?_eq_expired_iff.1 hverdict
    exact ⟨((store.mem_list_iff _ key).1 hkey).1, hother, data, r, Store.get_eq_ok_iff.1 hdata,
      hdecode, hexpired⟩
  · rintro ⟨hlisted, hother, data, r, hdata, hdecode, hexpired⟩
    have hkey : key ∈ store.list q.clusterPrefix :=
      (store.mem_list_iff _ key).2 ⟨hlisted, Option.isSome_iff_exists.2 ⟨data, hdata⟩⟩
    refine ⟨⟨key, store.get key⟩, List.mem_map.2 ⟨key, hkey, rfl⟩, rfl, ?_⟩
    exact verdict?_eq_expired_iff.2
      ⟨hother, data, r, Store.get_eq_ok_iff.2 hdata, hdecode, hexpired⟩

/-- **What is deleted is gone unless that was refused, and everything else is as before.** -/
theorem get?_sweep_refusing (refusal : String → Option { f : Failure // f.isStore = true })
    (keys : List String) (store : Store) (key : String) :
    (sweep (Store.refusing refusal) keys store).get? key =
      if key ∈ keys ∧ refusal key = none then none else store.get? key := by
  induction keys generalizing store with
  | nil => simp [sweep]
  | cons k keys ih =>
    have hdelete : ((Store.refusing refusal).delete k store).2.get? key =
        if key = k ∧ refusal key = none then none else store.get? key := by
      dsimp only [Store.refusing]
      split
      · next hnone =>
        rw [Store.get?_delete]
        by_cases hk : key = k <;> simp [hk, hnone]
      · next hsome =>
        rw [if_neg]
        rintro ⟨rfl, hnone⟩
        cases hsome.symm.trans hnone
    rw [sweep, List.foldl_cons, ← sweep, ih, hdelete]
    by_cases hnone : refusal key = none
    · by_cases hkeys : key ∈ keys <;> simp [hnone, hkeys]
    · simp [hnone]

/-- What is deleted is gone, and everything else is as before. -/
theorem get?_sweep (keys : List String) (store : Store) (key : String) :
    (sweep Store.backend keys store).get? key = if key ∈ keys then none else store.get? key := by
  rw [← Store.refusing_none, get?_sweep_refusing]
  simp

/-- **A query over a backend that shows a store**: its answer is that of the contents under the keys
of the cluster, and it deletes the keys of the expired records. -/
theorem discover_shown {ω : Type} {b : Backend ω} (hb : b.FailsAsStore) (q : PeerQuery)
    {s : Site ω} {store : Store} (hshown : b.Shows s.world store) :
    ∃ calls lines tally,
      discover (.ofBackend b) q s =
        (.ok (answer (Sightings.none.gather q s.now
            (occurrencesIn store (store.list q.clusterPrefix)))), { s with
          world := sweep b (q.doomed (Sightings.none.gather q s.now
            (occurrencesIn store (store.list q.clusterPrefix)))) s.world
          calls := s.calls ++ calls
          lines, tally }) ∧ ∀ gateway key data, .put gateway key data ∉ calls := by
  have hlist : b.list q.clusterPrefix s.world =
      (.ok ((occurrencesIn store (store.list q.clusterPrefix)).map (·.key)), s.world) := by
    rw [keys_occurrencesIn]
    exact hshown.list q.clusterPrefix
  obtain ⟨lines, tally, hdiscover⟩ := discover_ofBackend hb s hlist
    (reads_shown hshown q.ownKey _)
  refine ⟨_, lines, tally, hdiscover, ?_⟩
  simp [gets, deletes]

/-- **A query over a store in memory**: its answer is that of the contents under the keys of the
cluster, and the store afterwards is without the keys that it deletes. -/
theorem discover_store (q : PeerQuery) (s : Site Store) :
    ∃ calls lines tally,
      discover (.ofBackend Store.backend) q s =
        (.ok (answer (Sightings.none.gather q s.now
            (occurrencesIn s.world (s.world.list q.clusterPrefix)))), { s with
          world := sweep Store.backend (q.doomed (Sightings.none.gather q s.now
            (occurrencesIn s.world (s.world.list q.clusterPrefix)))) s.world
          calls := s.calls ++ calls
          lines, tally }) ∧ ∀ gateway key data, .put gateway key data ∉ calls :=
  discover_shown (Store.failsAsStore_refusing fun _ => none) q (Store.shows_refusing _ s.world)

end RollCall.PeerQuery
