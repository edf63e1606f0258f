import Mathlib.Data.List.Sort
import RollCall.Proofs.Announcer.Record
import RollCall.Proofs.Announcer.Stages
import RollCall.Proofs.PeerQuery.Cleanup

/-!
# Renewing a record before a query or after it

A member that looks for its peers gives two tasks to its pool: one renews its record, the other
answers a query. Both call the same store, one writes an object that the other lists, the other may
delete objects, and nothing says which is done first. Over a store in memory it makes no difference,
whatever is in the store, whatever the announcer has come to and however the write ends. Renewing
looks at nothing but the announcer and the clock, and concerns the own key only; the query does not
look under the own key and deletes nothing there.

What differs is the order of the calls, and what is said: the query says how many keys it listed, of
which the own one is one.

## Main definitions

* `Store.faltering`: the store in memory, where some writes fail.
* `Store.Concerns`: a change of a store that concerns one key.
* `Site.Alike`: sites that differ only in the order of what was done, and in what was said.

## Main results

* `Store.ext_get?`: a store is what it holds.
* `Announcer.refresh_faltering`: what renewing a record does.
* `PeerQuery.discover_elsewhere`: a query sees nothing of the own key.
* `refresh_discover_comm`: renewing before a query and after it.
-/

namespace RollCall

open PeerQuery (Occurrence Sightings occurrencesIn sweep gets deletes answer)

/-! ### Stores -/

namespace Store

/-- The store in memory, where some writes fail, after the object was written or without that. -/
def faltering (fault : String → List UInt8 → Option (Failure × Bool)) : Backend Store :=
  { backend with
    put := fun key data s =>
      match fault key data with
      | none => (.ok (), s.put key data)
      | some (f, landed) => (.error f, if landed then s.put key data else s) }

theorem failsAsStore_faltering (fault : String → List UInt8 → Option (Failure × Bool)) :
    (faltering fault).FailsAsStore where
  get := (failsAsStore_refusing fun _ => none).get
  delete := (failsAsStore_refusing fun _ => none).delete

theorem shows_faltering (fault : String → List UInt8 → Option (Failure × Bool)) (store : Store) :
    (faltering fault).Shows store store :=
  ⟨fun _ => rfl, fun _ => rfl⟩

/-- **A store is what it holds.** -/
theorem ext_get? {s s' : Store} (h : ∀ key, s.get? key = s'.get? key) : s = s' := by
  have hmem (s : Store) (e : String × List UInt8) : e ∈ s.entries ↔ s.get? e.1 = some e.2 :=
    (lookup_eq_some_iff_mem (s.keys_pairwise.imp String.ne_of_lt)).symm
  have : Std.Irrefl fun e e' : String × List UInt8 => e.1 < e'.1 := ⟨fun e => String.lt_irrefl e.1⟩
  have : Std.Antisymm fun e e' : String × List UInt8 => e.1 < e'.1 :=
    ⟨fun e e' h h' => absurd (String.lt_trans h h') (String.lt_irrefl e.1)⟩
  have hentries : s.entries = s'.entries :=
    s.ascending.eq_of_mem_iff s'.ascending fun e => by rw [hmem, hmem, h]
  cases s
  cases s'
  cases hentries
  rfl

/-- A change of a store that concerns one key: what is under it afterwards depends on what was under
it before, and everything else is as before. -/
structure Concerns (key : String) (change : Store → Store) : Prop where
  self (s s' : Store) (h : s.get? key = s'.get? key) : (change s).get? key = (change s').get? key
  other (s : Store) (key' : String) (h : key' ≠ key) : (change s).get? key' = s.get? key'

theorem Concerns.id (key : String) : Concerns key id :=
  ⟨fun _ _ h => h, fun _ _ _ => rfl⟩

theorem Concerns.put (key : String) (data : List UInt8) : Concerns key (·.put key data) where
  self s s' _ := by rw [get?_put, get?_put, if_pos rfl, if_pos rfl]
  other s key' h := (get?_put s key key' data).trans (if_neg h)

/-- Offering an object to a faltering store concerns its key. -/
theorem Concerns.faltering (fault : String → List UInt8 → Option (Failure × Bool)) (key : String)
    (data : List UInt8) : Concerns key fun s => ((faltering fault).put key data s).2 := by
  dsimp only [Store.faltering]
  rcases fault key data with _ | ⟨f, _ | _⟩
  · exact .put key data
  · exact .id key
  · exact .put key data

/-- **Deletions under other keys** may be done before such a change or after it. -/
theorem Concerns.sweep_comm {key : String} {change : Store → Store} (h : Concerns key change)
    {keys : List String} (hkeys : key ∉ keys) (s : Store) :
    sweep backend keys (change s) = change (sweep backend keys s) := by
  refine ext_get? fun k => ?_
  rw [PeerQuery.get?_sweep]
  by_cases hk : k = key
  · subst hk
    rw [if_neg hkeys]
    exact h.self s _ ((PeerQuery.get?_sweep keys s k).trans (if_neg hkeys)).symm
  · rw [h.other s k hk, h.other _ k hk, PeerQuery.get?_sweep]

end Store

/-! ### Renewing -/

/-- **What renewing a record does** over a faltering store is told by the announcer and the clock:
it concerns the own key. -/
theorem Announcer.refresh_faltering (fault : String → List UInt8 → Option (Failure × Bool))
    (i : Nat) (a : Announcer) (now : Int) :
    ∃ result a' change calls counted, Store.Concerns a.key change ∧
      ∀ s : Site Store, s.announcers[i]? = some a → s.now = now → ∃ lines tally,
        refresh (.ofBackend (Store.faltering fault)) i s = (result, { s with
          world := change s.world
          calls := s.calls ++ calls
          announcers := s.announcers.set i a'
          lines, tally }) ∧ s.tally.Gains tally counted := by
  cases hdue : a.isAnnouncing && a.isDue now with
  | false =>
    refine ⟨.ok false, a, id, [], fun _ => 0, .id a.key, ?_⟩
    rintro s ha rfl
    rw [refresh_eq ha, hdue, set_announcer_self ha, List.append_nil]
    exact ⟨s.lines, s.tally, rfl, .refl _⟩
  | true =>
    obtain ⟨hannouncing, -⟩ := Bool.and_eq_true_iff.1 hdue
    cases hbody : a.body now with
    | error f =>
      refine ⟨.error f, a.rested, id, [], fun _ => 0, .id a.key, ?_⟩
      rintro s ha rfl
      rw [refresh_eq ha, hdue, if_pos rfl, announce_refused ha hannouncing hbody, List.append_nil]
      exact ⟨s.lines, s.tally, rfl, .refl _⟩
    | ok record =>
      obtain ⟨r, data⟩ := record
      obtain ⟨put, hput⟩ : ∃ put, ∀ w, ((Store.faltering fault).put a.key data w).1 = put := by
        dsimp only [Store.faltering]
        cases fault a.key data <;> exact ⟨_, fun _ => rfl⟩
      refine ⟨answerTo put, { a.rested with last := a.lastAfter now put }, _,
        [.put a.gateway a.key data], a.counted put, .faltering fault a.key data, ?_⟩
      rintro s ha rfl
      have hoffered := announce_offered (b := Store.faltering fault) ha hannouncing hbody
      rw [hput] at hoffered
      rw [refresh_eq ha, hdue, if_pos rfl, hoffered]
      exact ⟨_, _, rfl, a.gains_tallied s.tally put⟩

/-! ### Querying -/

namespace PeerQuery

variable {q : PeerQuery} {now : Int}

/-- Only what stands under other keys than the own one is seen. -/
theorem gather_filter (seen : Sightings) (os : List Occurrence) :
    seen.gather q now (os.filter fun o => o.key ≠ q.ownKey) = seen.gather q now os := by
  induction os generalizing seen with
  | nil => rfl
  | cons o os ih =>
    by_cases hown : o.key = q.ownKey
    · rw [List.filter_cons_of_neg (by simpa using hown), ih, gather_cons, add_own hown]
    · rw [List.filter_cons_of_pos (by simpa using hown), gather_cons, gather_cons, ih]

/-- Only what stands under other keys than the own one is counted. -/
theorem skips_filter (os : List Occurrence) :
    q.skips now (os.filter fun o => o.key ≠ q.ownKey) = q.skips now os := by
  funext c
  have hcount (reason : SkipReason) :
      (os.filter fun o => o.key ≠ q.ownKey).countP
          (fun o => o.verdict? q now = some (.skip reason)) =
        os.countP fun o => o.verdict? q now = some (.skip reason) := by
    rw [List.countP_filter]
    refine List.countP_congr fun o _ => ?_
    by_cases hown : o.key = q.ownKey <;> simp [Occurrence.verdict?, hown]
  cases c with
  | skipped cluster reason => rw [skips, skips, hcount]
  | _ => rfl

/-- Only what stands under other keys than the own one is read. -/
theorem gets_filter (os : List Occurrence) :
    gets q (os.filter fun o => o.key ≠ q.ownKey) = gets q os := by
  rw [gets, gets, List.filter_filter]
  simp only [Bool.and_self]

/-- What stands in a listing under other keys than one is the same for stores that hold the same
under them. -/
theorem filter_occurrencesIn {own : String} {store store' : Store}
    (hsame : ∀ key ≠ own, store'.get? key = store.get? key) (keyPrefix : String) :
    (occurrencesIn store' (store'.list keyPrefix)).filter (fun o => o.key ≠ own) =
      (occurrencesIn store (store.list keyPrefix)).filter fun o => o.key ≠ own := by
  have hfilter (store : Store) :
      (occurrencesIn store (store.list keyPrefix)).filter (fun o => o.key ≠ own) =
        occurrencesIn store ((store.list keyPrefix).filter (· ≠ own)) :=
    List.filter_map ..
  have hlisted : (store'.list keyPrefix).filter (· ≠ own) =
      (store.list keyPrefix).filter (· ≠ own) := by
    refine ((store'.list_pairwise keyPrefix).filter _).eq_of_mem_iff
      ((store.list_pairwise keyPrefix).filter _) fun key => ?_
    rw [List.mem_filter, List.mem_filter, Store.mem_list_iff, Store.mem_list_iff]
    refine and_congr_left fun hother => ?_
    rw [hsame key (of_decide_eq_true hother)]
  rw [hfilter, hfilter, hlisted]
  refine List.map_congr_left fun key hkey => ?_
  have hother : key ≠ own := of_decide_eq_true (List.mem_filter.1 hkey).2
  rw [Store.get, Store.get, hsame key hother]

/-- **A query sees nothing of the own key**: over faltering stores that hold the same under all
other keys it answers the same, and deletes the same keys, among which is not the own one. -/
theorem discover_elsewhere (fault : String → List UInt8 → Option (Failure × Bool)) (q : PeerQuery)
    (now : Int) (store : Store) :
    ∃ peers keys calls counted, q.ownKey ∉ keys ∧
      ∀ s : Site Store, s.now = now → (∀ key ≠ q.ownKey, s.world.get? key = store.get? key) →
        ∃ lines tally, discover (.ofBackend (Store.faltering fault)) q s = (.ok peers, { s with
          world := sweep Store.backend keys s.world
          calls := s.calls ++ calls
          lines
          tally := tally.answered q.cluster peers.length }) ∧ s.tally.Gains tally counted := by
  set os := occurrencesIn store (store.list q.clusterPrefix) with hos
  set seen := Sightings.none.gather q now os with hseen
  have hown : q.ownKey ∉ q.doomed seen :=
    fun hdoomed => (mem_doomed_store_iff.1 hdoomed).2.other rfl
  refine ⟨answer seen, q.doomed seen, .list q.gateway q.clusterPrefix ::
    (gets q os ++ deletes q (q.doomed seen)), q.skips now os, hown, ?_⟩
  rintro s rfl hsame
  have hfilter := filter_occurrencesIn hsame q.clusterPrefix
  have hlist : (Store.faltering fault).list q.clusterPrefix s.world =
      (.ok ((occurrencesIn s.world (s.world.list q.clusterPrefix)).map (·.key)), s.world) := by
    rw [keys_occurrencesIn]
    exact (Store.shows_faltering fault s.world).list q.clusterPrefix
  obtain ⟨lines, tally, hdiscover, hgains⟩ := discover_counted
    (Store.failsAsStore_faltering fault) s hlist
    (reads_shown (Store.shows_faltering fault s.world) q.ownKey _)
  rw [← gather_filter, hfilter, gather_filter, ← gets_filter, hfilter, gets_filter] at hdiscover
  rw [← skips_filter, hfilter, skips_filter] at hgains
  exact ⟨lines, tally, hdiscover, hgains⟩

end PeerQuery

/-! ### Either order -/

/-- Sites that differ only in the order of the calls, in what was said and in the order in which
things were counted. -/
structure Site.Alike {ω : Type} (s s' : Site ω) : Prop where
  same : ∃ calls lines tally, s' = { s with calls, lines, tally }
  calls : s'.calls.Perm s.calls
  count (c : Counter) : s'.tally.count c = s.tally.count c
  found (cluster : String) : s'.tally.found? cluster = s.tally.found? cluster

/-- **Renewing a record and a query may be done in either order**: whatever is in the store,
whatever the announcer has come to and however the write ends, each brings the same as in the other
order, and the sites afterwards are alike. -/
theorem refresh_discover_comm (fault : String → List UInt8 → Option (Failure × Bool))
    {q : PeerQuery} {s : Site Store} {i : Nat} {a : Announcer} (ha : s.announcers[i]? = some a)
    (hkey : a.key = q.ownKey) :
    ∃ result peers s₁ s₁' s₂ s₂',
      Announcer.refresh (.ofBackend (Store.faltering fault)) i s = (result, s₁) ∧
      PeerQuery.discover (.ofBackend (Store.faltering fault)) q s₁ = (.ok peers, s₁') ∧
      PeerQuery.discover (.ofBackend (Store.faltering fault)) q s = (.ok peers, s₂) ∧
      Announcer.refresh (.ofBackend (Store.faltering fault)) i s₂ = (result, s₂') ∧
      s₁'.Alike s₂' := by
  obtain ⟨result, a', change, puts, announced, hconcerns, hrefresh⟩ :=
    Announcer.refresh_faltering fault i a s.now
  obtain ⟨peers, keys, reads, skipped, hkeys, hdiscover⟩ :=
    PeerQuery.discover_elsewhere fault q s.now s.world
  obtain ⟨lines₁, tally₁, h₁, hgains₁⟩ := hrefresh s ha rfl
  have hsame : ∀ key ≠ q.ownKey, (change s.world).get? key = s.world.get? key :=
    fun key hother => hconcerns.other s.world key (hkey ▸ hother)
  obtain ⟨lines₁', tally₁', h₁', hgains₁'⟩ := hdiscover { s with
    world := change s.world
    calls := s.calls ++ puts
    announcers := s.announcers.set i a'
    lines := lines₁
    tally := tally₁ } rfl hsame
  obtain ⟨lines₂, tally₂, h₂, hgains₂⟩ := hdiscover s rfl fun _ _ => rfl
  obtain ⟨lines₂', tally₂', h₂', hgains₂'⟩ := hrefresh { s with
    world := sweep Store.backend keys s.world
    calls := s.calls ++ reads
    lines := lines₂
    tally := tally₂.answered q.cluster peers.length } ha rfl
  refine ⟨result, peers, _, _, _, _, h₁, h₁', h₂, h₂', ?_, ?_, fun c => ?_, fun cluster => ?_⟩
  · refine ⟨s.calls ++ reads ++ puts, lines₂', tally₂', ?_⟩
    simp only [hconcerns.sweep_comm (hkey ▸ hkeys)]
  · rw [List.append_assoc, List.append_assoc]
    exact List.perm_append_comm.append_left s.calls
  · rw [hgains₂'.count, Tally.count_answered, Tally.count_answered, hgains₁'.count, hgains₁.count,
      hgains₂.count]
    omega
  · rw [hgains₂'.found, Tally.found?_answered, Tally.found?_answered, hgains₁'.found,
      hgains₁.found, hgains₂.found]

/-- An announcer and a query for the same node have the same key. -/
theorem Announcer.key_eq_ownKey {gateway : Nat} {settings : Settings} {node host port : Value}
    {a : Announcer} (h : create gateway settings node host port = .ok a) (gateway' : Nat) :
    a.key = (PeerQuery.create gateway' settings node).ownKey :=
  key_of_create h

/-- A store with the own record and that of another node, both expired, with the record of a peer
that counts and with an object that is no record. -/
def Store.crowded : Store :=
  let data (node host : String) (expires : Int) :=
    Utf8.encode (Presence.encodeText ⟨"c", node, host, 2, expires⟩)
  (((Store.empty.put "p/c/x" (data "x" "h" 31000)).put "p/c/y" (data "y" "g" 61000)).put "p/c/z"
    (data "z" "f" 41000)).put "p/c/w" [0x7B]

/-- The own record has expired and is written, which fails unforeseen; the query deletes the record
of the other node. -/
theorem refresh_discover_comm_crowded :
    let settings : Settings := { (default : Settings) with
      keyPrefix := "p", cluster := "c", expiration := .ofInt 30, interval := .ofInt 10,
      cleanup := true }
    let a : Announcer := {
      gateway := 0, settings, node := .text "x", host := .text "h", port := .int 2
      key := ObjectKey.node settings.keyPrefix settings.cluster (Value.text "x").display
      ttl := 30000, interval := 10000
      isAnnouncing := true, isStopRequested := false, hasLoop := true, isWriting := false
      last := some 1000 }
    let q := PeerQuery.create 0 settings (.text "x")
    let fault : String → List UInt8 → Option (Failure × Bool) :=
      fun _ _ => some (.unforeseen "reset", true)
    let g := Gateway.ofBackend (Store.faltering fault)
    let s : Site Store := { Site.initial .crowded 50000 with announcers := [a] }
    Announcer.create 0 settings (.text "x") (.text "h") (.int 2) =
        .ok { a with isAnnouncing := false, hasLoop := false, last := none } ∧
      a.key = q.ownKey ∧ s.announcers[0]? = some a ∧
      ∃ s₁ s₁' s₂ s₂', Announcer.refresh g 0 s = (.error (.unforeseen "reset"), s₁) ∧
        PeerQuery.discover g q s₁ = (.ok [⟨"g", 2⟩], s₁') ∧
        PeerQuery.discover g q s = (.ok [⟨"g", 2⟩], s₂) ∧
        Announcer.refresh g 0 s₂ = (.error (.unforeseen "reset"), s₂') ∧
        s₁'.Alike s₂' ∧ s₁'.world.keys = ["p/c/w", "p/c/x", "p/c/y"] := by
  intro settings a q fault g s
  have hcreate : Announcer.create 0 settings (.text "x") (.text "h") (.int 2) =
      .ok { a with isAnnouncing := false, hasLoop := false, last := none } :=
    Announcer.create_eq_ok_iff.2 ⟨30000, 10000, by decide +kernel, by decide +kernel, rfl⟩
  have hkey : a.key = q.ownKey := Announcer.key_eq_ownKey hcreate 0
  have ha : s.announcers[0]? = some a := rfl
  have hresult : (Announcer.refresh g 0 s).1 = .error (.unforeseen "reset") := by decide +kernel
  have hpeers : (PeerQuery.discover g q s).1 = .ok [⟨"g", 2⟩] := by decide +kernel
  have hkeys : (PeerQuery.discover g q (Announcer.refresh g 0 s).2).2.world.keys =
      ["p/c/w", "p/c/x", "p/c/y"] := by decide +kernel
  obtain ⟨result, peers, s₁, s₁', s₂, s₂', h₁, h₁', h₂, h₂', halike⟩ :=
    refresh_discover_comm fault ha hkey
  rw [h₁] at hresult
  rw [h₂] at hpeers
  rw [h₁, h₁'] at hkeys
  cases hresult
  cases hpeers
  exact ⟨hcreate, hkey, ha, s₁, s₁', s₂, s₂', h₁, h₁', h₂, h₂', halike, hkeys⟩

end RollCall
