import RollCall.Proofs.PeerQuery.Isolation

/-!
# Queries that are overtaken

A query reads all records first and deletes the expired ones afterwards. In between others may write,
and the query does not look again before it deletes. So whether an object is deleted depends on what
lay under its key when it was read: a peer whose record counted then keeps whatever it writes, but a
peer that had let its record expire loses the record that it writes in between, although that one
counts.

## Main definitions

* `Overtaken`: a store that others write to between the reads of a query and its first deletion.

## Main results

* `overtaken_removed_iff`: which of the objects of the later store a query removes.
* `returning_peer_removed`: a peer that comes back in between is removed.
-/

namespace RollCall

/-- A store, with the objects that others write to it as soon as something is to be deleted. -/
structure Overtaken where
  store : Store
  arriving : List (String × List UInt8)

namespace Overtaken

/-- The store once everything is written. -/
def settled (w : Overtaken) : Store :=
  w.arriving.foldl (fun store object => store.put object.1 object.2) w.store

/-- How such a store takes calls. -/
def backend : Backend Overtaken where
  put key data := fun w => (.ok (), { w with store := w.store.put key data })
  get key := fun w => (w.store.get key, w)
  list keyPrefix := fun w => (.ok (w.store.list keyPrefix), w)
  delete key := fun w => (.ok (), ⟨w.settled.delete key, []⟩)
  checkBucket := fun w => (.ok .existing, w)
  close := fun w => (.ok (), w)
  connect _ := fun w => (.ok (), w)

theorem failsAsStore_backend : backend.FailsAsStore where
  get key w f h := (Store.failsAsStore_refusing fun _ => none).get key w.store f h
  delete key w f h := by cases h

theorem shows_backend (w : Overtaken) : backend.Shows w w.store :=
  ⟨fun _ => rfl, fun _ => rfl⟩

/-- What is deleted is deleted from the later store. -/
theorem settled_sweep (keys : List String) (w : Overtaken) :
    (PeerQuery.sweep backend keys w).settled = PeerQuery.sweep Store.backend keys w.settled := by
  induction keys generalizing w with
  | nil => rfl
  | cons key keys ih => exact ih ⟨w.settled.delete key, []⟩

/-- An object of the later store was there before or is written in between. -/
theorem get?_or_mem_of_settled {w : Overtaken} {key : String} {data : List UInt8}
    (h : w.settled.get? key = some data) :
    w.store.get? key = some data ∨ (key, data) ∈ w.arriving := by
  obtain ⟨store, arriving⟩ := w
  induction arriving generalizing store with
  | nil => exact .inl h
  | cons object arriving ih =>
    rcases ih (store.put object.1 object.2) h with hput | hmem
    · rw [Store.get?_put] at hput
      split at hput
      · next hkey =>
        cases hput
        exact .inr (hkey ▸ List.mem_cons_self)
      · exact .inl hput
    · exact .inr (List.mem_cons_of_mem object hmem)

end Overtaken

namespace PeerQuery

variable {q : PeerQuery} {now : Int} {store : Store} {key : String}

/-- An expired record does not count. -/
theorem ExpiredIn.not_live (h : ExpiredIn q now store key) {data : List UInt8} {r : Presence}
    (hdata : store.get? key = some data) (hdecode : Presence.decode data (some key) = .ok r) :
    ¬now < r.expires := by
  obtain ⟨data', r', hdata', hdecode', hexpired⟩ := h.expired
  cases hdata.symm.trans hdata'
  cases hdecode.symm.trans hdecode'
  exact Int.not_lt.2 hexpired

/-- **What an overtaken query removes**: of the store that it finds when it deletes, exactly the
objects under whose keys it read an expired record of a peer, if it cleans up. So an object with a
record that counts is removed exactly if the record that was read under its key had expired, and
then it was written in between. -/
theorem overtaken_removed_iff (q : PeerQuery) (s : Site Overtaken) :
    ∃ peers s', discover (.ofBackend Overtaken.backend) q s = (.ok peers, s') ∧
      (∀ key data, s'.world.settled.get? key = some data ↔ s.world.settled.get? key = some data ∧
        ¬(q.cleanup = true ∧ ExpiredIn q s.now s.world.store key)) ∧
      ∀ key data r, s.world.settled.get? key = some data →
        Presence.decode data (some key) = .ok r → s.now < r.expires →
          (s'.world.settled.get? key = none ↔
            q.cleanup = true ∧ ExpiredIn q s.now s.world.store key) ∧
          (ExpiredIn q s.now s.world.store key → (key, data) ∈ s.world.arriving) := by
  obtain ⟨calls, lines, tally, hdiscover, -⟩ := discover_shown Overtaken.failsAsStore_backend q
    (Overtaken.shows_backend s.world)
  have hremoved (key : String) (data : List UInt8) (s' : Site Overtaken)
      (hs' : discover (.ofBackend Overtaken.backend) q s = (.ok (answer (Sightings.none.gather q
        s.now (occurrencesIn s.world.store (s.world.store.list q.clusterPrefix)))), s')) :
      s'.world.settled.get? key = some data ↔ s.world.settled.get? key = some data ∧
        ¬(q.cleanup = true ∧ ExpiredIn q s.now s.world.store key) := by
    cases hs'.symm.trans hdiscover
    rw [Overtaken.settled_sweep, get?_sweep, ← mem_doomed_store_iff]
    split
    · next hgone => exact iff_of_false nofun fun h => h.2 hgone
    · next hkept => exact (and_iff_left hkept).symm
  refine ⟨_, _, hdiscover, fun key data => hremoved key data _ hdiscover, ?_⟩
  intro key data r hdata hdecode hlive
  refine ⟨⟨fun hnone => ?_, fun hexpired => ?_⟩, fun hexpired => ?_⟩
  · by_contra hkept
    rw [(hremoved key data _ hdiscover).2 ⟨hdata, hkept⟩] at hnone
    cases hnone
  · refine Option.eq_none_iff_forall_not_mem.2 fun data' hdata' => ?_
    exact ((hremoved key data' _ hdiscover).1 hdata').2 hexpired
  · refine (Overtaken.get?_or_mem_of_settled hdata).resolve_left fun hbefore => ?_
    exact hexpired.not_live hbefore hdecode hlive

/-- **A peer that comes back is removed**: its record has expired when a query reads it, it writes a
record that counts before the query deletes, and that record is gone afterwards. -/
theorem returning_peer_removed :
    let settings : Settings := { (default : Settings) with
      keyPrefix := "nodes", cluster := "alpha", expiration := .ofInt 30, interval := .ofInt 10,
      cleanup := true }
    let data (expires : Int) := Utf8.encode
      (Presence.encodeText ⟨"alpha", "node-b", "10.0.0.2", 7800, expires⟩)
    let world : Overtaken := ⟨Store.empty.put "nodes/alpha/node-b" (data 1700000030000),
      [("nodes/alpha/node-b", data 1700000070000)]⟩
    let now : Int := 1700000040000
    let outcome := discover (.ofBackend Overtaken.backend) (.create 0 settings (.text "node-a"))
      (.initial world now)
    (∀ object ∈ world.arriving, ∃ r, settings.Writes object.1 object.2 r ∧ now < r.expires) ∧
      world.settled.get? "nodes/alpha/node-b" = some (data 1700000070000) ∧
      outcome.2.world.settled.get? "nodes/alpha/node-b" = none := by
  intro settings data world now outcome
  refine ⟨?_, by decide +kernel, by decide +kernel⟩
  intro object hobject
  obtain rfl := List.mem_singleton.1 hobject
  refine ⟨⟨"alpha", "node-b", "10.0.0.2", 7800, 1700000070000⟩, ?_, by decide⟩
  refine ⟨0, .text "node-b", .text "10.0.0.2", .int 7800, _, 1700000040000,
    Announcer.create_eq_ok_iff.2 ⟨30000, 10000, ?_, ?_, rfl⟩, ?_, ?_⟩
  all_goals decide +kernel

end PeerQuery

end RollCall
