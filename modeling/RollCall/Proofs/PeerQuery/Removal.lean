import RollCall.Proofs.PeerQuery.Cleanup

/-!
# What a query removes from a store

Deleting is the only thing that a query does to a store. What it deletes are expired records of
peers, and all of them, if the settings ask for it: its own record, records that still count, objects
that are no records and objects of others stay as they are. Where the store refuses a deletion, the
object stays and the query goes on. None of this matters to the answer, which is settled before the
first deletion.

## Main results

* `discover_removes`: the store after a query, object by object, and the answer that does not depend
  on it.
-/

namespace RollCall.PeerQuery

variable {q : PeerQuery} {now : Int}

/-- Whether a query cleans up does not matter to what it sees. -/
theorem gather_cleanup (q : PeerQuery) (cleanup : Bool) (seen : Sightings) (os : List Occurrence) :
    seen.gather { q with cleanup } now os = seen.gather q now os :=
  rfl

/-- A query that does not clean up deletes nothing. -/
theorem doomed_of_not_cleanup (h : q.cleanup = false) (seen : Sightings) : q.doomed seen = [] := by
  rw [doomed, h]
  rfl

/-- **What a query removes**: of a store in which some deletions are refused, it leaves exactly the
objects that are no expired records of peers and those whose deletion is refused, and without
cleaning up it leaves everything. Its answer is the same whatever is refused, and whether or not it
cleans up. -/
theorem discover_removes (q : PeerQuery)
    (refusal : String → Option { f : Failure // f.isStore = true }) (s : Site Store) :
    ∃ peers s', discover (.ofBackend (Store.refusing refusal)) q s = (.ok peers, s') ∧
      (∀ key data, s'.world.get? key = some data ↔ s.world.get? key = some data ∧
        ¬(q.cleanup = true ∧ ExpiredIn q s.now s.world key ∧ refusal key = none)) ∧
      (q.cleanup = false → s'.world = s.world) ∧
      ∀ refusal' cleanup, ∃ s'',
        discover (.ofBackend (Store.refusing refusal')) { q with cleanup } s = (.ok peers, s'') := by
  obtain ⟨calls, lines, tally, hdiscover, -⟩ := discover_shown (Store.failsAsStore_refusing refusal)
    q (Store.shows_refusing refusal s.world)
  refine ⟨_, _, hdiscover, fun key data => ?_, fun hcleanup => ?_, fun refusal' cleanup => ?_⟩
  · rw [get?_sweep_refusing, ← and_assoc (a := q.cleanup = true), ← mem_doomed_store_iff]
    split
    · next hremoved => exact iff_of_false nofun fun h => h.2 hremoved
    · next hkept => exact (and_iff_left hkept).symm
  · rw [doomed_of_not_cleanup hcleanup]
    rfl
  · -- The answer is made of what was read, and both queries read the same.
    obtain ⟨calls', lines', tally', hdiscover', -⟩ :=
      discover_shown (Store.failsAsStore_refusing refusal') { q with cleanup }
        (Store.shows_refusing refusal' s.world)
    rw [gather_cleanup] at hdiscover'
    exact ⟨_, hdiscover'⟩

/-- A store with an expired record, one whose deletion is refused, a live one, and the own one. -/
example :
    let record (node : String) (expires : Int) :=
      Utf8.encode (Presence.encodeText ⟨"c", node, "h", 2, expires⟩)
    let store := (((Store.empty.put "c/a" (record "a" 3)).put "c/b" (record "b" 4)).put "c/d"
      (record "d" 5)).put "c/e" (record "e" 6)
    let refusal (key : String) : Option { f : Failure // f.isStore = true } :=
      if key = "c/d" then some ⟨.notFound none, rfl⟩ else none
    let outcome := discover (.ofBackend (Store.refusing refusal))
      ⟨0, "c", some "a", "c/", "c/a", true⟩ (.initial store 5)
    outcome.1 = .ok [⟨"h", 2⟩] ∧ outcome.2.world.keys = ["c/a", "c/d", "c/e"] := by
  intro record store refusal outcome
  decide +kernel

end RollCall.PeerQuery
