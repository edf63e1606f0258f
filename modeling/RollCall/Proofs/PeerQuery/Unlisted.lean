import RollCall.Bucket.Backend
import RollCall.PeerQuery.Run
import RollCall.Proofs.Bucket.Paging
import RollCall.Proofs.Entries
import RollCall.Proofs.Site.Calls
import RollCall.Store.Backend

/-!
# Queries whose listing fails

A query wants all keys before it looks at any of them. If the listing fails, whatever it delivered
before, the query fails as one that cannot be answered, and there is nothing else that it does: no
record is read and none deleted, and the number of peers that the last answered query found stays
as it was. One failed query is counted and nothing else.

## Main definitions

* `Unanswered`: what a query leaves at a site whose listing failed.

## Main results

* `discover_of_list_error`: what becomes of a query whose listing failed.
* `discover_unlisted`: the law, for every lazy listing and for the pages of a bucket.
-/

namespace RollCall.PeerQuery

/-- **What a query leaves** at a site `s` whose listing failed and left the world `w`: the listing
is its only call, the world is as the listing left it, the peers found last stay as they were, and
one failed query is counted. -/
structure Unanswered {ω : Type} (q : PeerQuery) (s : Site ω) (w : ω) (s' : Site ω) : Prop where
  calls : s'.calls = s.calls ++ [.list q.gateway q.clusterPrefix]
  world : s'.world = w
  found (cluster : String) : s'.tally.found? cluster = s.tally.found? cluster
  count (c : Counter) :
    s'.tally.count c = s.tally.count c + if c = .queries q.cluster false then 1 else 0

/-- **A query whose listing failed** says so, counts one failed query and ends. -/
theorem discover_of_list_error {ω : Type} {g : Gateway ω} {q : PeerQuery} {s s₁ : Site ω}
    {f : Failure} (hlist : g.list q.gateway q.clusterPrefix s = (.error f, s₁))
    (hf : f.isStore = true) :
    discover g q s = (.error (q.unlisted f),
      { s₁ with
        lines := s₁.lines ++ [⟨.error, q.unlistedText f⟩]
        tally := s₁.tally.bump (.queries q.cluster false) }) := by
  rw [discover, Doing.bind_of_eq hlist]
  dsimp only
  rw [if_pos hf]
  rfl

/-- A query over a backend whose listing failed. -/
theorem unanswered_of_list_error {ω : Type} {b : Backend ω} {q : PeerQuery} {s : Site ω} {w : ω}
    {f : Failure} (hlist : b.list q.clusterPrefix s.world = (.error f, w))
    (hf : f.isStore = true) :
    ∃ s', discover (.ofBackend b) q s = (.error (q.unlisted f), s') ∧ q.Unanswered s w s' := by
  have hcall : (Gateway.ofBackend b).list q.gateway q.clusterPrefix s =
      (.error f, { s with world := w, calls := s.calls ++ [.list q.gateway q.clusterPrefix] }) := by
    rw [Gateway.ofBackend_list, hlist]
  exact ⟨_, discover_of_list_error hcall hf, rfl, rfl, fun _ => rfl, fun c =>
    s.tally.count_bump (.queries q.cluster false) c⟩

/-- **A failed listing yields nothing.** A query fails as one that cannot be answered, and does
nothing else, if its listing delivers any keys and then fails as the store does. So it is with every
lazy listing, and with the listing of a bucket that turns any pages and fails on the next one,
however often that one was asked for: only pages were asked for then. -/
theorem discover_unlisted (q : PeerQuery) {f : Failure} (hf : f.isStore = true) :
    (∀ {ω : Type} (b : Backend ω) (listing : String → StateM ω Bucket.Gateway.Listed)
        (s : Site ω) keys w, listing q.clusterPrefix s.world = (⟨keys, some f⟩, w) →
      ∃ s', discover (.ofBackend (b.delivering listing)) q s = (.error (q.unlisted f), s') ∧
        q.Unanswered s w s') ∧
    ∀ {σ : Type} (g : Bucket.Gateway σ) (s : Site (Bucket.Session (σ × List Bucket.Request)))
        pages token s₁ s₂, Bucket.Turns g.noted q.clusterPrefix none s.world pages token s₁ →
      g.noted.page q.clusterPrefix token s₁ = (.error f, s₂) →
      (∀ budget > pages.length, ∃ s',
        discover (.ofBackend (g.noted.backend budget)) q s = (.error (q.unlisted f), s') ∧
          q.Unanswered s s₂ s') ∧
      ∃ requests, s₂.client.2 = s.world.client.2 ++ requests ∧
        Bucket.Asked g q.clusterPrefix (none :: pages.map fun p => some p.token) requests := by
  refine ⟨fun b listing s keys w hlisting => ?_, fun g s pages token s₁ s₂ hturns hpage => ⟨?_, ?_⟩⟩
  · exact unanswered_of_list_error (Bucket.bind_of_eq hlisting _) hf
  · intro budget hbudget
    have hlist := Bucket.Gateway.list_failed hturns hpage hbudget
    exact unanswered_of_list_error (Bucket.bind_of_eq hlist _) hf
  · exact Bucket.asked_turns hturns hpage

/-- A page that names the next one, and then four calls that are throttled. -/
def overloaded : Bucket.Script :=
  ⟨Bucket.batch [.text "c/a", .text "c/b"] true (.text "t") ::
    List.replicate 4 (.fails (.service ⟨"SlowDown", some 503, "busy"⟩)), []⟩

/-- A listing that fails behind its first key, and a bucket whose second page is throttled until the
attempts are used up. -/
theorem discover_unlisted_late :
    let q : PeerQuery := ⟨0, "c", some "a", "c/", "c/a", true⟩
    let f : Failure := .throttled "list" (some "c/") 4
    let store := Store.empty.put "c/b" [1]
    let torn : Backend Store := Store.backend.delivering fun _ w => (⟨[.text "c/b"], some f⟩, w)
    let g : Bucket.Gateway Bucket.Script := ⟨"b", Bucket.scripted, .standard⟩
    let w : Bucket.Session (Bucket.Script × List Bucket.Request) := .start (overloaded, []) .empty
    f.isStore = true ∧
      (∃ s', discover (.ofBackend torn) q (.initial store 5) = (.error (q.unlisted f), s') ∧
        q.Unanswered (.initial store 5) store s') ∧
      ∃ w' s', discover (.ofBackend (g.noted.backend 2)) q (.initial w 5) =
          (.error (q.unlisted f), s') ∧ q.Unanswered (.initial w 5) w' s' ∧
        ∃ requests, w'.client.2 = [] ++ requests ∧
          Bucket.Asked g "c/" [none, some (.text "t")] requests := by
  intro q f store torn g w
  have hf : f.isStore = true := by decide
  obtain ⟨hlazy, hbucket⟩ := discover_unlisted q hf
  refine ⟨hf, hlazy Store.backend _ (.initial store 5) _ _ rfl, ?_⟩
  have hturns : Bucket.Turns g.noted "c/" none w _ _ _ := .more rfl rfl ⟨rfl, rfl⟩ .none
  obtain ⟨hdiscover, hasked⟩ := hbucket g (.initial w 5) _ _ _ _ hturns rfl
  obtain ⟨s', hfails, hleaves⟩ := hdiscover 2 (by decide)
  exact ⟨_, s', hfails, hleaves, hasked⟩

end RollCall.PeerQuery
