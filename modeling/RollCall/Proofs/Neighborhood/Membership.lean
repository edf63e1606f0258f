import RollCall.Proofs.Neighborhood.Faithful

/-!
# Membership over whole runs

At any point of a run, a node that asks for its peers finds exactly those nodes whose latest write
still counts. The store is faithful to what the run did so far, so the records that the query
accepts are those of the latest writes, each under the key of its node, and no node has two.

## Main results

* `Faithful.mem_answer_iff`: the answer of a query at a site that is faithful to the past.
* `Faithful.exists_step_of_run`: every entry of a run was made at such a site.
* `membership_exact`: what a query finds, over whole runs.
-/

namespace RollCall.Neighborhood

open PeerQuery (Occurrence Sightings occurrencesIn)

variable {n : ℕ} {h : Neighborhood n} {past : List (Entry n)} {s : Site Store}

/-! ### What a node looks for -/

theorem ownKey_query (i : Fin n) : (h.query i).ownKey = h.key i := by
  rw [query, PeerQuery.create, h.keyPrefix_eq, h.cluster_eq]
  rfl

theorem clusterPrefix_query (i : Fin n) :
    (h.query i).clusterPrefix = ObjectKey.cluster h.keyPrefix h.cluster := by
  rw [query, PeerQuery.create, h.keyPrefix_eq, h.cluster_eq]

/-- The keys of all nodes are listed. -/
theorem hasPrefix_key (i j : Fin n) :
    Store.hasPrefix (h.query i).clusterPrefix (h.key j) = true := by
  rw [clusterPrefix_query, Store.hasPrefix, List.isPrefixOf_iff_prefix, key, ObjectKey.node,
    String.toList_append]
  exact List.prefix_append ..

/-! ### What a query finds -/

/-- The records that a query accepts are those of the latest writes of other nodes, as long as they
count. -/
theorem Faithful.eligible_iff (hs : h.Faithful past s) {i : Fin n} {key : String} {r : Presence} :
    Occurrence.Eligible (h.query i) s.now ⟨key, s.world.get key⟩ r ↔
      ∃ j, j ≠ i ∧ key = h.key j ∧
        ∃ w, h.LatestWrite past j w ∧ s.now < w + h.ttl j ∧ r = h.record j w := by
  constructor
  · rintro ⟨hkey, ⟨data, hdata, hdecode⟩, hlive, -, -⟩
    have hstored : (s.world.get? key).isSome = true :=
      Option.isSome_iff_exists.2 ⟨data, Store.get_eq_ok_iff.1 hdata⟩
    obtain ⟨j, rfl⟩ := hs.keys key hstored
    obtain ⟨w, hw, rfl⟩ := hs.decoded hdata hdecode
    refine ⟨j, ?_, rfl, w, hw, hlive, rfl⟩
    rintro rfl
    exact hkey (ownKey_query j).symm
  · rintro ⟨j, hj, rfl, w, hw, hlive, rfl⟩
    obtain ⟨data, hdata⟩ := Option.isSome_iff_exists.1 (hs.present j w hw hlive)
    obtain ⟨w', r, hw', hbody⟩ := hs.stored j data hdata
    cases hw.unique h hw'
    refine ⟨?_, ⟨data, Store.get_eq_ok_iff.2 hdata, decode_of_body hbody _⟩, hlive, ?_, ?_⟩
    · exact fun hkey => hj (h.key_injective (hkey.trans (ownKey_query i)))
    · exact fun hnode => hj (h.node_injective (Option.some.inj hnode))
    · exact (h.cluster_eq i).symm

/-- **The answer of a query at a site that is faithful to the past**: the addresses of the other
nodes whose latest write still counts. -/
theorem Faithful.mem_answer_iff (hs : h.Faithful past s) {i : Fin n} {a : Address} :
    a ∈ PeerQuery.answer (Sightings.none.gather (h.query i) s.now
        (occurrencesIn s.world (s.world.list (h.query i).clusterPrefix))) ↔
      ∃ j, j ≠ i ∧ ∃ w, h.LatestWrite past j w ∧ s.now < w + h.ttl j ∧ h.address j = a := by
  rw [PeerQuery.mem_answer_store]
  constructor
  · rintro ⟨key, r, hfreshest, rfl⟩
    obtain ⟨j, hj, -, w, hw, hlive, rfl⟩ := hs.eligible_iff.1 hfreshest.eligible
    exact ⟨j, hj, w, hw, hlive, rfl⟩
  · rintro ⟨j, hj, w, hw, hlive, rfl⟩
    have heligible := hs.eligible_iff.2 ⟨j, hj, rfl, w, hw, hlive, rfl⟩
    refine ⟨h.key j, h.record j w, ⟨hasPrefix_key i j, heligible, ?_⟩, rfl⟩
    -- No other key holds a record of the node.
    intro key' r' _ hr' hne hnode
    obtain ⟨j', -, rfl, w', -, -, rfl⟩ := hs.eligible_iff.1 hr'
    cases h.node_injective hnode
    exact absurd rfl hne

/-! ### Whole runs -/

/-- Every entry of a run was made at a site that was faithful to the past. -/
theorem Faithful.exists_step_of_run (hs : h.Faithful past s) {events : List (Event n)}
    {before after : List (Entry n)} {entry : Entry n}
    (hrun : (h.run events s).1 = before ++ entry :: after) :
    ∃ s', h.Faithful (past ++ before) s' ∧ (h.step entry.event s').1 = entry := by
  induction events generalizing past s before with
  | nil => exact absurd hrun.symm (List.append_ne_nil_of_right_ne_nil before (List.cons_ne_nil _ _))
  | cons event events ih =>
    cases before with
    | nil =>
      obtain ⟨rfl, -⟩ := List.cons.inj hrun
      exact ⟨s, by rwa [List.append_nil], rfl⟩
    | cons first before =>
      obtain ⟨rfl, hrest⟩ := List.cons.inj hrun
      obtain ⟨s', hs', hstep⟩ := ih (hs.step event) hrest
      rw [List.append_assoc] at hs'
      exact ⟨s', hs', hstep⟩

/-- **Membership over whole runs**: whenever a node asks for its peers, it finds exactly the
addresses of the other nodes that wrote their record, did not stop since, and whose latest write
still counts, in ascending order and each once. -/
theorem membership_exact (h : Neighborhood n) (now : Int) {events : List (Event n)}
    {before after : List (Entry n)} {entry : Entry n} {i : Fin n}
    (hhistory : h.history now events = before ++ entry :: after)
    (hevent : entry.event = .discover i) :
    ∃ peers, entry.outcome = .found (.ok peers) ∧ peers.Pairwise Address.Before ∧
      ∀ a, a ∈ peers ↔
        ∃ j, j ≠ i ∧ ∃ w, h.LatestWrite before j w ∧ entry.now < w + h.ttl j ∧
          h.address j = a := by
  obtain ⟨s, hs, hstep⟩ := (faithful_initial h now).exists_step_of_run hhistory
  rw [List.nil_append] at hs
  obtain ⟨calls, lines, tally, hdiscover, -⟩ := PeerQuery.discover_store (h.query i) s
  have hperform := Doing.bind_of_eq hdiscover fun result => return Outcome.found result
  rw [hevent, h.step_eq (.discover i) hperform] at hstep
  subst hstep
  exact ⟨_, rfl, PeerQuery.pairwise_answer _, fun a => hs.mem_answer_iff⟩

theorem event_step (h : Neighborhood n) (event : Event n) (s : Site Store) :
    (h.step event s).1.event = event := rfl

/-- One more event adds one more entry. -/
theorem run_concat (h : Neighborhood n) (events : List (Event n)) (event : Event n)
    (s : Site Store) :
    (h.run (events ++ [event]) s).1 =
      (h.run events s).1 ++ [(h.step event (h.run events s).2).1] := by
  induction events generalizing s with
  | nil => rfl
  | cons first events ih => exact congrArg (_ :: ·) (ih _)

/-- Three nodes, two of them at one host, whose records count for two seconds, for three and for
four. -/
def trio : Neighborhood 3 where
  gateway := 0
  keyPrefix := "p"
  cluster := "c"
  settings i := { (default : Settings) with
    keyPrefix := "p", cluster := "c"
    expiration := .ofInt (i.val + 2), interval := .ofInt 1, cleanup := true }
  node := fun | 0 => "x" | 1 => "y" | 2 => "z"
  host := fun | 0 => "h" | 1 => "g" | 2 => "h"
  port := fun | 0 => 7 | 1 => 8 | 2 => 9
  ttl i := (i.val + 2) * 1000
  interval _ := 1000
  keyPrefix_eq _ := rfl
  cluster_eq _ := rfl
  ttl_eq := by decide +kernel
  interval_eq := by decide +kernel
  node_injective := by
    intro i j
    revert i j
    decide

/-- Some events among the three nodes. -/
def eventful : List (Event 3) :=
  [.start 0, .start 2, .discover 1, .wait 1999, .discover 1, .start 1, .tick 1 1, .discover 2,
    .stop 2 (.int 5), .refresh 0]

/-- What the second node finds afterwards: the first, as the third has stopped. -/
theorem membership_exact_trio :
    (trio.step (.discover 1) (trio.run eventful (trio.initial 5)).2).1.outcome =
        .found (.ok [⟨"h", 7⟩]) ∧
      [(⟨"h", 7⟩ : Address)].Pairwise Address.Before ∧
        ∀ a, a ∈ [(⟨"h", 7⟩ : Address)] ↔
          ∃ j, j ≠ 1 ∧ ∃ w, trio.LatestWrite (trio.history 5 eventful) j w ∧
            (trio.step (.discover 1) (trio.run eventful (trio.initial 5)).2).1.now <
              w + trio.ttl j ∧ trio.address j = a := by
  have hfound : (trio.step (.discover 1) (trio.run eventful (trio.initial 5)).2).1.outcome =
      .found (.ok [⟨"h", 7⟩]) := by decide +kernel
  obtain ⟨peers, houtcome, hpeers⟩ := membership_exact trio 5
    (trio.run_concat eventful (.discover 1) (trio.initial 5)) (trio.event_step _ _)
  rw [hfound] at houtcome
  cases houtcome
  exact ⟨hfound, hpeers⟩

end RollCall.Neighborhood
