import Mathlib.Algebra.BigOperators.Fin
import Mathlib.Algebra.BigOperators.Pi
import RollCall.Proofs.PeerQuery.Cleanup
import RollCall.Proofs.PeerQuery.Specification

/-!
# Accounts of a query

A query that is answered accounts for every record that it lists, but for that under its own key:
each has one fate, which is to be accepted or to be skipped for one reason, and every skipped record
is counted once, under its reason. So the counts of an answered query and the records that it
accepted add up to what was listed. The answer is counted too: one more answered query, none that
failed, and as many peers as the answer names. These are no more than the nodes of the accepted
records, but there is one if any record was accepted.

Nothing is asked of the store. What fails otherwise than as a store ends the query, and then it is
not answered.

## Main definitions

* `Occurrence.Fate`: what becomes of a listed record.
* `Accounted`: the account of an answered query.

## Main results

* `Occurrence.verdict?_eq_some_iff`: a query finds the fate of each record.
* `discover_eq_ok`: what an answered query did.
* `discover_accounted`: every answered query accounts for what it lists.
-/

namespace RollCall

/-- The reasons are finitely many. -/
instance : Fintype SkipReason where
  elems := {.vanished, .unreadable, .malformed, .expired, .own, .foreign}
  complete reason := by cases reason <;> decide

namespace PeerQuery

variable {ω : Type} {b : Backend ω} {q : PeerQuery} {now : Int}

/-! ### Fates -/

/-- What becomes of a listed record that lies under another key than the own one. -/
inductive Occurrence.Fate (q : PeerQuery) (now : Int) (o : Occurrence) : Verdict → Prop
  /-- It was gone when it was read. -/
  | vanished {key : Option String} (other : o.key ≠ q.ownKey)
      (gone : o.outcome = .error (.notFound key)) : Fate q now o (.skip .vanished)
  /-- The store could not read it for another reason. -/
  | unreadable {f : Failure} (other : o.key ≠ q.ownKey) (failed : o.outcome = .error f)
      (store : f.isStore = true) (there : ∀ key, f ≠ .notFound key) :
      Fate q now o (.skip .unreadable)
  /-- It was read and is no record. -/
  | malformed {data : List UInt8} {f : Failure} (other : o.key ≠ q.ownKey)
      (read : o.outcome = .ok data) (undecoded : Presence.decode data (some o.key) = .error f) :
      Fate q now o (.skip .malformed)
  /-- It is a record that no longer counts. -/
  | expired {data : List UInt8} {r : Presence} (other : o.key ≠ q.ownKey)
      (read : o.outcome = .ok data) (decoded : Presence.decode data (some o.key) = .ok r)
      (expired : r.expires ≤ now) : Fate q now o (.skip .expired)
  /-- It counts and names the node that asks. -/
  | own {data : List UInt8} {r : Presence} (other : o.key ≠ q.ownKey)
      (read : o.outcome = .ok data) (decoded : Presence.decode data (some o.key) = .ok r)
      (live : now < r.expires) (own : some r.node = q.node) : Fate q now o (.skip .own)
  /-- It counts, names another node, and names another cluster. -/
  | foreign {data : List UInt8} {r : Presence} (other : o.key ≠ q.ownKey)
      (read : o.outcome = .ok data) (decoded : Presence.decode data (some o.key) = .ok r)
      (live : now < r.expires) (peer : some r.node ≠ q.node) (foreign : r.cluster ≠ q.cluster) :
      Fate q now o (.skip .foreign)
  /-- It is accepted. -/
  | accepted {r : Presence} (eligible : o.Eligible q now r) : Fate q now o (.accept r)

/-- Reading a key that the store could not read, for another reason than that it is gone. -/
theorem read_of_isStore {key : String} {f : Failure} (hstore : f.isStore = true)
    (hthere : ∀ key, f ≠ .notFound key) : read key (.error f) = .ok (.error (.unreadable, f)) := by
  unfold read
  split
  · next heq => cases heq
  · next heq => exact absurd (Except.error.inj heq) (hthere _)
  · next heq =>
    cases heq
    rw [if_pos hstore]

/-- What is made of a record that counts. -/
theorem judgeRecord_of_live {r : Presence} (hlive : now < r.expires) :
    q.judgeRecord now r =
      if some r.node = q.node then .skip .own
      else if r.cluster ≠ q.cluster then .skip .foreign else .accept r := by
  have hcounts : ¬r.isExpired now = true := by
    rw [Presence.isExpired, decide_eq_true_eq]
    exact Int.not_le.2 hlive
  rw [judgeRecord, if_neg hcounts]

namespace Occurrence

variable {o : Occurrence} {v : Verdict}

/-- What is made of a record that was read and decoded. -/
theorem verdict?_of_decoded {data : List UInt8} {r : Presence} (hother : o.key ≠ q.ownKey)
    (hread : o.outcome = .ok data) (hdecoded : Presence.decode data (some o.key) = .ok r) :
    o.verdict? q now = some (q.judgeRecord now r) := by
  rw [verdict?, if_neg hother, read_eq_record_iff.2 ⟨data, hread, hdecoded⟩]
  rfl

/-- A query finds the fate of a record. -/
theorem verdict?_of_fate (h : o.Fate q now v) : o.verdict? q now = some v := by
  cases h with
  | vanished other gone =>
    rw [verdict?, if_neg other, gone]
    rfl
  | unreadable other failed store there =>
    rw [verdict?, if_neg other, failed, read_of_isStore store there]
    rfl
  | malformed other read undecoded =>
    rw [verdict?, if_neg other, read, PeerQuery.read, undecoded]
    rfl
  | expired other read decoded expired =>
    exact verdict?_eq_expired_iff.2 ⟨other, _, _, read, decoded, expired⟩
  | own other read decoded live own =>
    rw [verdict?_of_decoded other read decoded, judgeRecord_of_live live, if_pos own]
  | foreign other read decoded live peer foreign =>
    rw [verdict?_of_decoded other read decoded, judgeRecord_of_live live, if_neg peer,
      if_pos foreign]
  | accepted eligible =>
    obtain ⟨data, read, decoded⟩ := eligible.decoded
    rw [verdict?_of_decoded eligible.key read decoded, judgeRecord_of_live eligible.live,
      if_neg eligible.other, if_neg (not_not.2 eligible.cluster)]

/-- Every record that is read, or that the store says it cannot read, has a fate. -/
theorem exists_fate (now : Int) (hother : o.key ≠ q.ownKey) (hanswered : o.IsAnswered) :
    ∃ v, o.Fate q now v := by
  cases houtcome : o.outcome with
  | error f =>
    by_cases hgone : ∃ key, f = .notFound key
    · obtain ⟨key, rfl⟩ := hgone
      exact ⟨_, .vanished hother houtcome⟩
    · exact ⟨_, .unreadable hother houtcome (hanswered f houtcome) (not_exists.1 hgone)⟩
  | ok data =>
    cases hdecode : Presence.decode data (some o.key) with
    | error f => exact ⟨_, .malformed hother houtcome hdecode⟩
    | ok r =>
      rcases lt_or_ge now r.expires with hlive | hexpired
      · by_cases hown : some r.node = q.node
        · exact ⟨_, .own hother houtcome hdecode hlive hown⟩
        · by_cases hcluster : r.cluster = q.cluster
          · exact ⟨_, .accepted ⟨hother, ⟨data, houtcome, hdecode⟩, hlive, hown, hcluster⟩⟩
          · exact ⟨_, .foreign hother houtcome hdecode hlive hown hcluster⟩
      · exact ⟨_, .expired hother houtcome hdecode hexpired⟩

/-- **A query finds the fate of each record**, and no other. -/
theorem verdict?_eq_some_iff : o.verdict? q now = some v ↔ o.Fate q now v := by
  refine ⟨fun h => ?_, verdict?_of_fate⟩
  have hfate : ∃ v, o.Fate q now v := by
    unfold verdict? at h
    split at h
    · cases h
    · next hother =>
      split at h
      · next hread => exact exists_fate now hother (isAnswered_of_read hread)
      · cases h
  obtain ⟨v', hv'⟩ := hfate
  cases h.symm.trans (verdict?_of_fate hv')
  exact hv'

instance : Decidable (o.Fate q now v) :=
  decidable_of_iff _ verdict?_eq_some_iff

/-- A record has one fate. -/
theorem Fate.unique {v' : Verdict} (h : o.Fate q now v) (h' : o.Fate q now v') : v = v' :=
  Option.some.inj ((verdict?_of_fate h).symm.trans (verdict?_of_fate h'))

end Occurrence

/-! ### Answered queries -/

/-- Deleting counts nothing, however it ends. -/
theorem tally_clean (keys : List String) (s : Site ω) :
    (clean (.ofBackend b) q keys s).2.tally = s.tally := by
  induction keys generalizing s with
  | nil => rfl
  | cons key keys ih =>
    rw [clean, Doing.bind_of_eq (Gateway.ofBackend_delete b s q.gateway key)]
    cases (b.delete key s.world).1 with
    | ok u => exact ih _
    | error f =>
      dsimp only
      split
      · exact ih _
      · rfl

/-- What a query says that concludes with an answer, and what it counts then. -/
theorem conclude_eq_ok {records : ℕ} {seen : Sightings} {s s' : Site ω} {peers : List Address}
    (h : conclude (.ofBackend b) q records seen s = (.ok peers, s')) :
    peers = answer seen ∧ s'.tally = s.tally.answered q.cluster peers.length := by
  unfold conclude at h
  split at h
  · rcases hclean : clean (.ofBackend b) q seen.expired s with ⟨f | u, s₁⟩
    · rw [Doing.bind_of_eq hclean] at h
      cases h
    · have htally := tally_clean (b := b) (q := q) seen.expired s
      rw [hclean] at htally
      rw [Doing.bind_of_eq hclean] at h
      cases h
      exact ⟨rfl, congrArg (fun t => t.answered q.cluster (answer seen).length) htally⟩
  · cases h
    exact ⟨rfl, rfl⟩

/-- A survey that comes to an end has read every listed key but the own one, or heard from the
store why not. -/
theorem exists_reads_of_survey {keys : List String} {seen seen' : Sightings} {s s' : Site ω}
    (h : survey (.ofBackend b) q now keys seen s = (.ok seen', s')) :
    ∃ os w, os.map Occurrence.key = keys ∧ Reads b q.ownKey s.world os w ∧
      ∀ o ∈ os, o.key ≠ q.ownKey → o.IsAnswered := by
  induction keys generalizing seen s with
  | nil => exact ⟨[], s.world, rfl, .nil _, fun o ho => absurd ho List.not_mem_nil⟩
  | cons key keys ih =>
    rw [survey] at h
    split at h
    · next hown =>
      obtain ⟨os, w, hkeys, hreads, hanswered⟩ := ih h
      refine ⟨⟨key, .ok []⟩ :: os, w, ?_, .own hown hreads, ?_⟩
      · rw [List.map_cons, hkeys]
      · exact List.forall_mem_cons.2 ⟨fun hother => absurd hown hother, hanswered⟩
    · next hother =>
      rw [Doing.bind_of_eq (Gateway.ofBackend_get b s q.gateway key)] at h
      cases hread : read key (b.get key s.world).1 with
      | error f =>
        rw [hread] at h
        cases h
      | ok reading =>
        rw [hread] at h
        dsimp only at h
        obtain ⟨lines, tally, hremark⟩ := isRemark_announceVerdict q now key reading
          { s with
            world := (b.get key s.world).2
            calls := s.calls ++ [.get q.gateway key] }
        rw [Doing.bind_of_eq hremark] at h
        obtain ⟨os, w, hkeys, hreads, hanswered⟩ := ih h
        refine ⟨⟨key, (b.get key s.world).1⟩ :: os, w, ?_, .get hother rfl hreads, ?_⟩
        · rw [List.map_cons, hkeys]
        · exact List.forall_mem_cons.2 ⟨fun _ => isAnswered_of_read hread, hanswered⟩

/-- **What an answered query did**: it listed some keys and read all but the own one, or heard from
the store why not; it answers with what it saw, and has counted the records that it skipped and the
answer. -/
theorem discover_eq_ok {s s' : Site ω} {peers : List Address}
    (h : discover (.ofBackend b) q s = (.ok peers, s')) :
    ∃ os w w' tally, b.list q.clusterPrefix s.world = (.ok (os.map Occurrence.key), w) ∧
      Reads b q.ownKey w os w' ∧ (∀ o ∈ os, o.key ≠ q.ownKey → o.IsAnswered) ∧
      peers = answer (Sightings.none.gather q s.now os) ∧
      s.tally.Gains tally (q.skips s.now os) ∧
      s'.tally = tally.answered q.cluster peers.length := by
  rw [discover, Doing.bind_of_eq (Gateway.ofBackend_list b s q.gateway q.clusterPrefix)] at h
  rcases hlist : b.list q.clusterPrefix s.world with ⟨f | keys, w⟩
  · rw [hlist] at h
    dsimp only at h
    split at h <;> cases h
  · have hget (s₀ : Site ω) : (get : Doing ω (Site ω)) s₀ = (s₀, s₀) := rfl
    rw [hlist] at h
    dsimp only at h
    rw [Doing.bind_of_eq (hget _)] at h
    rcases hsurvey : survey (.ofBackend b) q s.now keys .none
        { s with world := w, calls := s.calls ++ [.list q.gateway q.clusterPrefix] } with
      ⟨f | seen, s₁⟩
    · rw [Doing.bind_of_eq hsurvey] at h
      cases h
    · rw [Doing.bind_of_eq hsurvey] at h
      obtain ⟨os, w', rfl, hreads, hanswered⟩ := exists_reads_of_survey hsurvey
      obtain ⟨lines, tally, hsurvey', hgains⟩ := survey_ofBackend s.now hreads hanswered .none
        { s with world := w, calls := s.calls ++ [.list q.gateway q.clusterPrefix] } rfl
      cases hsurvey.symm.trans hsurvey'
      obtain ⟨rfl, htally⟩ := conclude_eq_ok h
      exact ⟨os, w, w', tally, rfl, hreads, hanswered, rfl, hgains, htally⟩

/-! ### What the counts add up to -/

/-- A record under another key than the own one is skipped for one reason, or accepted. -/
theorem sum_fate (now : Int) {o : Occurrence} (hanswered : o.key ≠ q.ownKey → o.IsAnswered) :
    (∑ reason, if o.Fate q now (.skip reason) then 1 else 0) + (o.record? q now).toList.length =
      if o.key ≠ q.ownKey then 1 else 0 := by
  by_cases hother : o.key ≠ q.ownKey
  · obtain ⟨v, hv⟩ := o.exists_fate now hother (hanswered hother)
    have hfate (v' : Verdict) : o.Fate q now v' ↔ v' = v :=
      ⟨fun h => h.unique hv, fun h => h ▸ hv⟩
    simp only [hfate, if_pos hother, Occurrence.record?, Occurrence.verdict?_of_fate hv]
    cases v with
    | skip reason => simp
    | accept r => simp
  · have hown (v : Verdict) : ¬o.Fate q now v := by
      intro h
      have hverdict := Occurrence.verdict?_of_fate h
      rw [Occurrence.verdict?, if_pos (not_not.1 hother)] at hverdict
      cases hverdict
    have hrecord : o.record? q now = none := by
      rw [Occurrence.record?, Occurrence.verdict?, if_pos (not_not.1 hother)]
    simp [hown, hrecord, hother]

/-- **The skipped records and the accepted ones are all that were listed**, but for the own key. -/
theorem sum_countP_fate (now : Int) {os : List Occurrence}
    (hanswered : ∀ o ∈ os, o.key ≠ q.ownKey → o.IsAnswered) :
    ∑ reason, os.countP (fun o => o.Fate q now (.skip reason)) + (records q now os).length =
      os.countP fun o => o.key ≠ q.ownKey := by
  induction os with
  | nil => simp [records]
  | cons o os ih =>
    obtain ⟨hfirst, hanswered⟩ := List.forall_mem_cons.1 hanswered
    have hrecords : records q now (o :: os) = (o.record? q now).toList ++ records q now os := by
      rw [records, List.filterMap_cons]
      cases o.record? q now <;> rfl
    have hone := sum_fate now hfirst
    have hrest := ih hanswered
    simp only [List.countP_cons, decide_eq_true_eq, Finset.sum_add_distrib, hrecords,
      List.length_append]
    omega

/-- Whatever is seen is the record of a node with an accepted record. -/
theorem node_mem_of_mem_live {os : List Occurrence} {e : String × Presence}
    (he : e ∈ (Sightings.none.gather q now os).live) :
    e.1 ∈ (records q now os).map (·.node) := by
  have htracks : Tracks (records q now os) (Sightings.none.gather q now os).live :=
    Tracks.nil.gather (s := .none) os
  have hlookup := (lookup_eq_some_iff_mem htracks.nodup).2 he
  rw [htracks.lookup] at hlookup
  obtain ⟨hmem, hnode⟩ := List.mem_filter.1 (List.argmax_mem hlookup)
  exact List.mem_map.2 ⟨e.2, hmem, of_decide_eq_true hnode⟩

/-- An answer names no more addresses than there are nodes with accepted records. -/
theorem length_answer_le (os : List Occurrence) :
    (answer (Sightings.none.gather q now os)).length ≤
      ((records q now os).map (·.node)).toFinset.card := by
  set seen := Sightings.none.gather q now os with hseen
  have htracks : Tracks (records q now os) seen.live := Tracks.nil.gather (s := .none) os
  have haddresses : answer seen ⊆ seen.live.map fun e => e.2.address := by
    intro a ha
    obtain ⟨e, he, rfl⟩ := mem_answer.1 ha
    exact List.mem_map.2 ⟨e, he, rfl⟩
  have hnodes : (seen.live.map (·.1)).toFinset ⊆ ((records q now os).map (·.node)).toFinset := by
    intro n hn
    obtain ⟨e, he, rfl⟩ := List.mem_map.1 (List.mem_toFinset.1 hn)
    exact List.mem_toFinset.2 (node_mem_of_mem_live he)
  calc (answer seen).length
      ≤ (seen.live.map fun e => e.2.address).length :=
        ((nodup_answer seen).subperm haddresses).length_le
    _ = (seen.live.map (·.1)).length := by rw [List.length_map, List.length_map]
    _ = (seen.live.map (·.1)).toFinset.card := (List.toFinset_card_of_nodup htracks.nodup).symm
    _ ≤ ((records q now os).map (·.node)).toFinset.card := Finset.card_le_card hnodes

/-- An answer names somebody if a record was accepted. -/
theorem answer_ne_nil {os : List Occurrence} (h : records q now os ≠ []) :
    answer (Sightings.none.gather q now os) ≠ [] := by
  obtain ⟨r, hr⟩ := List.exists_mem_of_ne_nil _ h
  have hnode : ((records q now os).filter fun r' => r'.node = r.node) ≠ [] :=
    List.ne_nil_of_mem (List.mem_filter.2 ⟨hr, decide_eq_true rfl⟩)
  have hsome : ((records q now os).filter fun r' => r'.node = r.node).argmax (·.expires) ≠ none :=
    fun hnone => hnode (List.argmax_eq_none.1 hnone)
  obtain ⟨first, hfirst⟩ := Option.ne_none_iff_exists'.1 hsome
  obtain ⟨-, i, hi⟩ := argmax_records_iff.1 hfirst
  exact List.ne_nil_of_mem (mem_answer_gather.2 ⟨i, first, hi, rfl⟩)

/-- **The account of an answered query** that found the site `s` and left the site `s'`, by what it
listed. The accepted records are those of the eligible occurrences, one for each
(`Occurrence.record?_eq_some_iff`). -/
structure Accounted (q : PeerQuery) (s s' : Site ω) (os : List Occurrence)
    (peers : List Address) : Prop where
  /-- A record under another key than the own one has exactly one fate: to be skipped for a reason,
  or to be accepted. -/
  fate (o : Occurrence) (ho : o ∈ os) (hother : o.key ≠ q.ownKey) : ∃! v, o.Fate q s.now v
  /-- Each record that is skipped is counted once, under its reason. -/
  skipped (reason : SkipReason) :
    s'.tally.count (.skipped q.cluster reason) =
      s.tally.count (.skipped q.cluster reason) + os.countP fun o => o.Fate q s.now (.skip reason)
  /-- What is counted over all reasons and what is accepted are all that was listed, but for the own
  key. -/
  balance :
    ∑ reason, s'.tally.count (.skipped q.cluster reason) + (records q s.now os).length =
      ∑ reason, s.tally.count (.skipped q.cluster reason) + os.countP fun o => o.key ≠ q.ownKey
  /-- One more query was answered. -/
  answered : s'.tally.count (.queries q.cluster true) = s.tally.count (.queries q.cluster true) + 1
  /-- None has failed. -/
  failed : s'.tally.count (.queries q.cluster false) = s.tally.count (.queries q.cluster false)
  /-- The peers found last are those of the answer. -/
  found : s'.tally.found? q.cluster = some peers.length
  /-- There are no more peers than nodes with accepted records. -/
  length_le : peers.length ≤ ((records q s.now os).map (·.node)).toFinset.card
  /-- There is a peer if there is an accepted record. -/
  length_pos (h : records q s.now os ≠ []) : 0 < peers.length

/-- **Every answered query accounts for what it lists**, whatever it lists and however the reads
turn out. -/
theorem discover_accounted (b : Backend ω) (q : PeerQuery) {s s' : Site ω} {peers : List Address}
    (h : discover (.ofBackend b) q s = (.ok peers, s')) :
    ∃ os w w', b.list q.clusterPrefix s.world = (.ok (os.map Occurrence.key), w) ∧
      Reads b q.ownKey w os w' ∧ Accounted q s s' os peers := by
  obtain ⟨os, w, w', tally, hlist, hreads, hanswered, rfl, hgains, htally⟩ := discover_eq_ok h
  have hskipped (reason : SkipReason) : s'.tally.count (.skipped q.cluster reason) =
      s.tally.count (.skipped q.cluster reason) +
        os.countP fun o => o.Fate q s.now (.skip reason) := by
    rw [htally, Tally.count_answered, hgains.count]
    simp [skips, Counter.once, Occurrence.verdict?_eq_some_iff]
  have hqueries (answered : Bool) : s'.tally.count (.queries q.cluster answered) =
      s.tally.count (.queries q.cluster answered) + if answered then 1 else 0 := by
    rw [htally, Tally.count_answered, hgains.count]
    simp [skips, Counter.once]
  refine ⟨os, w, w', hlist, hreads, ?_, hskipped, ?_, hqueries true, hqueries false, ?_, ?_, ?_⟩
  · intro o ho hother
    obtain ⟨v, hv⟩ := o.exists_fate s.now hother (hanswered o ho hother)
    exact ⟨v, hv, fun v' hv' => hv'.unique hv⟩
  · have hsum := sum_countP_fate s.now hanswered
    simp only [hskipped, Finset.sum_add_distrib]
    omega
  · rw [htally, Tally.found?_answered, if_pos rfl]
  · exact length_answer_le os
  · exact fun hrecords => List.length_pos_of_ne_nil (answer_ne_nil hrecords)

/-- A script in which a query skips a record for every reason, one of them twice, and accepts three
records of two nodes. -/
def Script.motley : Script :=
  let data (cluster node host : String) (expires : Int) :=
    Utf8.encode (Presence.encodeText ⟨cluster, node, host, 2, expires⟩)
  [("c/a", .ok []),
    ("c/b", .ok (data "c" "b" "h" 8)),
    ("c/b", .ok (data "c" "b" "f" 9)),
    ("c/d", .ok (data "c" "d" "f" 7)),
    ("c/e", .ok (data "c" "e" "g" 5)),
    ("c/f", .error ⟨.notFound (some "c/f"), rfl⟩),
    ("c/g", .error ⟨.store "get" (some "c/g") "slow", rfl⟩),
    ("c/h", .ok [0x7B]),
    ("c/i", .ok []),
    ("c/j", .ok (data "c" "a" "h" 6)),
    ("c/k", .ok (data "z" "k" "h" 6))]

/-- The account of such a query. -/
theorem discover_accounted_motley :
    let q : PeerQuery := ⟨0, "c", some "a", "c/", "c/a", true⟩
    ∃ s' os w w', discover (.ofBackend Script.backend) q (.initial .motley 5) =
        (.ok [⟨"f", 2⟩], s') ∧
      Script.backend.list "c/" Script.motley = (.ok (os.map Occurrence.key), w) ∧
        Reads Script.backend "c/a" w os w' ∧
          Accounted q (.initial .motley 5) s' os [⟨"f", 2⟩] := by
  intro q
  have hpeers : (discover (.ofBackend Script.backend) q (.initial .motley 5)).1 =
      .ok [⟨"f", 2⟩] := by decide +kernel
  have hdiscover : discover (.ofBackend Script.backend) q (.initial .motley 5) =
      (.ok [⟨"f", 2⟩], (discover (.ofBackend Script.backend) q (.initial .motley 5)).2) :=
    Prod.ext hpeers rfl
  obtain ⟨os, w, w', hlist, hreads, haccounted⟩ :=
    discover_accounted Script.backend q hdiscover
  exact ⟨_, os, w, w', hdiscover, hlist, hreads, haccounted⟩

end PeerQuery

end RollCall
