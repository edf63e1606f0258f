import Mathlib.Order.ConditionallyCompleteLattice.Basic
import Mathlib.Data.Int.ConditionallyCompleteOrder
import Mathlib.Data.List.MinMax
import RollCall.Proofs.Entries
import RollCall.Proofs.PeerQuery.Answer

/-!
# The freshest record of a node

Of the records that a query accepts it keeps one for each node: the one that expires last, and of
several that expire together the one listed first. Seeing a record is one step of the search for the
first maximum of the expiries, and so what was seen of a node after any listing is the first maximum
over its accepted records. A position in the listing holds that maximum exactly if every other
accepted record of the node expires earlier, or at the same time from a later position.

## Main definitions

* `Occurrence`: a listed key, and what reading it brings.
* `Occurrence.Eligible`: the conditions under which a record counts.
* `Sightings.gather`: what is seen when some occurrences are judged in turn.
* `Freshest`: the record at a position is the one that counts for its node.

## Main results

* `record?_eq_some_iff`: an occurrence is accepted exactly if its record is eligible.
* `Tracks.gather`: what was seen is the first maximum for each node.
* `mem_answer_gather`: the answer to a listing, address by address.
-/

namespace List

/-- The first maximum, as a place in the list: what stands before it is smaller, and what stands
after it is not greater. -/
theorem argmax_eq_some_iff_append {α β : Type*} [LinearOrder β] {f : α → β} {l : List α} {m : α} :
    l.argmax f = some m ↔
      ∃ before after, l = before ++ m :: after ∧ (∀ x ∈ before, f x < f m) ∧
        ∀ x ∈ after, f x ≤ f m := by
  constructor
  · intro h
    induction l with
    | nil => cases h
    | cons x xs ih =>
      rw [argmax_cons] at h
      rcases hmax : xs.argmax f with _ | c
      · rw [hmax] at h
        cases h
        exact ⟨[], xs, rfl, by simp, by simp [argmax_eq_none.1 hmax]⟩
      · rw [hmax] at h
        dsimp only at h
        split at h
        · next hlt =>
          cases h
          obtain ⟨before, after, rfl, hbefore, hafter⟩ := ih hmax
          refine ⟨x :: before, after, rfl, ?_, hafter⟩
          exact forall_mem_cons.2 ⟨hlt, hbefore⟩
        · next hle =>
          cases h
          refine ⟨[], xs, rfl, by simp, ?_⟩
          exact fun y hy => (le_of_mem_argmax hy hmax).trans (not_lt.1 hle)
  · rintro ⟨before, after, rfl, hbefore, hafter⟩
    induction before with
    | nil =>
      rw [nil_append, argmax_cons]
      rcases hmax : after.argmax f with _ | c
      · rfl
      · exact if_neg (not_lt.2 (hafter c (argmax_mem hmax)))
    | cons x xs ih =>
      obtain ⟨hx, hxs⟩ := forall_mem_cons.1 hbefore
      rw [cons_append, argmax_cons, ih hxs]
      exact if_pos hx

end List

namespace RollCall.PeerQuery

/-! ### Reading and judging -/

/-- Reading a key brings a record exactly if its content can be read and decoded. -/
theorem read_eq_record_iff {key : String} {outcome : Except Failure (List UInt8)} {r : Presence} :
    read key outcome = .ok (.ok r) ↔
      ∃ data, outcome = .ok data ∧ Presence.decode data (some key) = .ok r := by
  constructor
  · intro h
    unfold read at h
    split at h
    · next data =>
      split at h
      · next hdecode =>
        cases h
        exact ⟨data, rfl, hdecode⟩
      · cases h
    · cases h
    · split at h <;> cases h
  · rintro ⟨data, rfl, hdecode⟩
    rw [read, hdecode]

/-- A record is accepted exactly if it still counts and names another node of the cluster. -/
theorem judge_eq_accept_iff {q : PeerQuery} {now : Int} {reading : Reading} {r : Presence} :
    q.judge now reading = .accept r ↔
      reading = .ok r ∧ now < r.expires ∧ some r.node ≠ q.node ∧ r.cluster = q.cluster := by
  rcases reading with ⟨reason, f⟩ | seen
  · simp [judge]
  · rw [judge, judgeRecord, Presence.isExpired]
    split
    · next hexpired =>
      rw [decide_eq_true_eq] at hexpired
      simp only [reduceCtorEq, false_iff]
      rintro ⟨h, hlive, -⟩
      cases h
      omega
    · next hlive =>
      rw [decide_eq_true_eq] at hlive
      split
      · next hown =>
        simp only [reduceCtorEq, false_iff]
        rintro ⟨h, -, hother, -⟩
        cases h
        exact hother hown
      · next hother =>
        split
        · next hforeign =>
          simp only [reduceCtorEq, false_iff]
          rintro ⟨h, -, -, hcluster⟩
          cases h
          exact hforeign hcluster
        · next hcluster =>
          rw [Verdict.accept.injEq, Except.ok.injEq]
          constructor
          · rintro rfl
            exact ⟨rfl, by omega, hother, not_not.1 hcluster⟩
          · rintro ⟨rfl, -⟩
            rfl

/-! ### Occurrences -/

/-- A key that a listing names, and what reading it there brings. -/
structure Occurrence where
  key : String
  outcome : Except Failure (List UInt8)

namespace Occurrence

/-- The content can be read, or the store says why not. -/
def IsAnswered (o : Occurrence) : Prop :=
  ∀ f, o.outcome = .error f → f.isStore = true

/-- The conditions under which a record counts for a query: it lies under another key than the own
one, it can be read and decoded, it still counts, and it names another node of the cluster. -/
structure Eligible (q : PeerQuery) (now : Int) (o : Occurrence) (r : Presence) : Prop where
  key : o.key ≠ q.ownKey
  decoded : ∃ data, o.outcome = .ok data ∧ Presence.decode data (some o.key) = .ok r
  live : now < r.expires
  other : some r.node ≠ q.node
  cluster : r.cluster = q.cluster

/-- What reading the key means for a query; the own key means nothing. -/
def verdict? (q : PeerQuery) (now : Int) (o : Occurrence) : Option Verdict :=
  if o.key = q.ownKey then none
  else
    match read o.key o.outcome with
    | .ok reading => some (q.judge now reading)
    | .error _ => none

/-- The record that a query accepts under the key. -/
def record? (q : PeerQuery) (now : Int) (o : Occurrence) : Option Presence :=
  match o.verdict? q now with
  | some (.accept r) => some r
  | _ => none

/-- **An occurrence is accepted exactly if its record is eligible.** -/
theorem record?_eq_some_iff {q : PeerQuery} {now : Int} {o : Occurrence} {r : Presence} :
    o.record? q now = some r ↔ o.Eligible q now r := by
  constructor
  · intro h
    unfold record? at h
    split at h
    · next hverdict =>
      cases h
      unfold verdict? at hverdict
      split at hverdict
      · cases hverdict
      · next hkey =>
        split at hverdict
        · next hread =>
          obtain ⟨rfl, hlive, hother, hcluster⟩ :=
            judge_eq_accept_iff.1 (Option.some.inj hverdict)
          exact ⟨hkey, read_eq_record_iff.1 hread, hlive, hother, hcluster⟩
        · cases hverdict
    · cases h
  · rintro ⟨hkey, hdecoded, hlive, hother, hcluster⟩
    have haccept : q.judge now (.ok r) = .accept r :=
      judge_eq_accept_iff.2 ⟨rfl, hlive, hother, hcluster⟩
    rw [record?, verdict?, if_neg hkey, read_eq_record_iff.2 hdecoded]
    simp only [haccept]

end Occurrence

/-! ### Gathering -/

/-- With what an occurrence means. -/
def Sightings.add (q : PeerQuery) (now : Int) (seen : Sightings) (o : Occurrence) : Sightings :=
  match o.verdict? q now with
  | some v => seen.note o.key v
  | Option.none => seen

/-- What is seen when some occurrences are judged in turn. -/
def Sightings.gather (q : PeerQuery) (now : Int) (seen : Sightings) (os : List Occurrence) :
    Sightings :=
  os.foldl (Sightings.add q now) seen

/-- The records of some occurrences that a query accepts, in order. -/
def records (q : PeerQuery) (now : Int) (os : List Occurrence) : List Presence :=
  os.filterMap (Occurrence.record? q now)

/-- **The invariant of gathering**: the peers have distinct names, and the record kept for a node is
the first of those that expire last. -/
structure Tracks (rs : List Presence) (live : List (String × Presence)) : Prop where
  nodup : (live.map (·.1)).Nodup
  lookup (n : String) : live.lookup n = (rs.filter fun r => r.node = n).argmax (·.expires)

theorem Tracks.nil : Tracks [] [] :=
  ⟨.nil, fun _ => rfl⟩

/-- Seeing one more record is one more step of the search for the first maximum. -/
theorem Tracks.see {rs : List Presence} {s : Sightings} (h : Tracks rs s.live) (r : Presence) :
    Tracks (rs ++ [r]) (s.see r).live := by
  have hlookup := h.lookup r.node
  have hlive : (s.see r).live = s.live ∨ (s.see r).live = replaceEntry r.node r s.live := by
    rw [Sightings.see]
    split
    · split
      · exact .inr rfl
      · exact .inl rfl
    · exact .inr rfl
  refine ⟨?_, fun n => ?_⟩
  · rcases hlive with hlive | hlive
    · rw [hlive]
      exact h.nodup
    · rw [hlive]
      exact nodup_replaceEntry h.nodup
  · rw [List.filter_append]
    by_cases hn : r.node = n
    · subst hn
      rw [List.filter_singleton, decide_eq_true rfl, cond_true, List.argmax_concat, ← hlookup,
        Sightings.see]
      rcases hseen : s.live.lookup r.node with _ | seen
      · exact (lookup_replaceEntry r.node r.node r s.live).trans (if_pos rfl)
      · dsimp only
        split
        · exact (lookup_replaceEntry r.node r.node r s.live).trans (if_pos rfl)
        · exact hseen
    · rw [List.filter_singleton, decide_eq_false hn, cond_false, List.append_nil, ← h.lookup n]
      rcases hlive with hlive | hlive
      · rw [hlive]
      · rw [hlive, lookup_replaceEntry, if_neg (Ne.symm hn)]

/-- One more occurrence adds its record, if it has one that is accepted. -/
theorem Tracks.add {q : PeerQuery} {now : Int} {rs : List Presence} {s : Sightings}
    (h : Tracks rs s.live) (o : Occurrence) :
    Tracks (rs ++ (o.record? q now).toList) (s.add q now o).live := by
  rw [Sightings.add, Occurrence.record?]
  rcases o.verdict? q now with _ | (reason | r)
  · exact (List.append_nil rs).symm ▸ h
  · rw [Option.toList_none, List.append_nil]
    cases reason <;> exact h
  · exact h.see r

/-- **What was seen is the first maximum for each node.** -/
theorem Tracks.gather {q : PeerQuery} {now : Int} {rs : List Presence} {s : Sightings}
    (h : Tracks rs s.live) (os : List Occurrence) :
    Tracks (rs ++ records q now os) (s.gather q now os).live := by
  induction os generalizing rs s with
  | nil =>
    rw [records, List.filterMap_nil, List.append_nil]
    exact h
  | cons o os ih =>
    have hrecords : records q now (o :: os) = (o.record? q now).toList ++ records q now os := by
      rw [records, List.filterMap_cons]
      cases o.record? q now <;> rfl
    rw [hrecords, ← List.append_assoc]
    exact ih (h.add o)

/-! ### Positions -/

/-- The record at a position of a listing counts for its node: it is eligible, and every other
eligible record of the node expires earlier, or at the same time from a later position. -/
structure Freshest (q : PeerQuery) (now : Int) (os : List Occurrence) (i : ℕ) (r : Presence) :
    Prop where
  eligible : ∃ o, os[i]? = some o ∧ o.Eligible q now r
  first (j : ℕ) (o : Occurrence) (r' : Presence) (hj : os[j]? = some o)
    (hr' : o.Eligible q now r') (hne : j ≠ i) (hnode : r'.node = r.node) :
    r'.expires < r.expires ∨ r'.expires = r.expires ∧ i < j

/-- The accepted records of a node come from the occurrences with an eligible record of it. -/
theorem mem_records_filter {q : PeerQuery} {now : Int} {os : List Occurrence} {n : String}
    {r : Presence} :
    r ∈ (records q now os).filter (fun r => r.node = n) ↔
      ∃ o ∈ os, o.Eligible q now r ∧ r.node = n := by
  rw [List.mem_filter, records, List.mem_filterMap, decide_eq_true_eq]
  constructor
  · rintro ⟨⟨o, ho, hr⟩, hn⟩
    exact ⟨o, ho, Occurrence.record?_eq_some_iff.1 hr, hn⟩
  · rintro ⟨o, ho, hr, hn⟩
    exact ⟨⟨o, ho, Occurrence.record?_eq_some_iff.2 hr⟩, hn⟩

/-- The accepted records of a node, split at an occurrence with one. -/
theorem records_filter_split {q : PeerQuery} {now : Int} {before after : List Occurrence}
    {o : Occurrence} {r : Presence} (h : o.Eligible q now r) :
    (records q now (before ++ o :: after)).filter (fun r' => r'.node = r.node) =
      (records q now before).filter (fun r' => r'.node = r.node) ++
        r :: (records q now after).filter fun r' => r'.node = r.node := by
  have hr : o.record? q now = some r := Occurrence.record?_eq_some_iff.2 h
  rw [records, List.filterMap_append, List.filterMap_cons_some hr, List.filter_append,
    List.filter_cons, if_pos (decide_eq_true rfl)]
  rfl

/-- Where the accepted records of a node split, the listing splits at an occurrence. -/
theorem exists_split_of_records_filter {q : PeerQuery} {now : Int} {os : List Occurrence}
    {n : String} {r : Presence} {b a : List Presence}
    (h : (records q now os).filter (fun r' => r'.node = n) = b ++ r :: a) :
    ∃ before o after, os = before ++ o :: after ∧ o.Eligible q now r ∧
      (records q now before).filter (fun r' => r'.node = n) = b ∧
      (records q now after).filter (fun r' => r'.node = n) = a := by
  rw [records, List.filter_filterMap, List.filterMap_eq_append_iff] at h
  obtain ⟨l₁, l₂, rfl, rfl, h⟩ := h
  obtain ⟨l₃, o, l₄, rfl, hnone, hsome, rfl⟩ := List.filterMap_eq_cons_iff.1 h
  refine ⟨l₁ ++ l₃, o, l₄, (List.append_assoc ..).symm, ?_, ?_, ?_⟩
  · exact Occurrence.record?_eq_some_iff.1 (Option.filter_eq_some_iff.1 hsome).1
  · rw [records, List.filter_filterMap, List.filterMap_append,
      List.filterMap_eq_nil_iff.2 hnone, List.append_nil]
  · rw [records, List.filter_filterMap]

/-- **The first maximum over the accepted records of a node is the record of a position** that
counts for the node. -/
theorem argmax_records_iff {q : PeerQuery} {now : Int} {os : List Occurrence} {n : String}
    {r : Presence} :
    ((records q now os).filter fun r' => r'.node = n).argmax (·.expires) = some r ↔
      r.node = n ∧ ∃ i, Freshest q now os i r := by
  constructor
  · intro h
    have hnode : r.node = n := of_decide_eq_true (List.mem_filter.1 (List.argmax_mem h)).2
    subst hnode
    obtain ⟨b, a, hsplit, hb, ha⟩ := List.argmax_eq_some_iff_append.1 h
    obtain ⟨before, o, after, rfl, heligible, rfl, rfl⟩ := exists_split_of_records_filter hsplit
    refine ⟨rfl, before.length, ⟨o, by simp, heligible⟩, ?_⟩
    intro j o' r' hj hr' hne hnode
    rcases Nat.lt_or_gt_of_ne hne with hlt | hgt
    · rw [List.getElem?_append_left hlt] at hj
      exact .inl (hb r' (mem_records_filter.2 ⟨o', List.mem_of_getElem? hj, hr', hnode⟩))
    · obtain ⟨k, rfl⟩ := Nat.exists_eq_add_of_lt hgt
      rw [List.getElem?_append_right (by omega),
        show before.length + k + 1 - before.length = k + 1 by omega,
        List.getElem?_cons_succ] at hj
      have hle := ha r' (mem_records_filter.2 ⟨o', List.mem_of_getElem? hj, hr', hnode⟩)
      rcases Int.lt_or_eq_of_le hle with hlt | heq
      · exact .inl hlt
      · exact .inr ⟨heq, by omega⟩
  · rintro ⟨rfl, i, ⟨o, hi, heligible⟩, hfirst⟩
    obtain ⟨hlt, ho⟩ := List.getElem?_eq_some_iff.1 hi
    have hos : os = os.take i ++ o :: os.drop (i + 1) := by
      rw [← ho, List.getElem_cons_drop, List.take_append_drop]
    rw [hos, records_filter_split heligible]
    refine List.argmax_eq_some_iff_append.2 ⟨_, _, rfl, ?_, ?_⟩
    · intro r' hr'
      obtain ⟨o', ho', hr', hnode⟩ := mem_records_filter.1 hr'
      obtain ⟨j, hj⟩ := List.mem_iff_getElem?.1 ho'
      rw [List.getElem?_take] at hj
      split at hj
      · next hji =>
        rcases hfirst j o' r' hj hr' (by omega) hnode with h | ⟨-, h⟩
        · exact h
        · omega
      · cases hj
    · intro r' hr'
      obtain ⟨o', ho', hr', hnode⟩ := mem_records_filter.1 hr'
      obtain ⟨j, hj⟩ := List.mem_iff_getElem?.1 ho'
      rw [List.getElem?_drop] at hj
      rcases hfirst (i + 1 + j) o' r' hj hr' (by omega) hnode with h | ⟨h, -⟩
      · exact Int.le_of_lt h
      · exact Int.le_of_eq h

/-- **The answer to a listing**: an address is in it exactly if it is that of a record that counts
for its node. -/
theorem mem_answer_gather {q : PeerQuery} {now : Int} {os : List Occurrence} {a : Address} :
    a ∈ answer (Sightings.none.gather q now os) ↔
      ∃ i r, Freshest q now os i r ∧ r.address = a := by
  have htracks : Tracks (records q now os) (Sightings.none.gather q now os).live :=
    Tracks.nil.gather (s := .none) os
  rw [mem_answer]
  constructor
  · rintro ⟨⟨n, r⟩, he, rfl⟩
    have hlookup := (lookup_eq_some_iff_mem htracks.nodup).2 he
    rw [htracks.lookup] at hlookup
    obtain ⟨-, i, hi⟩ := argmax_records_iff.1 hlookup
    exact ⟨i, r, hi, rfl⟩
  · rintro ⟨i, r, hi, rfl⟩
    refine ⟨(r.node, r), (lookup_eq_some_iff_mem htracks.nodup).1 ?_, rfl⟩
    rw [htracks.lookup]
    exact argmax_records_iff.2 ⟨rfl, i, hi⟩

end RollCall.PeerQuery
