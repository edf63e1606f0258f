import Mathlib.Data.List.Sort
import RollCall.Proofs.PeerQuery.Accounting

/-!
# Queries at a later time

Time alone takes peers away and brings none. A query forgets expired records before it looks for the
freshest record of a node, so when that record expires every other record of the node has expired
before it or expires with it: no older address comes up in its place. If a query lists the same keys
again and reads the same under each, what it answers is what it answered before, with some peers
left out.

## Main results

* `Freshest.of_le`: a record that counts for its node counted before.
* `discover_aging`: the answers to the same listing and the same reads at two times.
-/

namespace RollCall.PeerQuery

variable {ω : Type} {b : Backend ω} {q : PeerQuery} {early late : Int} {os : List Occurrence}

/-- A record that is eligible was eligible before. -/
theorem Occurrence.Eligible.of_le {o : Occurrence} {r : Presence} (h : o.Eligible q late r)
    (hle : early ≤ late) : o.Eligible q early r :=
  { h with live := Int.lt_of_le_of_lt hle h.live }

/-- A record that was eligible is eligible until it expires. -/
theorem Occurrence.Eligible.of_live {o : Occurrence} {r : Presence} (h : o.Eligible q early r)
    (hlive : late < r.expires) : o.Eligible q late r :=
  { h with live := hlive }

/-- **A record that counts for its node counted before**: the other records of the node that were
eligible then, and are not now, expire before it. -/
theorem Freshest.of_le {i : ℕ} {r : Presence} (h : Freshest q late os i r) (hle : early ≤ late) :
    Freshest q early os i r where
  eligible := by
    obtain ⟨o, ho, heligible⟩ := h.eligible
    exact ⟨o, ho, heligible.of_le hle⟩
  first j o r' hj hr' hne hnode := by
    rcases lt_or_ge late r'.expires with hlive | hexpired
    · exact h.first j o r' hj (hr'.of_live hlive) hne hnode
    · obtain ⟨_, _, heligible⟩ := h.eligible
      exact .inl (Int.lt_of_le_of_lt hexpired heligible.live)

/-- Strictly ascending addresses that are among others in strictly ascending order are these with
some left out. -/
theorem sublist_of_subset {as as' : List Address} (has : as.Pairwise Address.Before)
    (has' : as'.Pairwise Address.Before) (h : as ⊆ as') : as.Sublist as' := by
  have : Std.Antisymm Address.Before :=
    ⟨fun a _ hab hba => absurd (hab.trans hba) a.not_before_self⟩
  have : Std.Irrefl Address.Before := ⟨Address.not_before_self⟩
  exact List.sublist_of_subperm_of_pairwise (List.subperm_of_subset has.nodup h) has has'

/-- Reading the same keys from the same world brings the same, but for the own key, of which nothing
is seen. -/
theorem Reads.gather_eq {w w' w'' : ω} {os' : List Occurrence} {now : Int}
    (h : Reads b q.ownKey w os w') (h' : Reads b q.ownKey w os' w'')
    (hkeys : os.map (·.key) = os'.map (·.key)) (seen : Sightings) :
    seen.gather q now os = seen.gather q now os' := by
  induction h generalizing os' seen with
  | nil =>
    cases List.map_eq_nil_iff.1 hkeys.symm
    rfl
  | @own o os w w' hown _ ih =>
    obtain ⟨o', os', rfl, hkey, hrest⟩ := List.map_eq_cons_iff.1 hkeys.symm
    have hown' : o'.key = q.ownKey := hkey.trans hown
    rw [gather_cons, gather_cons, add_own hown, add_own hown']
    cases h' with
    | own _ rest => exact ih rest hrest.symm seen
    | get hother => exact absurd hown' hother
  | @get o os w w₁ w' hother hget _ ih =>
    obtain ⟨o', os', rfl, hkey, hrest⟩ := List.map_eq_cons_iff.1 hkeys.symm
    cases h' with
    | own hown => exact absurd (hkey.symm.trans hown) hother
    | get _ hget' rest =>
      rw [hkey, hget] at hget'
      obtain ⟨houtcome, rfl⟩ := Prod.mk.inj hget'
      obtain rfl : o = o' := by
        cases o
        cases o'
        exact congrArg₂ Occurrence.mk hkey.symm houtcome
      exact ih rest hrest.symm _

/-- The answer of a query is told from any account of what it lists and reads. -/
theorem eq_answer_of_reads {s s' : Site ω} {peers : List Address} {w w' : ω}
    (h : discover (.ofBackend b) q s = (.ok peers, s'))
    (hlist : b.list q.clusterPrefix s.world = (.ok (os.map (·.key)), w))
    (hreads : Reads b q.ownKey w os w') : peers = answer (Sightings.none.gather q s.now os) := by
  obtain ⟨os', _, _, _, hlist', hreads', -, rfl, -, -⟩ := discover_eq_ok h
  rw [hlist] at hlist'
  obtain ⟨hkeys, rfl⟩ := Prod.mk.inj hlist'
  rw [hreads.gather_eq hreads' (Except.ok.inj hkeys)]

/-- **Time alone never adds a peer**: of two queries that list the same keys and read the same under
each, the later answer is the earlier one with some peers left out. Both are answered, unless
something else than the store fails. -/
theorem discover_aging (b : Backend ω) (q : PeerQuery) {s₁ s₂ : Site ω} {w₁ w₁' w₂ w₂' : ω}
    (hlist₁ : b.list q.clusterPrefix s₁.world = (.ok (os.map (·.key)), w₁))
    (hreads₁ : Reads b q.ownKey w₁ os w₁')
    (hlist₂ : b.list q.clusterPrefix s₂.world = (.ok (os.map (·.key)), w₂))
    (hreads₂ : Reads b q.ownKey w₂ os w₂') (hle : s₁.now ≤ s₂.now) :
    (∀ peers₁ s₁' peers₂ s₂', discover (.ofBackend b) q s₁ = (.ok peers₁, s₁') →
        discover (.ofBackend b) q s₂ = (.ok peers₂, s₂') → peers₂.Sublist peers₁) ∧
      (b.FailsAsStore → ∃ peers₁ s₁' peers₂ s₂',
        discover (.ofBackend b) q s₁ = (.ok peers₁, s₁') ∧
          discover (.ofBackend b) q s₂ = (.ok peers₂, s₂')) := by
  constructor
  · intro peers₁ s₁' peers₂ s₂' h₁ h₂
    obtain rfl := eq_answer_of_reads h₁ hlist₁ hreads₁
    obtain rfl := eq_answer_of_reads h₂ hlist₂ hreads₂
    refine sublist_of_subset (pairwise_answer _) (pairwise_answer _) fun a ha => ?_
    obtain ⟨i, r, hfreshest, rfl⟩ := mem_answer_gather.1 ha
    exact mem_answer_gather.2 ⟨i, r, hfreshest.of_le hle, rfl⟩
  · intro hb
    obtain ⟨_, _, h₁⟩ := discover_ofBackend hb s₁ hlist₁ hreads₁
    obtain ⟨_, _, h₂⟩ := discover_ofBackend hb s₂ hlist₂ hreads₂
    exact ⟨_, _, _, _, h₁, h₂⟩

/-- A node that moved: the record at its new address expires after those at its old ones. Another
node has a single record. -/
def Script.moved : Script :=
  [("c/b", .ok (Utf8.encode (Presence.encodeText ⟨"c", "b", "old", 2, 7⟩))),
    ("c/b2", .ok (Utf8.encode (Presence.encodeText ⟨"c", "b", "new", 2, 8⟩))),
    ("c/b3", .ok (Utf8.encode (Presence.encodeText ⟨"c", "b", "older", 2, 6⟩))),
    ("c/d", .ok (Utf8.encode (Presence.encodeText ⟨"c", "d", "h", 2, 9⟩)))]

/-- The node is found at its new address, and then no more. -/
theorem discover_aging_moved :
    let q : PeerQuery := ⟨0, "c", some "a", "c/", "c/a", true⟩
    ∃ s₁' s₂', (Site.initial Script.moved 5).now ≤ (Site.initial Script.moved 8).now ∧
      discover (.ofBackend Script.backend) q (.initial .moved 5) =
        (.ok [⟨"h", 2⟩, ⟨"new", 2⟩], s₁') ∧
      discover (.ofBackend Script.backend) q (.initial .moved 8) = (.ok [⟨"h", 2⟩], s₂') ∧
        [(⟨"h", 2⟩ : Address)].Sublist [⟨"h", 2⟩, ⟨"new", 2⟩] := by
  intro q
  have hearly : (discover (.ofBackend Script.backend) q (.initial .moved 5)).1 =
      .ok [⟨"h", 2⟩, ⟨"new", 2⟩] := by decide +kernel
  have hlate : (discover (.ofBackend Script.backend) q (.initial .moved 8)).1 =
      .ok [⟨"h", 2⟩] := by decide +kernel
  have hle : (Site.initial Script.moved 5).now ≤ (Site.initial Script.moved 8).now := by decide
  have hlist (now : Int) :
      Script.backend.list q.clusterPrefix (Site.initial Script.moved now).world =
        (.ok (Script.moved.occurrences.map (·.key)), Script.moved) := rfl
  obtain ⟨w, hw⟩ := Script.reads "c/a" .moved
  obtain ⟨hsublist, hanswered⟩ :=
    discover_aging Script.backend q (hlist 5) hw (hlist 8) hw hle
  obtain ⟨peers₁, s₁', peers₂, s₂', h₁, h₂⟩ := hanswered Script.failsAsStore_backend
  have hpeers := hsublist _ _ _ _ h₁ h₂
  rw [h₁] at hearly
  rw [h₂] at hlate
  cases hearly
  cases hlate
  exact ⟨s₁', s₂', hle, h₁, h₂, hpeers⟩

end RollCall.PeerQuery
