import RollCall.Proofs.Announcer.Record
import RollCall.Proofs.ObjectKey
import RollCall.Proofs.PeerQuery.Cleanup

/-!
# Deployments that share a store

Two deployments with different settings may keep their records in one store. A query of the first
lists whatever begins like the keys of its cluster, and passes over records of other clusters. So it
sees a record of the second only if both call their clusters alike and all keys of the second begin
like those of the first. Nothing keeps settings from being so: a prefix of the second that goes on
from that of the first with the name of the cluster is enough.

## Main definitions

* `Settings.Writes`: what announcers for some settings write.
* `Store.SharedBy`: a store with nothing but records of two deployments.
* `Settings.IsolatedFrom`: queries of one deployment find no node of the other.
* `Settings.Encloses`: the keys of one deployment begin like those of the other.

## Main results

* `isolated_iff_not_encloses`: one deployment is isolated from another exactly if it does not
  enclose it.
* `enclosed_node_found`: a node of an enclosed deployment is found.
-/

namespace RollCall

open PeerQuery (Freshest Sightings occurrencesIn)

variable {s₁ s₂ : Settings} {key : String} {data : List UInt8} {r : Presence}

/-- A store with a single object. -/
theorem Store.get?_put_empty_iff {key' : String} {data' : List UInt8} :
    (Store.empty.put key data).get? key' = some data' ↔ key' = key ∧ data' = data := by
  rw [Store.get?_put]
  by_cases hkey : key' = key
  · rw [if_pos hkey, Option.some.injEq, eq_comm]
    exact (and_iff_right hkey).symm
  · rw [if_neg hkey]
    exact iff_of_false nofun fun h => hkey h.1

/-- A record, with its key and its content, is one that an announcer for some settings writes at some
time. -/
def Settings.Writes (settings : Settings) (key : String) (data : List UInt8) (r : Presence) : Prop :=
  ∃ gateway node host port a t, Announcer.create gateway settings node host port = .ok a ∧
    a.key = key ∧ a.body t = .ok (r, data)

/-- A record that is written names its cluster and lies under the key of its node. -/
theorem Settings.Writes.spec {settings : Settings} (h : settings.Writes key data r) :
    r.Valid ∧ r.cluster = settings.cluster ∧
      key = ObjectKey.node settings.keyPrefix settings.cluster r.node ∧
      ∀ k, Presence.decode data k = .ok r := by
  obtain ⟨gateway, node, host, port, a, t, hcreate, rfl, hbody⟩ := h
  obtain ⟨hr, hvalid⟩ := Announcer.record_eq_iff.1 (Announcer.body_eq_ok_iff.1 hbody).1
  have hkey := Announcer.key_of_create hcreate
  obtain ⟨ttl, interval, -, -, rfl⟩ := Announcer.create_eq_ok_iff.1 hcreate
  obtain rfl : .text r.node = node := hr.node
  exact ⟨hvalid, hr.cluster, hkey, fun k => (Announcer.decode_of_body hbody k).2⟩

/-- A store holds nothing but records of two deployments. -/
def Store.SharedBy (store : Store) (s₁ s₂ : Settings) : Prop :=
  ∀ key data, store.get? key = some data → ∃ r, s₁.Writes key data r ∨ s₂.Writes key data r

/-- Queries of a deployment find no node of another: over every store that both share, whoever asks
and whenever, every address in the answer is one that the deployment wrote itself. -/
def Settings.IsolatedFrom (s₁ s₂ : Settings) : Prop :=
  ∀ s : Site Store, s.world.SharedBy s₁ s₂ → ∀ gateway node, ∃ peers s',
    PeerQuery.discover (.ofBackend Store.backend) (.create gateway s₁ node) s = (.ok peers, s') ∧
      ∀ address ∈ peers, ∃ key data r, s.world.get? key = some data ∧ s₁.Writes key data r ∧
        r.address = address

/-- Two deployments call their clusters alike, and all keys of the second begin like those of the
first. -/
def Settings.Encloses (s₁ s₂ : Settings) : Prop :=
  s₁.cluster = s₂.cluster ∧
    (ObjectKey.cluster s₁.keyPrefix s₁.cluster).toList <+:
      (ObjectKey.cluster s₂.keyPrefix s₂.cluster).toList

instance (s₁ s₂ : Settings) : Decidable (s₁.Encloses s₂) :=
  inferInstanceAs (Decidable (_ ∧ _))

/-- A query of a deployment lists the keys of another exactly if they all begin like its own. -/
theorem PeerQuery.lists_iff {name : String} (hname : Presence.IsName name) (gateway : Nat)
    (asker : Value) :
    Store.hasPrefix (PeerQuery.create gateway s₁ asker).clusterPrefix
        (ObjectKey.node s₂.keyPrefix s₂.cluster name) = true ↔
      (ObjectKey.cluster s₁.keyPrefix s₁.cluster).toList <+:
        (ObjectKey.cluster s₂.keyPrefix s₂.cluster).toList := by
  rw [PeerQuery.create, Store.hasPrefix, List.isPrefixOf_iff_prefix,
    ObjectKey.prefix_node_iff hname]

/-- A deployment is isolated from one that it does not enclose, or that writes nothing. -/
theorem isolatedFrom_of_not_encloses
    (h : ∀ key data r, s₂.Writes key data r → ¬s₁.Encloses s₂) : s₁.IsolatedFrom s₂ := by
  intro s hshared gateway node
  obtain ⟨calls, lines, tally, hdiscover, -⟩ :=
    PeerQuery.discover_store (.create gateway s₁ node) s
  refine ⟨_, _, hdiscover, fun address haddress => ?_⟩
  obtain ⟨key, r, hfreshest, rfl⟩ := PeerQuery.mem_answer_store.1 haddress
  obtain ⟨data, hget, hdecode⟩ := hfreshest.eligible.decoded
  have hdata := Store.get_eq_ok_iff.1 hget
  obtain ⟨r', hwrites | hwrites⟩ := hshared key data hdata
  · obtain ⟨-, -, -, hread⟩ := hwrites.spec
    cases (hread _).symm.trans hdecode
    exact ⟨key, data, r, hdata, hwrites, rfl⟩
  · -- The query saw a record of the other deployment.
    obtain ⟨hvalid, hcluster, rfl, hread⟩ := hwrites.spec
    cases (hread _).symm.trans hdecode
    refine absurd ⟨?_, ?_⟩ (h _ data r hwrites)
    · exact hfreshest.eligible.cluster.symm.trans hcluster
    · exact (PeerQuery.lists_iff hvalid.node gateway node).1 hfreshest.listed

/-- **A node of an enclosed deployment is found**: a query of the enclosing one has its address in
the answer if its record counts, is the only one of the node, and is not that of the node that
asks. -/
theorem enclosed_node_found (hencloses : s₁.Encloses s₂) (hwrites : s₂.Writes key data r)
    {s : Site Store} (hdata : s.world.get? key = some data) (hlive : s.now < r.expires)
    (honly : ∀ key' data' r', s.world.get? key' = some data' →
      Presence.decode data' (some key') = .ok r' → r'.node = r.node → key' = key)
    (gateway : Nat) {name : String} (hname : Presence.IsName name) (hother : name ≠ r.node) :
    ∃ peers s', PeerQuery.discover (.ofBackend Store.backend) (.create gateway s₁ (.text name)) s =
      (.ok peers, s') ∧ r.address ∈ peers := by
  obtain ⟨hvalid, hcluster, hkey, hread⟩ := hwrites.spec
  obtain ⟨calls, lines, tally, hdiscover, -⟩ :=
    PeerQuery.discover_store (.create gateway s₁ (.text name)) s
  refine ⟨_, _, hdiscover, PeerQuery.mem_answer_store.2 ⟨key, r, ⟨?_, ?_, ?_⟩, rfl⟩⟩
  · rw [hkey]
    exact (PeerQuery.lists_iff hvalid.node gateway (.text name)).2 hencloses.2
  · refine ⟨fun hown => ?_, ⟨data, Store.get_eq_ok_iff.2 hdata, hread _⟩, hlive, ?_, ?_⟩
    · exact hother (ObjectKey.node_inj hvalid.node hname (hkey.symm.trans hown)).2.symm
    · exact fun hnode => hother (Option.some.inj hnode).symm
    · exact hcluster.trans hencloses.1.symm
  · rintro key' r' - ⟨-, ⟨data', hget, hdecode⟩, -⟩ hne hnode
    exact absurd (honly key' data' r' (Store.get_eq_ok_iff.1 hget) hdecode hnode) hne

/-- What two different deployments write lies under different keys. -/
theorem not_writes_both (hdiffer : (ObjectKey.normalize s₁.keyPrefix, s₁.cluster) ≠
    (ObjectKey.normalize s₂.keyPrefix, s₂.cluster)) {r' : Presence} {data' : List UInt8}
    (h₁ : s₁.Writes key data r) (h₂ : s₂.Writes key data' r') : s₁.cluster ≠ s₂.cluster := by
  intro hcluster
  obtain ⟨hvalid, -, hkey, -⟩ := h₁.spec
  obtain ⟨hvalid', -, hkey', -⟩ := h₂.spec
  obtain ⟨hbeginning, -⟩ :=
    ObjectKey.node_inj hvalid.node hvalid'.node (hkey.symm.trans hkey')
  rw [hcluster] at hbeginning
  exact hdiffer (Prod.ext (ObjectKey.normalize_eq_of_cluster_eq hbeginning) hcluster)

/-- **Isolation**: of two different deployments that share a store, the first finds no node of the
second, whatever both wrote and whenever it asks, exactly if the second writes nothing or the first
does not enclose it. -/
theorem isolated_iff_not_encloses (hdiffer : (ObjectKey.normalize s₁.keyPrefix, s₁.cluster) ≠
    (ObjectKey.normalize s₂.keyPrefix, s₂.cluster)) :
    s₁.IsolatedFrom s₂ ↔ ¬((∃ key data r, s₂.Writes key data r) ∧ s₁.Encloses s₂) := by
  constructor
  · rintro hisolated ⟨⟨key, data, r, hwrites⟩, hencloses⟩
    -- The record alone in the store, shortly before it expires.
    let s := Site.initial (Store.empty.put key data) (r.expires - 1)
    have hdata : s.world.get? key = some data := Store.get?_put_empty_iff.2 ⟨rfl, rfl⟩
    obtain ⟨name, hname, hother⟩ : ∃ name, Presence.IsName name ∧ name ≠ r.node := by
      by_cases hnode : r.node = "x"
      · exact ⟨"y", by decide, by rw [hnode]; decide⟩
      · exact ⟨"x", by decide, fun heq => hnode heq.symm⟩
    have hshared : s.world.SharedBy s₁ s₂ := by
      intro key' data' hdata'
      obtain ⟨rfl, rfl⟩ := Store.get?_put_empty_iff.1 hdata'
      exact ⟨r, .inr hwrites⟩
    obtain ⟨peers, s', hdiscover, hpeers⟩ := hisolated s hshared 0 (.text name)
    obtain ⟨peers', s'', hdiscover', hfound⟩ := enclosed_node_found hencloses hwrites hdata
      (Int.sub_one_lt_of_le (Int.le_refl _))
      (fun _ _ _ hdata' _ _ => (Store.get?_put_empty_iff.1 hdata').1) 0 hname hother
    cases hdiscover.symm.trans hdiscover'
    obtain ⟨key', data', r', hdata', hwrites', -⟩ := hpeers _ hfound
    obtain ⟨rfl, rfl⟩ := Store.get?_put_empty_iff.1 hdata'
    exact not_writes_both hdiffer hwrites' hwrites hencloses.1
  · exact fun h => isolatedFrom_of_not_encloses fun key data r hwrites hencloses =>
      h ⟨⟨key, data, r, hwrites⟩, hencloses⟩

/-! ### One prefix within another -/

/-- The settings of a deployment under a prefix. -/
def deployedUnder (keyPrefix : String) : Settings :=
  { (default : Settings) with
    keyPrefix, cluster := "alpha", expiration := .ofInt 30, interval := .ofInt 10 }

/-- The inner of two deployments is isolated from the outer. -/
theorem isolated_iff_not_encloses_inner :
    let outer := deployedUnder "nodes"
    let inner := deployedUnder "nodes/alpha"
    (ObjectKey.normalize inner.keyPrefix, inner.cluster) ≠
        (ObjectKey.normalize outer.keyPrefix, outer.cluster) ∧
      inner.IsolatedFrom outer := by
  intro outer inner
  have hdiffer : (ObjectKey.normalize inner.keyPrefix, inner.cluster) ≠
      (ObjectKey.normalize outer.keyPrefix, outer.cluster) := by decide
  have hoffside : ¬inner.Encloses outer := by decide
  exact ⟨hdiffer, (isolated_iff_not_encloses hdiffer).2 fun h => hoffside h.2⟩

/-- The outer is not isolated from the inner: over a store with a single record, that of a node of
the inner one, a node of the outer one finds that node. -/
theorem inner_node_found :
    let outer := deployedUnder "nodes"
    let inner := deployedUnder "nodes/alpha"
    let store := Store.empty.put "nodes/alpha/alpha/node-b"
      (Utf8.encode (Presence.encodeText ⟨"alpha", "node-b", "10.0.0.2", 7800, 30005⟩))
    (ObjectKey.normalize outer.keyPrefix, outer.cluster) ≠
        (ObjectKey.normalize inner.keyPrefix, inner.cluster) ∧
      store.SharedBy outer inner ∧
      (∀ key data r, store.get? key = some data → ¬outer.Writes key data r) ∧
      (PeerQuery.discover (.ofBackend Store.backend) (.create 0 outer (.text "node-a"))
        (.initial store 5)).1 = .ok [⟨"10.0.0.2", 7800⟩] := by
  intro outer inner store
  have hdiffer : (ObjectKey.normalize outer.keyPrefix, outer.cluster) ≠
      (ObjectKey.normalize inner.keyPrefix, inner.cluster) := by decide
  have hwrites : inner.Writes "nodes/alpha/alpha/node-b"
      (Utf8.encode (Presence.encodeText ⟨"alpha", "node-b", "10.0.0.2", 7800, 30005⟩))
      ⟨"alpha", "node-b", "10.0.0.2", 7800, 30005⟩ := by
    refine ⟨0, .text "node-b", .text "10.0.0.2", .int 7800, _, 5, Announcer.create_eq_ok_iff.2
      ⟨30000, 10000, ?_, ?_, rfl⟩, ?_, ?_⟩
    all_goals decide +kernel
  refine ⟨hdiffer, ?_, ?_, by decide +kernel⟩
  · intro key data hdata
    obtain ⟨rfl, rfl⟩ := Store.get?_put_empty_iff.1 hdata
    exact ⟨_, .inr hwrites⟩
  · intro key data r hdata hother
    obtain ⟨rfl, rfl⟩ := Store.get?_put_empty_iff.1 hdata
    exact not_writes_both hdiffer hother hwrites rfl

end RollCall
