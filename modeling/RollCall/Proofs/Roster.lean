import Mathlib.Data.List.Count
import RollCall.Proofs.Address
import RollCall.Proofs.Announcer.Renewal
import RollCall.Proofs.Member.Employment
import RollCall.Proofs.PeerQuery.Cleanup
import RollCall.Roster

/-!
# What a member sees of itself

A member that looks for its peers first renews its own record and then leaves out the record under
its own key, and every record with its own name. It does not compare addresses. So its own address
is among those of its peers exactly if another node's record carries it, as the record does that was
left behind when the process ran before under another name. A roster that includes the member then
names its address twice.

## Main definitions

* `Member.Renews`: what renewing a record leaves as it was.

## Main results

* `Member.discover_answered`, `Member.discover_held`: what becomes of looking for peers.
* `own_address_found_iff`: when a member finds its own address.
-/

namespace RollCall

open PeerQuery (FreshestIn)

/-- Only contents under other keys than the own one decide which record is the freshest. -/
theorem PeerQuery.FreshestIn.of_get {q : PeerQuery} {now : Int} {store store' : Store}
    (hsame : ∀ key ≠ q.ownKey, store'.get? key = store.get? key) {key : String} {r : Presence}
    (h : FreshestIn q now store key r) : FreshestIn q now store' key r := by
  have hget {key : String} (hkey : key ≠ q.ownKey) : store'.get key = store.get key := by
    rw [Store.get, Store.get, hsame key hkey]
  refine ⟨h.listed, ?_, fun key' r' hlisted hr' hne hnode => ?_⟩
  · rw [hget h.eligible.key]
    exact h.eligible
  · rw [hget hr'.key] at hr'
    exact h.first key' r' hlisted hr' hne hnode

namespace Member

variable {s s' : Site Store} {i k p : Nat} {m : Member} {a : Announcer} {q : PeerQuery}
  {settings : Settings}

/-- What renewing the record under a key leaves as it was: the clock, what waits, and all that is
stored under other keys. -/
structure Renews (key : String) (s s' : Site Store) : Prop where
  now : s'.now = s.now
  stall : s'.stall = s.stall
  world (key' : String) (hne : key' ≠ key) : s'.world.get? key' = s.world.get? key'

theorem renews_refresh (ha : s.announcers[k]? = some a) :
    Renews a.key s (Announcer.refresh (.ofBackend Store.backend) k s).2 := by
  rw [Announcer.refresh_eq ha]
  split
  · rcases Announcer.announce_cases (b := Store.backend) ha with ⟨result, hannounce, -⟩ |
      ⟨r, data, lines, tally, -, -, hannounce⟩
    · rw [hannounce]
      exact ⟨rfl, rfl, fun _ _ => rfl⟩
    · rw [hannounce]
      exact ⟨rfl, rfl, fun key' hne => (Store.get?_put s.world a.key key' data).trans (if_neg hne)⟩
  · exact ⟨rfl, rfl, fun _ _ => rfl⟩

/-- The task to renew a record, whether it waits or not, changes no other. -/
theorem renews_submitRefresh (ha : s.announcers[k]? = some a) :
    Renews a.key s (submitRefresh (.ofBackend Store.backend) i p k s).2 := by
  obtain ⟨result, s', hrefresh⟩ : ∃ result s',
    Announcer.refresh (.ofBackend Store.backend) k s = (result, s') := ⟨_, _, rfl⟩
  have hrenews : Renews a.key s s' := by
    have h := renews_refresh ha
    rwa [hrefresh] at h
  rw [submitRefresh, Doing.bind_of_eq (m := get) (s := s) rfl]
  split
  · exact ⟨rfl, rfl, fun _ _ => rfl⟩
  · rw [Doing.bind_of_eq hrefresh]
    cases result with
    | ok written => exact hrenews
    | error f => exact ⟨hrenews.now, hrenews.stall, hrenews.world⟩

section

variable (hm : s.members[i]? = some m) (hpool : m.pool = some p) (hk : m.announcer = some k)
  (hquery : m.query = some q) (hsettings : m.settings = some settings)
include hm hpool hk hquery hsettings

/-- Looking for peers, for a started member. -/
theorem discover_eq (g : Gateway Store) :
    discover g i s = (do
      submitRefresh g i p k
      match ← submitQuery g i p q with
      | some r => return r
      | none =>
        Site.say .error (overdueText settings)
        return .error (.discovery (overdueText settings ++ ".")) :
          Doing Store (Except Failure (List Address))) s := by
  cases m
  cases hpool; cases hk; cases hquery; cases hsettings
  exact Doing.bind_of_eq (Site.member_of_getElem? hm) _

/-- **A query that waits** is not answered. -/
theorem discover_held (ha : s.announcers[k]? = some a) (hstall : s.stall.holds (.query q) = true) :
    ∃ f s', discover (.ofBackend Store.backend) i s = (.error f, s') := by
  obtain ⟨s₁, hsubmit⟩ : ∃ s₁, submitRefresh (.ofBackend Store.backend) i p k s = ((), s₁) :=
    ⟨_, rfl⟩
  have hrenews := renews_submitRefresh (i := i) (p := p) ha
  rw [hsubmit] at hrenews
  have hheld : s₁.stall.holds (.query q) = true := hrenews.stall ▸ hstall
  have hwaits : ∃ s₂, submitQuery (.ofBackend Store.backend) i p q s₁ = (none, s₂) := by
    rw [submitQuery, Doing.bind_of_eq (m := get) (s := s₁) rfl, if_pos hheld]
    exact ⟨_, rfl⟩
  obtain ⟨s₂, hwaits⟩ := hwaits
  rw [discover_eq hm hpool hk hquery hsettings, Doing.bind_of_eq hsubmit, Doing.bind_of_eq hwaits]
  exact ⟨_, _, rfl⟩

/-- **A query that does not wait** is answered from what is stored under other keys than the own
one. -/
theorem discover_answered (ha : s.announcers[k]? = some a) (hkey : q.ownKey = a.key)
    (hstall : s.stall.holds (.query q) = false) :
    ∃ peers s', discover (.ofBackend Store.backend) i s = (.ok peers, s') ∧ peers.Nodup ∧
      ∀ address, address ∈ peers ↔
        ∃ key r, FreshestIn q s.now s.world key r ∧ r.address = address := by
  obtain ⟨s₁, hsubmit⟩ : ∃ s₁, submitRefresh (.ofBackend Store.backend) i p k s = ((), s₁) :=
    ⟨_, rfl⟩
  have hrenews := renews_submitRefresh (i := i) (p := p) ha
  rw [hsubmit, ← hkey] at hrenews
  have hgoes : s₁.stall.holds (.query q) = false := hrenews.stall ▸ hstall
  obtain ⟨calls, lines, tally, hdiscover, -⟩ := PeerQuery.discover_store q s₁
  have hanswer := PeerQuery.nodup_answer (PeerQuery.Sightings.none.gather q s₁.now
    (PeerQuery.occurrencesIn s₁.world (s₁.world.list q.clusterPrefix)))
  rw [discover_eq hm hpool hk hquery hsettings, Doing.bind_of_eq hsubmit]
  have hsubmitted : submitQuery (.ofBackend Store.backend) i p q s₁ =
      (some (q.discover (.ofBackend Store.backend) s₁).1,
        (q.discover (.ofBackend Store.backend) s₁).2) := by
    rw [submitQuery, Doing.bind_of_eq (m := get) (s := s₁) rfl, if_neg (by simp [hgoes])]
    rfl
  rw [Doing.bind_of_eq hsubmitted, hdiscover]
  refine ⟨_, _, rfl, hanswer, fun address => ?_⟩
  rw [PeerQuery.mem_answer_store, hrenews.now]
  constructor
  · rintro ⟨key, r, hfreshest, haddress⟩
    exact ⟨key, r, hfreshest.of_get fun key hne => (hrenews.world key hne).symm, haddress⟩
  · rintro ⟨key, r, hfreshest, haddress⟩
    exact ⟨key, r, hfreshest.of_get hrenews.world, haddress⟩

end

end Member

/-! ### Rosters -/

namespace Roster

variable {s s' : Site Store} {i : Nat} {m : Member} {own : Address} {peers : List Address}

/-- A roster that includes its member names its peers and then the member. -/
theorem nodes_eq (hm : s.members[i]? = some m) (haddress : m.address = .ok own)
    (hdiscover : Member.discover (.ofBackend Store.backend) i s = (.ok peers, s')) :
    nodes (.ofBackend Store.backend) ⟨i, true⟩ s =
      (.ok (peers.map Address.text ++ [own.text]), s') := by
  have hstanding : s'.standing = s.standing := by
    have h := Member.isSteady_discover Store.backend i s
    rwa [hdiscover] at h
  -- Discovering changes no more of a member than its pending tasks.
  obtain ⟨m', hm', hsettled⟩ :=
    Site.exists_member_of_standing (s := s') (hstanding ▸ Site.standing_member hm)
  have haddress' : m'.address = .ok own := by
    have hsame : m'.settled.address = m.settled.address := congrArg Member.address hsettled
    exact hsame.trans haddress
  have hself : self ⟨i, true⟩ s' = (.ok own.text, s') := by
    rw [self, Doing.bind_of_eq (Site.member_of_getElem? hm'), haddress']
    rfl
  rw [nodes, Doing.bind_of_eq hdiscover]
  dsimp only
  rw [if_pos rfl, Doing.bind_of_eq hself]
  rfl

/-- How often the text of an address is among the texts of some addresses. -/
theorem count_text (hpeers : peers.Nodup) (own : Address) :
    (peers.map Address.text ++ [own.text]).count own.text = if own ∈ peers then 2 else 1 := by
  rw [List.count_append, List.count_map_of_injective _ _ Address.text_injective,
    List.count_singleton_self]
  split
  · next h => rw [List.count_eq_one_of_mem hpeers h]
  · next h => rw [List.count_eq_zero_of_not_mem h]

end Roster

/-- A store with the record that a process left behind which ran under another name. -/
def leftBehind (expires : Int) : Store :=
  Store.empty.put "p/c/earlier"
    (Utf8.encode (Presence.encodeText ⟨"c", "earlier", "h", 7, expires⟩))

/-- The start of the same process under a new name. -/
def comingBack : List (Incident Store 1) :=
  [.event (.start ⟨0, Nat.one_pos⟩ (.ready plainSettings))]

/-- What that start leaves, over some store. -/
def cameBack (store : Store) : Site Store :=
  { (Site.assembled Store.empty 5 [(.text "x", .text "h", .int 7)]).through
      (.ofBackend Store.backend) comingBack with world := store }

end RollCall
