import RollCall.Proofs.Member.Visibility

/-!
# Started members and their announcers

Whatever happens at a site with several members, over any backend, a started member has the
announcer and the query that it made when it started, with its settings and with its own name, host
and TCP port. The announcer could make its record then, so the three are of the types that a record
has: they name a node and an address.

## Main definitions

* `Standing.Staffed`: every started member has what it made.

## Main results

* `Staffed.turn`: every turn keeps a standing staffed.
* `Site.staffed_through`: every run does.
* `Standing.Employs.exists_address`: a started member has a name and an address.
-/

namespace RollCall

variable {ω : Type} {b : Backend ω} {n : Nat} {s : Site ω}

namespace Standing

variable {st st' : Standing} {mayHalt : Prop} {i k : Nat} {m m' : Member} {a : Announcer}

/-- Every started member has the announcer that it made with its settings. -/
def Staffed (st : Standing) : Prop :=
  ∀ ⦃i : Nat⦄ ⦃m : Member⦄, st.members[i]? = some m → m.pool.isSome = true →
    ∃ k a, st.Employs m k a

/-- A member keeps its announcer where announcers are kept. -/
theorem Employs.of_announcers (h : st.Employs m k a)
    (hkept : ∀ {a'}, st.announcers[k]? = some a' → st'.announcers[k]? = some a') :
    st'.Employs m k a :=
  { h with begun := hkept h.begun }

namespace Staffed

/-- Nobody loses an announcer when more are made. -/
theorem append (h : st.Staffed) (made : List Announcer) {j : Nat}
    (hm : st.members[j]? = some m) (hpool : m.pool.isSome = true)
    (hannouncers : st'.announcers = st.announcers ++ made) : ∃ k a, st'.Employs m k a := by
  obtain ⟨k, a, hemploys⟩ := h hm hpool
  refine ⟨k, a, hemploys.of_announcers fun ha => ?_⟩
  rw [hannouncers]
  exact getElem?_append_of_eq_some ha made

/-- A member that lets go of its pool takes no announcer from the others. -/
theorem released (h : st.Staffed) (ho : st.Orderly) (hm : st.members[i]? = some m)
    (hk : m.announcer = some k) {left : Member} (hleft : left.pool = none)
    (hmembers : st'.members = st.members.set i left)
    (hannouncers : st'.announcers = st.announcers.set k a) : st'.Staffed := by
  intro j m' hm' hpool'
  rw [hmembers] at hm'
  rcases getElem?_set_cases hm' with ⟨-, rfl⟩ | ⟨hne, hm'⟩
  · rw [hleft] at hpool'
    cases hpool'
  · obtain ⟨k', a', hemploys⟩ := h hm' hpool'
    refine ⟨k', a', hemploys.of_announcers fun ha => ?_⟩
    rw [hannouncers]
    exact ho.getElem?_set_announcer_of_ne hm hk hne hm' hemploys.announcer ha

/-- **Every turn keeps a standing staffed.** -/
theorem turn (h : st.Staffed) (ho : st.Orderly) (hturn : Turn mayHalt st st') : st'.Staffed := by
  cases hturn with
  | steady => exact h
  | handler name =>
    intro j m' hm' hpool'
    obtain ⟨k, a, hemploys⟩ := h hm' hpool'
    exact ⟨k, a, hemploys.of_announcers id⟩
  | refused => exact fun j m' hm' hpool' => h.append _ hm' hpool' rfl
  | @started i m a hm hpool settings pool hmade hgateway =>
    intro j m' hm' hpool'
    rcases getElem?_set_cases hm' with ⟨-, rfl⟩ | ⟨-, hm'⟩
    · obtain ⟨ttl, interval, -, -, hcreate⟩ := Announcer.create_eq_ok_iff.1 hmade.create
      have hsettings : a.settings = settings := congrArg Announcer.settings hcreate
      have hquery : PeerQuery.create st.gateways settings m.node =
          .create a.gateway a.settings m.node := by rw [hgateway, hsettings]
      refine ⟨st.announcers.length, a, rfl, congrArg some hsettings.symm, congrArg some hquery, ?_,
        List.getElem?_concat_length, hmade.body⟩
      rw [hsettings]
      exact hmade.create
    · exact h.append _ hm' hpool' rfl
  | stopped hm hk _ => exact h.released ho hm hk rfl rfl rfl
  | halted _ hm hk => exact h.released ho hm hk rfl rfl rfl

end Staffed

/-- A started member has a name and an address, and looks for others under another key than that of
its record. -/
theorem Employs.exists_address (h : st.Employs m k a) :
    ∃ name own, m.node = .text name ∧ m.address = .ok own ∧ m.host = .text own.host ∧
      m.port = .int own.port ∧
      m.query = some (.create a.gateway a.settings (.text name)) ∧
      (PeerQuery.create a.gateway a.settings (.text name)).ownKey = a.key := by
  obtain ⟨t, r, data, hbody⟩ := h.body
  have hr : a.IsRecord t r := (Announcer.decode_of_body hbody none).1
  obtain ⟨ttl, interval, -, -, hcreate⟩ := Announcer.create_eq_ok_iff.1 h.create
  have hnode : .text r.node = m.node := hr.node.trans (congrArg Announcer.node hcreate)
  have hhost : .text r.host = m.host := hr.host.trans (congrArg Announcer.host hcreate)
  have hport : .int r.port = m.port := hr.port.trans (congrArg Announcer.port hcreate)
  have haddress : m.address = .ok r.address := by
    rw [Member.address, ← hhost, ← hport]
    rfl
  refine ⟨r.node, r.address, hnode.symm, haddress, hhost.symm, hport.symm, ?_, ?_⟩
  · rw [hnode]
    exact h.query
  · rw [hnode]
    exact (Announcer.key_of_create h.create).symm

end Standing

namespace Site

/-- **Every run keeps the site staffed**, and orderly. -/
theorem staffed_through (ho : s.standing.Orderly) (h : s.standing.Staffed)
    (hn : s.members.length = n) (incidents : List (Incident ω n)) :
    (s.through (.ofBackend b) incidents).standing.Staffed := by
  induction incidents generalizing s with
  | nil => exact h
  | cons incident incidents ih =>
    have hturn := incident.turn (b := b) ho hn
    exact ih (ho.turn hturn) (h.turn ho hturn) (incident.length_members ho hn)

/-- Before the first start there is nobody to be staffed. -/
theorem staffed_assembled (world : ω) (now : Int) (crew : List (Value × Value × Value)) :
    (assembled world now crew).standing.Staffed := by
  intro i m hm hpool
  obtain ⟨node, host, port, rfl⟩ := exists_create_of_assembled hm
  cases hpool

/-- What a started member made, at the end of a run from the beginning. -/
theorem exists_employs_of_run (b : Backend ω) (world : ω) (now : Int)
    (crew : List (Value × Value × Value)) (incidents : List (Incident ω crew.length)) {i : Nat}
    {m : Member}
    (hm : ((assembled world now crew).through (.ofBackend b) incidents).members[i]? = some m)
    (hpool : m.pool.isSome = true) :
    ∃ k a, ((assembled world now crew).through (.ofBackend b) incidents).standing.Employs
      m.settled k a :=
  staffed_through orderly_assembled (staffed_assembled world now crew) (List.length_map _) incidents
    (standing_member hm) hpool

end Site

end RollCall
