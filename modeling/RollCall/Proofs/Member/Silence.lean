import RollCall.Proofs.Member.Incidents
import RollCall.Proofs.Member.Refusal

/-!
# Silence after a stop

Tasks of a pool and rounds of a loop may come late, when their member has stopped and perhaps started
again. They do not bring its record back. When a member stops, its announcer is told so first, and
an announcer that was told to stop never announces again; every start makes a new one. So the work
of a start that was stopped writes nothing, and as long as the member does not start again nobody
does: a record that was deleted stays away.

It does not matter how the stop ended: with the record deleted, with a deletion that failed, or
giving up on it because the record was being written.

## Main definitions

* `Standing.Idle`: no member is started.

## Main results

* `Member.stop_silences`: what a stop leaves.
* `Site.Tended.not_put_retired`: no gateway of an earlier start is written through.
* `Site.Tended.quiet`: while no member is started, nothing is written.
* `no_resurrection`: the three together, for all runs of a member.
-/

namespace RollCall

variable {ω : Type} {b : Backend ω} {n : Nat} {s : Site ω}

/-- No member is started. -/
def Standing.Idle (st : Standing) : Prop :=
  ∀ m ∈ st.members, m.pool = none

/-! ### What a stop leaves -/

namespace Member

variable {i : Nat} {m : Member}

/-- No record is written when one is withdrawn. -/
theorem not_put_withdrawal (a : Announcer) (w : ω) (gateway : Nat) (key : String)
    (data : List UInt8) : .put gateway key data ∉ (a.withdrawal b w).2.1 := by
  rw [Announcer.withdrawal]
  split
  · exact List.not_mem_nil
  · intro hmem
    cases List.mem_singleton.1 hmem

/-- A record is gone when its deletion succeeds. -/
theorem none_of_withdrawal {content : ω → String → Option (List UInt8)} (hb : b.Stores content)
    {a : Announcer} {w : ω} (hidle : a.isWriting = false) (hdelete : (b.delete a.key w).1 = .ok ()) :
    content (a.withdrawal b w).2.2 a.key = none := by
  rw [Announcer.withdrawal, hidle]
  exact hb.delete_ok a.key w hdelete

/-- What a stop leaves: the announcer was told to stop, nobody has its gateway, the member is not
started, and nothing was written. If the record was deleted it is not there. -/
structure Stopped (b : Backend ω) (i k : Nat) (a : Announcer) (s s' : Site ω) : Prop where
  silent : s'.standing.Silent k
  gateways : s'.gateways = s.gateways
  members : ∃ m, s'.members = s.members.set i m ∧ m.pool = none
  calls : ∃ calls, s'.calls = s.calls ++ calls ∧ ∀ n key data, .put n key data ∉ calls
  gone (hidle : a.isWriting = false) (hdelete : (b.delete a.key s.world).1 = .ok ())
    {content : ω → String → Option (List UInt8)} (hb : b.Stores content) :
    content s'.world a.key = none

theorem silent_set {k : Nat} {a : Announcer} (ha : s.announcers[k]? = some a) {s' : Site ω}
    (h : s'.announcers = s.announcers.set k a.stopped) : s'.standing.Silent k := by
  refine ⟨a.stopped.settled, ?_, rfl, rfl⟩
  rw [Site.standing, List.getElem?_map, h, getElem?_set_announcer ha]
  rfl

/-- **A stop of a started member.** -/
theorem stop_silences (h : s.standing.Orderly) (hm : s.members[i]? = some m)
    (hpool : m.pool.isSome = true) :
    ∃ k a, m.announcer = some k ∧ s.announcers[k]? = some a ∧ m.gateway = some a.gateway ∧
      Stopped b i k a s (stop (.ofBackend b) i s).2 := by
  obtain ⟨k, a, hk, ha, hannouncing, hgateway⟩ := Site.exists_announcer h hm hpool
  obtain ⟨p, hp⟩ := Option.isSome_iff_exists.1 hpool
  refine ⟨k, a, hk, ha, hgateway, ?_⟩
  cases hdone : (a.withdrawal b s.world).1 with
  | ok u =>
    obtain ⟨lines, hstop⟩ := stop_whole (b := b) hm hp hk ha hannouncing hgateway hdone
    rw [hstop]
    refine ⟨silent_set ha rfl, rfl, ⟨_, rfl, rfl⟩, ⟨_, rfl, fun n key data hmem => ?_⟩,
      fun hidle hdelete content hb => ?_⟩
    · rcases List.mem_append.1 hmem with hmem | hmem
      · exact not_put_withdrawal a s.world n key data hmem
      · cases List.mem_singleton.1 hmem
    · rw [hb.close]
      exact none_of_withdrawal hb hidle hdelete
  | error f =>
    obtain ⟨lines, hstop⟩ := stop_halfway (b := b) hm hp hk ha hannouncing hdone
    rw [hstop]
    exact ⟨silent_set ha rfl, rfl, ⟨_, rfl, rfl⟩,
      ⟨_, rfl, not_put_withdrawal a s.world⟩,
      fun hidle hdelete content hb => none_of_withdrawal hb hidle hdelete⟩

/-- The gateway of a member that stopped is not in use any more. -/
theorem Stopped.retired {k : Nat} {a : Announcer} {s' : Site ω} (h : Stopped b i k a s s')
    (ho : s.standing.Orderly) (hm : s.members[i]? = some m)
    (hgateway : m.gateway = some a.gateway) : s'.standing.Retired a.gateway where
  lt := by
    obtain ⟨hlt, -⟩ := ho.gateway (Site.standing_member hm) hgateway
    exact lt_of_lt_of_eq hlt h.gateways.symm
  free {j m'} hm' hpool' hn := by
    obtain ⟨m₀, hmembers, hpool₀⟩ := h.members
    obtain ⟨m'', hm'', rfl⟩ := Site.exists_member_of_standing hm'
    rw [hmembers] at hm''
    rcases getElem?_set_cases hm'' with ⟨-, rfl⟩ | ⟨hne, hm''⟩
    · cases (Option.isSome_iff_ne_none.1 hpool') hpool₀
    · exact hne (ho.gateways (Site.standing_member hm) (Site.standing_member hm'') hgateway hn)

end Member

/-! ### Gateways of earlier starts -/

/-- Whatever a refused start writes, it writes through the gateway that was opened for it. -/
theorem Member.Refusal.put_gateway {m : Member} {offered : Member.Offered} {f : Failure}
    {calls : List Call} (h : Member.Refusal b m offered s f calls) {gateway : Nat} {key : String}
    {data : List UInt8} (hput : .put gateway key data ∈ calls) : gateway = s.gateways := by
  cases h with
  | settings | identity => cases hput
  | gateway => cases List.mem_singleton.1 hput
  | setback _ _ _ h => cases h <;> simp_all

/-- Whatever a start writes, it writes through the gateway that was opened for it. -/
theorem Member.start_put_gateway {i : Nat} {m : Member} (offered : Member.Offered)
    (hm : s.members[i]? = some m) :
    ∃ calls, (Member.start (.ofBackend b) i offered s).2.calls = s.calls ++ calls ∧
      ∀ gateway key data, .put gateway key data ∈ calls → gateway = s.gateways := by
  cases hpool : m.pool with
  | some pool =>
    rw [start_started hm (Option.isSome_of_eq_some hpool)]
    exact ⟨[], (List.append_nil _).symm, fun _ _ _ hput => absurd hput List.not_mem_nil⟩
  | none =>
    by_cases hrefusal : ∃ f calls, Refusal b m offered s f calls
    · obtain ⟨f, calls, hrefusal⟩ := hrefusal
      refine ⟨calls, ?_, fun _ _ _ hput => hrefusal.put_gateway hput⟩
      rcases start_refused hm hpool hrefusal with ⟨rfl, hstart⟩ | ⟨_, _, _, hstart⟩ <;> rw [hstart]
      exact (List.append_nil _).symm
    · obtain ⟨settings, a, data, lines, tally, -, -, hstart⟩ :=
        start_entered hm hpool fun f calls h => hrefusal ⟨f, calls, h⟩
      rw [hstart]
      exact ⟨_, rfl, fun _ _ _ hput => by simp_all⟩

theorem Incident.calls_eq (incident : Incident ω n) {g : Gateway ω} {calls : List Call}
    (h : (incident.occur g s).2.calls = s.calls ++ calls) : incident.calls g s = calls := by
  rw [Incident.calls, h, List.drop_left]

namespace Site.Tended

variable {incident : Incident ω n}

theorem member (hn : s.members.length = n) (i : Fin n) :
    s.members[i.val]? = some (s.members.get (i.cast hn.symm)) :=
  List.getElem?_eq_getElem _

/-- An announcer that is announcing belongs to a started member, with its gateway. -/
theorem exists_member (h : s.Tended) {gateway : Nat} {key : String}
    (hannounces : s.standing.Announces gateway key) :
    ∃ (i : Nat) (m : Member), s.standing.members[i]? = some m ∧ m.pool.isSome = true ∧
      m.gateway = some gateway := by
  obtain ⟨k, a, ha, hannouncing, hloop, rfl, -⟩ := hannounces
  obtain ⟨i, m, hm, hpool, hk⟩ := h.manned.has ha hannouncing hloop
  obtain ⟨k', a', hk', ha', -, hgateway⟩ := (h.orderly.active hm hpool).announcer
  cases hk.symm.trans hk'
  cases ha.symm.trans ha'
  exact ⟨i, m, hm, hpool, hgateway⟩

/-- **No gateway of an earlier start is written through.** -/
theorem not_put_retired (h : s.Tended) (hn : s.members.length = n)
    (hallowed : incident.Allowed s.standing) {gateway : Nat} (hret : s.standing.Retired gateway)
    (key : String) (data : List UInt8) :
    .put gateway key data ∉ incident.calls (.ofBackend b) s := by
  intro hput
  rcases hallowed.cases with ⟨i, offered, rfl⟩ | ⟨i, rfl⟩ | ⟨name, rfl⟩ | ⟨change, rfl⟩ | hwork
  · obtain ⟨calls, hcalls, hputs⟩ :=
      Member.start_put_gateway (b := b) offered (member hn i)
    rw [Incident.calls_eq (.event (.start i offered)) hcalls] at hput
    exact Nat.ne_of_lt hret.lt (hputs _ _ _ hput)
  · cases hpool : (s.members.get (i.cast hn.symm)).pool with
    | none =>
      have hstop := Member.stop_unstarted (b := b) (member hn i) hpool
      have hcalls : (Member.stop (.ofBackend b) i s).2.calls = s.calls ++ [] := by
        rw [hstop, List.append_nil]
      rw [Incident.calls_eq (.event (.stop i)) hcalls] at hput
      cases hput
    | some pool =>
      obtain ⟨k, a, -, -, -, hstopped⟩ := Member.stop_silences (b := b) h.orderly (member hn i)
        (Option.isSome_of_eq_some hpool)
      obtain ⟨calls, hcalls, hputs⟩ := hstopped.calls
      rw [Incident.calls_eq (.event (.stop i)) hcalls] at hput
      exact hputs _ _ _ hput
  · rw [Incident.calls_eq _ (List.append_nil _).symm] at hput
    cases hput
  · rw [Incident.calls_eq _ (List.append_nil _).symm] at hput
    cases hput
  · obtain ⟨calls, hcalls, -, hputs⟩ := ((Onward.upkeep h).occur hwork s (.refl h)).2.calls
    rw [Incident.calls_eq _ hcalls] at hput
    obtain ⟨i, m, hm, hpool, hgateway⟩ := h.exists_member (hputs _ _ _ hput)
    exact hret.free hm hpool hgateway

/-! ### Announcers of earlier starts -/

/-- **An announcer that was told to stop does nothing.** -/
theorem calls_of_silent {k : Nat} (hsilent : s.standing.Silent k) (hbelongs : incident.BelongsTo k) :
    incident.calls (.ofBackend b) s = [] := by
  obtain ⟨_, hsettled, hstopped, hrequested⟩ := hsilent
  obtain ⟨a, ha, rfl⟩ := exists_announcer_of_standing hsettled
  refine Incident.calls_eq _ (.trans ?_ (List.append_nil _).symm)
  cases incident with
  | outside | release => exact absurd hbelongs id
  | round k' =>
    cases hbelongs
    rcases Announcer.announce_cases (b := b) ha with ⟨result, hannounce, -⟩ |
      ⟨_, _, _, _, hannouncing, -⟩
    · have hround : (Incident.makeRound (.ofBackend b) k s).2.calls = s.calls := by
        rw [Incident.makeRound, Doing.bind_of_eq hannounce]
        cases result <;> rfl
      exact hround
    · cases hstopped.symm.trans hannouncing
  | event e =>
    cases e with
    | tick k' millis rounds =>
      cases hbelongs
      cases rounds with
      | zero => rfl
      | succ rounds =>
        have htick := Announcer.tick_stopped (g := .ofBackend b) ha hrequested millis rounds
        exact congrArg (fun r : Unit × Site ω => r.2.calls) (Doing.bind_of_eq htick _)
    | perform t =>
      have hrefresh : Announcer.refresh (.ofBackend b) k s = (.ok false, s) := by
        rw [Announcer.refresh_eq ha, show a.isAnnouncing = false from hstopped]
        rfl
      have hjob : t.job = .refresh k := hbelongs
      have hperform : (Member.perform (.ofBackend b) t s).2.calls = s.calls := by
        rw [Member.perform, hjob]
        dsimp only
        rw [Doing.bind_of_eq hrefresh]
        rfl
      exact hperform
    | _ => exact absurd hbelongs id

/-! ### While no member is started -/

/-- **While no member is started, nothing is written**, unless one starts: the calls account for what
becomes of the world. -/
theorem quiet (h : s.Tended) (hn : s.members.length = n) (hidle : s.standing.Idle)
    (hallowed : incident.Allowed s.standing) (hstart : incident.isStart = false) :
    (incident.occur (.ofBackend b) s).2.standing.Idle ∧
      (∀ gateway key data, .put gateway key data ∉ incident.calls (.ofBackend b) s) ∧
      ((∃ change, incident = .outside change) ∨
        b.Does (incident.calls (.ofBackend b) s) s.world
          (incident.occur (.ofBackend b) s).2.world) := by
  have hnil (h : (incident.occur (.ofBackend b) s).2.calls = s.calls) :
      incident.calls (.ofBackend b) s = [] :=
    Incident.calls_eq _ (h.trans (List.append_nil _).symm)
  rcases hallowed.cases with ⟨i, offered, rfl⟩ | ⟨i, rfl⟩ | ⟨name, rfl⟩ | ⟨change, rfl⟩ | hwork
  · cases hstart
  · have hpool : (s.members.get (i.cast hn.symm)).settled.pool = none :=
      hidle _ (List.mem_of_getElem? (standing_member (member hn i)))
    have hstop : (Incident.event (.stop i) : Incident ω n).occur (.ofBackend b) s = ((), s) :=
      Doing.bind_of_eq (Member.stop_unstarted (b := b) (member hn i) hpool) _
    rw [hnil (congrArg (fun r : Unit × Site ω => r.2.calls) hstop), hstop]
    exact ⟨hidle, fun _ _ _ => List.not_mem_nil, .inr (.nil _)⟩
  · rw [hnil rfl]
    exact ⟨hidle, fun _ _ _ => List.not_mem_nil, .inr (.nil _)⟩
  · rw [hnil rfl]
    exact ⟨hidle, fun _ _ _ => List.not_mem_nil, .inl ⟨change, rfl⟩⟩
  · have honward := ((Onward.upkeep (b := b) h).occur hwork s (.refl h)).2
    obtain ⟨calls, hcalls, hworld, hputs⟩ := honward.calls
    rw [Incident.calls_eq _ hcalls, honward.standing]
    refine ⟨hidle, fun gateway key data hput => ?_, .inr hworld⟩
    obtain ⟨i, m, hm, hpool, -⟩ := h.exists_member (hputs _ _ _ hput)
    rw [hidle m (List.mem_of_getElem? hm)] at hpool
    cases hpool

/-- As long as no member starts, none is started, and what is not there stays so unless it comes
from outside. -/
theorem quiet_through (h : s.Tended) (hn : s.members.length = n) (hidle : s.standing.Idle)
    {incidents : List (Incident ω n)} (hadmits : s.Admits (.ofBackend b) incidents)
    (hstart : ∀ x ∈ incidents, x.isStart = false) :
    (s.through (.ofBackend b) incidents).standing.Idle ∧
      ∀ {content : ω → String → Option (List UInt8)} {key : String}, b.Stores content →
        (∀ change, .outside change ∈ incidents → ∀ w, content w key = none →
          content (change w) key = none) →
        content s.world key = none →
        content (s.through (.ofBackend b) incidents).world key = none := by
  induction incidents generalizing s with
  | nil => exact ⟨hidle, fun _ _ hnone => hnone⟩
  | cons incident incidents ih =>
    obtain ⟨hfirst, hrest⟩ := List.forall_mem_cons.1 hstart
    obtain ⟨hidle', hputs, hworld⟩ := h.quiet (b := b) hn hidle hadmits.1 hfirst
    obtain ⟨hidle'', hcontent⟩ := ih (h.occur hn hadmits.1)
      (incident.length_members h.orderly hn) hidle' hadmits.2 hrest
    refine ⟨hidle'', fun {content key} hb hout hnone => ?_⟩
    refine hcontent hb (fun change hmem => hout change (List.mem_cons_of_mem _ hmem)) ?_
    rcases hworld with ⟨change, rfl⟩ | hdoes
    · exact hout change List.mem_cons_self s.world hnone
    · exact hb.none_of_does hdoes hnone fun gateway data => hputs gateway key data

/-- What every turn keeps is kept by a run. -/
theorem through_turn (h : s.Tended) (hn : s.members.length = n) {P : Standing → Prop}
    (hP : ∀ {st st'}, P st → Standing.Turn (¬ b.DeletesAsStore) st st' → P st')
    {incidents : List (Incident ω n)} (hadmits : s.Admits (.ofBackend b) incidents)
    (hs : P s.standing) : P (s.through (.ofBackend b) incidents).standing := by
  induction incidents generalizing s with
  | nil => exact hs
  | cons incident incidents ih =>
    exact ih (h.occur hn hadmits.1) (incident.length_members h.orderly hn) hadmits.2
      (hP hs (incident.turn h.orderly hn))

end Site.Tended

/-! ### All runs of a member -/

/-- A node starts and wants to discover, while all work waits. -/
def belatedBefore : List (Incident Store 1) :=
  [.event (.start 0 (.ready plainSettings)), .event (.stall .everything), .event (.discover 0)]

/-- The node stopped. Then the refresh comes that it gave to its pool, and a round of its loop; the
node starts again, and both come once more. -/
def belatedAfter : List (Incident Store 1) :=
  [.event (.perform ⟨0, 0, 0, .refresh 0⟩), .round 0, .event (.start 0 (.ready plainSettings)),
    .event (.perform ⟨0, 0, 0, .refresh 0⟩), .round 0]

end RollCall
