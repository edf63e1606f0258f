import RollCall.Proofs.Logging.Board
import RollCall.Proofs.Member.Stopping

/-!
# Orderly standings

Whatever comes of starts and stops, a site stays *orderly*: a started member has all that it needs,
no two members share a gateway or an announcer, and no gateway is closed twice or while a member has
it. As long as no member stops half way, the site is also *swept*: a member that is not started has
nothing, and every gateway that no member has is closed.

The four things that starting and stopping may do to a standing are a start that is refused, a
start, a stop, and a stop half way.

## Main definitions

* `Standing.Active`: a member has all that a started member needs.
* `Standing.Orderly`, `Standing.Swept`: the invariants.
* `Standing.refused`, `started`, `stopped`, `halted`: what starting and stopping do.

## Main results

* `Orderly.refused`, `Orderly.started`, `Orderly.stopped`, `Orderly.halted`: all four keep a
  standing orderly.
* `Swept.refused`, `Swept.started`, `Swept.stopped`: all but the last keep it swept.
-/

namespace RollCall

/-- What an item of a list may be when another item has been set. -/
theorem getElem?_set_cases {α : Type} {l : List α} {i j : Nat} {x y : α}
    (h : (l.set i x)[j]? = some y) : i = j ∧ y = x ∨ i ≠ j ∧ l[j]? = some y := by
  rw [List.getElem?_set] at h
  split at h
  · next hij =>
    split at h
    · exact .inl ⟨hij, (Option.some.inj h).symm⟩
    · cases h
  · next hij => exact .inr ⟨hij, h⟩

/-- What an item of a list is stays when the list grows. -/
theorem getElem?_append_of_eq_some {α : Type} {l : List α} {i : Nat} {x : α} (h : l[i]? = some x)
    (l' : List α) : (l ++ l')[i]? = some x :=
  (List.getElem?_append_left (List.getElem?_eq_some_iff.1 h).1).trans h

/-- No two items of a list have the same number. -/
def Distinct {α : Type} (number : α → Option Nat) (l : List α) : Prop :=
  ∀ ⦃i j n : Nat⦄ ⦃x y : α⦄, l[i]? = some x → l[j]? = some y → number x = some n →
    number y = some n → i = j

/-- Numbers stay distinct if an item is set whose number no other item has. -/
theorem Distinct.set {α : Type} {number : α → Option Nat} {l : List α} (h : Distinct number l)
    {i : Nat} {x : α}
    (hx : ∀ ⦃j n y⦄, number x = some n → i ≠ j → l[j]? = some y → number y ≠ some n) :
    Distinct number (l.set i x) := by
  intro j j' n y y' hy hy' hn hn'
  rcases getElem?_set_cases hy with ⟨hj, rfl⟩ | ⟨hne, hy⟩ <;>
    rcases getElem?_set_cases hy' with ⟨hj', heq⟩ | ⟨hne', hy'⟩
  · exact hj.symm.trans hj'
  · exact absurd hn' (hx hn hne' hy')
  · exact absurd hn (hx (heq ▸ hn') hne hy)
  · exact h hy hy' hn hn'

namespace Standing

variable {st st' : Standing} {i j k n : Nat} {m m' : Member} {a : Announcer}

/-! ### Invariants -/

/-- A member has all that a started member needs: settings, a query, an announcer that is
announcing, the gateway of this announcer, and its filter. -/
structure Active (st : Standing) (i : Nat) (m : Member) : Prop where
  settings : m.settings.isSome = true
  query : m.query.isSome = true
  announcer : ∃ k a, m.announcer = some k ∧ st.announcers[k]? = some a ∧ a.isAnnouncing = true ∧
    m.gateway = some a.gateway
  installed : st.board.isInstalled i = true

/-- An orderly standing, in which members may have stopped half way. -/
structure Orderly (st : Standing) : Prop where
  /-- Filters hang where they were installed. -/
  tidy : st.board.Tidy
  /-- A started member has all that it needs. -/
  active {i : Nat} {m : Member} (hm : st.members[i]? = some m) (hpool : m.pool.isSome = true) :
    st.Active i m
  /-- The gateway of a member was opened and is not closed. -/
  gateway {i n : Nat} {m : Member} (hm : st.members[i]? = some m) (hn : m.gateway = some n) :
    n < st.gateways ∧ n ∉ st.closed
  /-- The announcer of a member is one of those there are. -/
  announcer {i k : Nat} {m : Member} (hm : st.members[i]? = some m) (hk : m.announcer = some k) :
    k < st.announcers.length
  /-- No two members share a gateway. -/
  gateways : Distinct Member.gateway st.members
  /-- No two members share an announcer. -/
  announcers : Distinct Member.announcer st.members
  /-- Only gateways that were opened are closed. -/
  closed_lt {n : Nat} (hn : n ∈ st.closed) : n < st.gateways
  /-- No gateway is closed twice. -/
  closed_nodup : st.closed.Nodup

/-- A standing in which no member has stopped half way. -/
structure Swept (st : Standing) : Prop where
  /-- A member that is not started has nothing. -/
  idle {i : Nat} {m : Member} (hm : st.members[i]? = some m) (hpool : m.pool = none) :
    m.gateway = none ∧ m.announcer = none ∧ m.query = none ∧ st.board.isInstalled i = false
  /-- A gateway that is open is the gateway of a member. -/
  held {n : Nat} (hn : n < st.gateways) (hopen : n ∉ st.closed) :
    ∃ (i : Nat) (m : Member), st.members[i]? = some m ∧ m.gateway = some n

/-- What a member needs stays if its announcer and its filter do. -/
theorem Active.of_eq (h : st.Active i m)
    (hannouncers : ∀ {k a}, m.announcer = some k → st.announcers[k]? = some a →
      st'.announcers[k]? = some a)
    (hboard : st.board.isInstalled i = true → st'.board.isInstalled i = true) : st'.Active i m := by
  obtain ⟨k, a, hk, ha, hannouncing, hgateway⟩ := h.announcer
  exact ⟨h.settings, h.query, ⟨k, a, hk, hannouncers hk ha, hannouncing, hgateway⟩,
    hboard h.installed⟩

/-! ### What starting and stopping do -/

/-- After a start that was refused: announcers may have been made, and gateways opened and
closed. -/
def refused (st : Standing) (i : Nat) (made : List Announcer) (closed : List Nat) : Standing :=
  { st with
    announcers := st.announcers ++ made
    gateways := st.gateways + closed.length
    closed := st.closed ++ closed
    board := (st.board.install i).remove i }

/-- After a start. -/
def started (st : Standing) (i : Nat) (m : Member) (settings : Settings) (pool : Nat)
    (a : Announcer) : Standing :=
  { st with
    members := st.members.set i (m.started settings st.gateways st.announcers.length pool)
    announcers := st.announcers ++ [a]
    gateways := st.gateways + 1
    board := st.board.install i }

/-- After a stop. -/
def stopped (st : Standing) (i k n : Nat) (m : Member) (a : Announcer) : Standing :=
  { st with
    members := st.members.set i m.stopped
    announcers := st.announcers.set k a.stopped
    closed := st.closed ++ [n]
    board := st.board.remove i }

/-- After a stop half way. -/
def halted (st : Standing) (i k : Nat) (m : Member) (a : Announcer) : Standing :=
  { st with
    members := st.members.set i m.halted
    announcers := st.announcers.set k a.stopped }

/-! ### Orderly standings stay orderly -/

namespace Orderly

/-- The gateways that a refused start opened are closed. -/
theorem nodup_append_closed (h : st.Orderly) {closed : List Nat}
    (hclosed : closed = [] ∨ closed = [st.gateways]) : (st.closed ++ closed).Nodup := by
  rcases hclosed with rfl | rfl
  · rw [List.append_nil]
    exact h.closed_nodup
  · rw [← List.concat_eq_append]
    exact h.closed_nodup.concat fun hmem => Nat.lt_irrefl _ (h.closed_lt hmem)

theorem refused (h : st.Orderly) (hm : st.members[i]? = some m) (hpool : m.pool = none)
    (made : List Announcer) {closed : List Nat} (hclosed : closed = [] ∨ closed = [st.gateways]) :
    (st.refused i made closed).Orderly where
  tidy := (h.tidy.install i).remove i
  active {j m'} hm' hpool' := by
    have hne : j ≠ i := by
      rintro rfl
      cases hm.symm.trans hm'
      rw [hpool] at hpool'
      cases hpool'
    exact (h.active hm' hpool').of_eq (fun _ ha => getElem?_append_of_eq_some ha made)
      fun hinstalled => Logging.Board.isInstalled_remove.2
        ⟨hne, Logging.Board.isInstalled_install.2 (.inr hinstalled)⟩
  gateway {j n m'} hm' hn := by
    obtain ⟨hlt, hopen⟩ := h.gateway hm' hn
    refine ⟨Nat.lt_add_right _ hlt, fun hmem => ?_⟩
    rcases List.mem_append.1 hmem with hmem | hmem
    · exact hopen hmem
    · rcases hclosed with rfl | rfl
      · cases hmem
      · exact Nat.ne_of_lt hlt (List.mem_singleton.1 hmem)
  announcer hm' hk := by
    rw [Standing.refused, List.length_append]
    exact Nat.lt_add_right _ (h.announcer hm' hk)
  gateways := h.gateways
  announcers := h.announcers
  closed_lt {n} hn := by
    rcases List.mem_append.1 hn with hn | hn
    · exact Nat.lt_add_right _ (h.closed_lt hn)
    · rcases hclosed with rfl | rfl
      · cases hn
      · cases List.mem_singleton.1 hn
        exact Nat.lt_succ_self _
  closed_nodup := h.nodup_append_closed hclosed

theorem started (h : st.Orderly) (settings : Settings) (pool : Nat)
    (hannouncing : a.isAnnouncing = true) (hgateway : a.gateway = st.gateways) :
    (st.started i m settings pool a).Orderly where
  tidy := h.tidy.install i
  active {j m'} hm' hpool' := by
    rcases getElem?_set_cases hm' with ⟨rfl, rfl⟩ | ⟨hne, hm'⟩
    · exact ⟨rfl, rfl, ⟨_, a, rfl, List.getElem?_concat_length, hannouncing,
        congrArg some hgateway.symm⟩, Logging.Board.isInstalled_install.2 (.inl rfl)⟩
    · exact (h.active hm' hpool').of_eq (fun _ ha => getElem?_append_of_eq_some ha [a])
        fun hinstalled => Logging.Board.isInstalled_install.2 (.inr hinstalled)
  gateway {j n m'} hm' hn := by
    rcases getElem?_set_cases hm' with ⟨rfl, rfl⟩ | ⟨hne, hm'⟩
    · cases hn
      exact ⟨Nat.lt_succ_self _, fun hmem => Nat.lt_irrefl _ (h.closed_lt hmem)⟩
    · exact (h.gateway hm' hn).imp_left (Nat.lt_add_right 1)
  announcer {j k m'} hm' hk := by
    rw [Standing.started, List.length_append]
    rcases getElem?_set_cases hm' with ⟨rfl, rfl⟩ | ⟨hne, hm'⟩
    · cases hk
      exact Nat.lt_succ_self _
    · exact Nat.lt_add_right _ (h.announcer hm' hk)
  gateways := h.gateways.set fun _ _ _ hn _ hm' hn' => by
    cases hn
    exact Nat.lt_irrefl _ (h.gateway hm' hn').1
  announcers := h.announcers.set fun _ _ _ hk _ hm' hk' => by
    cases hk
    exact Nat.lt_irrefl _ (h.announcer hm' hk')
  closed_lt hn := Nat.lt_add_right 1 (h.closed_lt hn)
  closed_nodup := h.closed_nodup

section

variable (hm : st.members[i]? = some m) (hk : m.announcer = some k)
include hm hk

/-- Stopping an announcer leaves those of the other members as they are. -/
theorem getElem?_set_announcer_of_ne (h : st.Orderly) {a' : Announcer}
    (hne : i ≠ j) (hm' : st.members[j]? = some m') {k' : Nat} (hk' : m'.announcer = some k')
    (ha : st.announcers[k']? = some a) : (st.announcers.set k a')[k']? = some a := by
  have hkk' : k ≠ k' := by
    rintro rfl
    exact hne (h.announcers hm hm' hk hk')
  rw [List.getElem?_set_ne hkk']
  exact ha

theorem halted (h : st.Orderly) : (st.halted i k m a).Orderly where
  tidy := h.tidy
  active {j m'} hm' hpool' := by
    rcases getElem?_set_cases hm' with ⟨rfl, rfl⟩ | ⟨hne, hm'⟩
    · cases hpool'
    · exact (h.active hm' hpool').of_eq (h.getElem?_set_announcer_of_ne hm hk hne hm') id
  gateway {j n m'} hm' hn := by
    rcases getElem?_set_cases hm' with ⟨rfl, rfl⟩ | ⟨hne, hm'⟩
    · exact h.gateway hm hn
    · exact h.gateway hm' hn
  announcer {j k' m'} hm' hk' := by
    rw [Standing.halted, List.length_set]
    rcases getElem?_set_cases hm' with ⟨rfl, rfl⟩ | ⟨hne, hm'⟩
    · exact h.announcer hm hk'
    · exact h.announcer hm' hk'
  gateways := h.gateways.set fun _ _ _ hn hne hm' hn' => hne (h.gateways hm hm' hn hn')
  announcers := h.announcers.set fun _ _ _ hk hne hm' hk' => hne (h.announcers hm hm' hk hk')
  closed_lt := h.closed_lt
  closed_nodup := h.closed_nodup

theorem stopped (h : st.Orderly) (hn : m.gateway = some n) :
    (st.stopped i k n m a).Orderly where
  tidy := h.tidy.remove i
  active {j m'} hm' hpool' := by
    rcases getElem?_set_cases hm' with ⟨rfl, rfl⟩ | ⟨hne, hm'⟩
    · cases hpool'
    · exact (h.active hm' hpool').of_eq (h.getElem?_set_announcer_of_ne hm hk hne hm') fun hi =>
        Logging.Board.isInstalled_remove.2 ⟨hne.symm, hi⟩
  gateway {j n' m'} hm' hn' := by
    rcases getElem?_set_cases hm' with ⟨rfl, rfl⟩ | ⟨hne, hm'⟩
    · cases hn'
    · obtain ⟨hlt, hopen⟩ := h.gateway hm' hn'
      refine ⟨hlt, fun hmem => ?_⟩
      rcases List.mem_append.1 hmem with hmem | hmem
      · exact hopen hmem
      · cases List.mem_singleton.1 hmem
        exact hne (h.gateways hm hm' hn hn')
  announcer {j k' m'} hm' hk' := by
    rw [Standing.stopped, List.length_set]
    rcases getElem?_set_cases hm' with ⟨rfl, rfl⟩ | ⟨hne, hm'⟩
    · cases hk'
    · exact h.announcer hm' hk'
  gateways := h.gateways.set fun _ _ _ hn => by cases hn
  announcers := h.announcers.set fun _ _ _ hk => by cases hk
  closed_lt {n'} hn' := by
    rcases List.mem_append.1 hn' with hn' | hn'
    · exact h.closed_lt hn'
    · cases List.mem_singleton.1 hn'
      exact (h.gateway hm hn).1
  closed_nodup := by
    rw [Standing.stopped, ← List.concat_eq_append]
    exact h.closed_nodup.concat (h.gateway hm hn).2

end

end Orderly

/-! ### Swept standings stay swept -/

namespace Swept

theorem refused (h : st.Swept) (ho : st.Orderly) (hm : st.members[i]? = some m)
    (hpool : m.pool = none) (made : List Announcer) {closed : List Nat}
    (hclosed : closed = [] ∨ closed = [st.gateways]) : (st.refused i made closed).Swept where
  idle {j m'} hm' hpool' := by
    obtain ⟨hgateway, hannouncer, hquery, hboard⟩ := h.idle hm' hpool'
    refine ⟨hgateway, hannouncer, hquery, ?_⟩
    rw [Standing.refused, ho.tidy.remove_install (h.idle hm hpool).2.2.2]
    exact hboard
  held {n} hn hopen := by
    rw [Standing.refused] at hn hopen
    have hnew : n < st.gateways := by
      rcases hclosed with rfl | rfl
      · exact hn
      · refine Nat.lt_of_le_of_ne (Nat.le_of_lt_succ hn) ?_
        rintro rfl
        exact hopen (List.mem_append_right _ List.mem_cons_self)
    exact h.held hnew fun hmem => hopen (List.mem_append_left _ hmem)

theorem started (h : st.Swept) (hm : st.members[i]? = some m) (hpool : m.pool = none)
    (settings : Settings) (pool : Nat) : (st.started i m settings pool a).Swept where
  idle {j m'} hm' hpool' := by
    rcases getElem?_set_cases hm' with ⟨rfl, rfl⟩ | ⟨hne, hm'⟩
    · cases hpool'
    · obtain ⟨hgateway, hannouncer, hquery, hboard⟩ := h.idle hm' hpool'
      refine ⟨hgateway, hannouncer, hquery, Bool.eq_false_iff.2 fun hinstalled => ?_⟩
      rcases Logging.Board.isInstalled_install.1 hinstalled with rfl | hinstalled
      · exact hne rfl
      · rw [hboard] at hinstalled
        cases hinstalled
  held {n} hn hopen := by
    obtain ⟨hlt, -⟩ := List.getElem?_eq_some_iff.1 hm
    rcases Nat.lt_succ_iff_lt_or_eq.1 hn with hn | rfl
    · obtain ⟨j, m', hm', hgateway⟩ := h.held hn hopen
      have hne : i ≠ j := by
        rintro rfl
        cases hm.symm.trans hm'
        rw [(h.idle hm hpool).1] at hgateway
        cases hgateway
      exact ⟨j, m', (List.getElem?_set_ne hne).trans hm', hgateway⟩
    · exact ⟨i, _, List.getElem?_set_self hlt, rfl⟩

theorem stopped (h : st.Swept) (hm : st.members[i]? = some m) (hn : m.gateway = some n) :
    (st.stopped i k n m a).Swept where
  idle {j m'} hm' hpool' := by
    rcases getElem?_set_cases hm' with ⟨rfl, rfl⟩ | ⟨hne, hm'⟩
    · refine ⟨rfl, rfl, rfl, Bool.eq_false_iff.2 fun hinstalled => ?_⟩
      exact (Logging.Board.isInstalled_remove.1 hinstalled).1 rfl
    · obtain ⟨hgateway, hannouncer, hquery, hboard⟩ := h.idle hm' hpool'
      refine ⟨hgateway, hannouncer, hquery, Bool.eq_false_iff.2 fun hinstalled => ?_⟩
      rw [(Logging.Board.isInstalled_remove.1 hinstalled).2] at hboard
      cases hboard
  held {n'} hn' hopen := by
    obtain ⟨j, m', hm', hgateway⟩ := h.held hn' fun hmem => hopen (List.mem_append_left _ hmem)
    have hne : i ≠ j := by
      rintro rfl
      cases hm.symm.trans hm'
      cases hn.symm.trans hgateway
      exact hopen (List.mem_append_right _ List.mem_cons_self)
    exact ⟨j, m', (List.getElem?_set_ne hne).trans hm', hgateway⟩

end Swept

/-! ### Turns -/

/-- What an event may do to a standing, where members may stop half way or not. -/
inductive Turn (mayHalt : Prop) (st : Standing) : Standing → Prop
  | steady : Turn mayHalt st st
  | handler (name : String) : Turn mayHalt st { st with board := st.board.addHandler name }
  | refused {i : Nat} {m : Member} {made : List Announcer} {closed : List Nat}
      (hm : st.members[i]? = some m) (hpool : m.pool = none)
      (hmade : ∀ a ∈ made, a.hasLoop = false) (hclosed : closed = [] ∨ closed = [st.gateways]) :
      Turn mayHalt st (st.refused i made closed)
  | started {i : Nat} {m : Member} {a : Announcer} (hm : st.members[i]? = some m)
      (hpool : m.pool = none) (settings : Settings) (pool : Nat) (hmade : m.Made settings a)
      (hgateway : a.gateway = st.gateways) :
      Turn mayHalt st (st.started i m settings pool (a.begun none).settled)
  | stopped {i k n : Nat} {m : Member} {a : Announcer} (hm : st.members[i]? = some m)
      (hk : m.announcer = some k) (hn : m.gateway = some n) :
      Turn mayHalt st (st.stopped i k n m a)
  | halted {i k : Nat} {m : Member} {a : Announcer} (hhalt : mayHalt)
      (hm : st.members[i]? = some m) (hk : m.announcer = some k) :
      Turn mayHalt st (st.halted i k m a)

variable {mayHalt : Prop}

/-- **Every turn keeps a standing orderly.** -/
theorem Orderly.turn (h : st.Orderly) (hturn : Turn mayHalt st st') : st'.Orderly := by
  cases hturn with
  | steady => exact h
  | handler name => exact { h with
      tidy := h.tidy.addHandler name
      active := fun hm hpool => (h.active hm hpool).of_eq (fun _ ha => ha) id }
  | refused hm hpool _ hclosed => exact h.refused hm hpool _ hclosed
  | started _ _ settings pool _ hgateway => exact h.started settings pool rfl hgateway
  | stopped hm hk hn => exact h.stopped hm hk hn
  | halted _ hm hk => exact h.halted hm hk

/-- **Every turn keeps an orderly standing swept**, if no member stops half way. -/
theorem Swept.turn (h : st.Swept) (ho : st.Orderly) (hnever : ¬ mayHalt)
    (hturn : Turn mayHalt st st') : st'.Swept := by
  cases hturn with
  | steady => exact h
  | handler name => exact ⟨h.idle, h.held⟩
  | refused hm hpool _ hclosed => exact h.refused ho hm hpool _ hclosed
  | started hm hpool settings pool => exact h.started hm hpool settings pool
  | stopped hm _ hn => exact h.stopped hm hn
  | halted hhalt => exact absurd hhalt hnever

/-- No turn makes a member. -/
theorem Turn.length_members (h : Turn mayHalt st st') :
    st'.members.length = st.members.length := by
  cases h with
  | steady | handler | refused => rfl
  | started | stopped | halted => exact List.length_set

end Standing

end RollCall
