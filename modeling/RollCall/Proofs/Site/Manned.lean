import RollCall.Proofs.Site.Orderly

/-!
# Who has an announcer

An announcer whose start failed is left behind: it counts as announcing, but it has no loop, and no
member has it. Of all other announcers, those that are announcing are the announcers of started
members, and every turn of a standing leaves it at that. An announcer that was stopped stays so, and
a gateway that no started member has is not taken up again, since every start opens a new one.

## Main definitions

* `Announcer.hasBegun`: an announcer is not one whose start failed.
* `Standing.Manned`: announcers that have begun and are announcing belong to started members.
* `Standing.Silent`: an announcer was told to stop.
* `Standing.Retired`: a gateway is not in use any more.

## Main results

* `Manned.turn`, `Silent.turn`, `Retired.turn`: every turn keeps them.
-/

namespace RollCall

/-- An item of two lists in a row is one of the first, or one of the second. -/
theorem getElem?_append_cases {α : Type} {l l' : List α} {i : Nat} {x : α}
    (h : (l ++ l')[i]? = some x) : l[i]? = some x ∨ l.length ≤ i ∧ l'[i - l.length]? = some x := by
  rw [List.getElem?_append] at h
  split at h
  · exact .inl h
  · next hge => exact .inr ⟨Nat.le_of_not_lt hge, h⟩

/-- Whether an announcer has begun, or was stopped: it has a loop as long as it is announcing. -/
def Announcer.hasBegun (a : Announcer) : Bool :=
  !a.isAnnouncing || a.hasLoop

theorem Announcer.hasLoop_of_hasBegun {a : Announcer} (h : a.hasBegun = true)
    (hannouncing : a.isAnnouncing = true) : a.hasLoop = true := by
  rw [hasBegun, hannouncing] at h
  exact h

namespace Standing

variable {st st' : Standing} {mayHalt : Prop} {i j k n : Nat} {m : Member} {a : Announcer}

/-- Whether an announcer is there and has begun. -/
def hasBegun (st : Standing) (k : Nat) : Bool :=
  st.announcers[k]?.any Announcer.hasBegun

/-- A member is started, with some announcer. -/
def Has (st : Standing) (k : Nat) : Prop :=
  ∃ (i : Nat) (m : Member), st.members[i]? = some m ∧ m.pool.isSome = true ∧ m.announcer = some k

/-- A standing in which started members and announcers belong together. -/
structure Manned (st : Standing) : Prop where
  /-- The announcer of a started member has a loop. -/
  loop {i k : Nat} {m : Member} {a : Announcer} (hm : st.members[i]? = some m)
    (hpool : m.pool.isSome = true) (hk : m.announcer = some k)
    (ha : st.announcers[k]? = some a) : a.hasLoop = true
  /-- An announcer that is announcing and has a loop is that of a started member. -/
  has {k : Nat} {a : Announcer} (ha : st.announcers[k]? = some a)
    (hannouncing : a.isAnnouncing = true) (hloop : a.hasLoop = true) : st.Has k

/-- An announcer was told to stop, and is not announcing. -/
def Silent (st : Standing) (k : Nat) : Prop :=
  ∃ a, st.announcers[k]? = some a ∧ a.isAnnouncing = false ∧ a.isStopRequested = true

/-- A gateway was opened, and no started member has it. -/
structure Retired (st : Standing) (n : Nat) : Prop where
  lt : n < st.gateways
  free {i : Nat} {m : Member} (hm : st.members[i]? = some m) (hpool : m.pool.isSome = true) :
    m.gateway ≠ some n

/-- What a turn may do to an announcer: nothing, or it is told to stop. -/
theorem Turn.announcer (h : Turn mayHalt st st') (ha : st.announcers[k]? = some a) :
    st'.announcers[k]? = some a ∨
      ∃ a' : Announcer, st'.announcers[k]? = some a'.stopped := by
  have hset (k' : Nat) (a' : Announcer) : (st.announcers.set k' a'.stopped)[k]? = some a ∨
      ∃ a'' : Announcer, (st.announcers.set k' a'.stopped)[k]? = some a''.stopped := by
    by_cases hk : k' = k
    · subst hk
      obtain ⟨hlt, -⟩ := List.getElem?_eq_some_iff.1 ha
      exact .inr ⟨a', List.getElem?_set_self hlt⟩
    · exact .inl ((List.getElem?_set_ne hk).trans ha)
  cases h with
  | steady | handler => exact .inl ha
  | refused | started => exact .inl (getElem?_append_of_eq_some ha _)
  | stopped | halted => exact hset _ _

/-- An announcer that has begun stays so. -/
theorem Turn.hasBegun (h : Turn mayHalt st st') (hk : st.hasBegun k = true) :
    st'.hasBegun k = true := by
  obtain ⟨a, ha, hbegun⟩ := (Option.any_eq_true _ _).1 hk
  rw [Standing.hasBegun, Option.any_eq_true]
  rcases h.announcer ha with ha' | ⟨a', ha'⟩
  · exact ⟨a, ha', hbegun⟩
  · exact ⟨_, ha', rfl⟩

/-- An announcer that was told to stop stays so. -/
theorem Silent.turn (h : st.Silent k) (hturn : Turn mayHalt st st') : st'.Silent k := by
  obtain ⟨a, ha, hstopped, hrequested⟩ := h
  rcases hturn.announcer ha with ha' | ⟨a', ha'⟩
  · exact ⟨a, ha', hstopped, hrequested⟩
  · exact ⟨_, ha', rfl, rfl⟩

/-- A gateway that is not in use stays so. -/
theorem Retired.turn (h : st.Retired n) (hturn : Turn mayHalt st st') : st'.Retired n := by
  have hset {i j : Nat} {m' m : Member} (hm' : m'.pool = none)
      (hm : (st.members.set i m')[j]? = some m) (hpool : m.pool.isSome = true) :
      m.gateway ≠ some n := by
    rcases getElem?_set_cases hm with ⟨-, rfl⟩ | ⟨-, hm⟩
    · rw [hm'] at hpool
      cases hpool
    · exact h.free hm hpool
  cases hturn with
  | steady => exact h
  | handler => exact ⟨h.lt, h.free⟩
  | refused => exact ⟨Nat.lt_add_right _ h.lt, h.free⟩
  | started =>
    refine ⟨Nat.lt_add_right _ h.lt, fun hm hpool hn => ?_⟩
    rcases getElem?_set_cases hm with ⟨-, rfl⟩ | ⟨-, hm⟩
    · exact Nat.ne_of_gt h.lt (Option.some.inj hn)
    · exact h.free hm hpool hn
  | stopped => exact ⟨h.lt, hset rfl⟩
  | halted => exact ⟨h.lt, hset rfl⟩

namespace Manned

theorem refused (h : st.Manned) (ho : st.Orderly) {made : List Announcer}
    (hmade : ∀ a ∈ made, a.hasLoop = false) (closed : List Nat) :
    (st.refused i made closed).Manned where
  loop {j k m a} hm hpool hk ha := by
    have hlt : k < st.announcers.length := ho.announcer hm hk
    exact h.loop hm hpool hk ((List.getElem?_append_left hlt).symm.trans ha)
  has {k a} ha hannouncing hloop := by
    rcases getElem?_append_cases ha with ha | ⟨-, ha⟩
    · exact h.has ha hannouncing hloop
    · cases (hmade a (List.mem_of_getElem? ha)).symm.trans hloop

theorem started (h : st.Manned) (ho : st.Orderly) (hm : st.members[i]? = some m)
    (hpool : m.pool = none) (settings : Settings) (pool : Nat) (hloop : a.hasLoop = true) :
    (st.started i m settings pool a).Manned where
  loop {j k m' a'} hm' hpool' hk ha := by
    rcases getElem?_set_cases hm' with ⟨-, rfl⟩ | ⟨-, hm'⟩
    · cases hk
      cases List.getElem?_concat_length.symm.trans ha
      exact hloop
    · have hlt : k < st.announcers.length := ho.announcer hm' hk
      exact h.loop hm' hpool' hk ((List.getElem?_append_left hlt).symm.trans ha)
  has {k a'} ha hannouncing hloop' := by
    obtain ⟨hlt, -⟩ := List.getElem?_eq_some_iff.1 hm
    rcases getElem?_append_cases ha with ha | ⟨hle, ha⟩
    · obtain ⟨j, m', hm', hpool', hk⟩ := h.has ha hannouncing hloop'
      have hne : i ≠ j := by
        rintro rfl
        cases hm.symm.trans hm'
        rw [hpool] at hpool'
        cases hpool'
      exact ⟨j, m', (List.getElem?_set_ne hne).trans hm', hpool', hk⟩
    · have hk : k = st.announcers.length := by
        obtain ⟨hlt', -⟩ := List.getElem?_eq_some_iff.1 ha
        rw [List.length_singleton] at hlt'
        omega
      exact ⟨i, _, List.getElem?_set_self hlt, rfl, congrArg some hk.symm⟩

/-- A member lets go of its pool, and its announcer is told to stop. -/
theorem released (h : st.Manned) (ho : st.Orderly) (hm : st.members[i]? = some m)
    (hk : m.announcer = some k) {m' : Member} (hpool : m'.pool = none) (a : Announcer)
    (closed : List Nat) (board : Logging.Board Nat) :
    Manned { st with
      members := st.members.set i m'
      announcers := st.announcers.set k a.stopped
      closed, board } where
  loop {j k' m'' a'} hm' hpool' hk' ha := by
    rcases getElem?_set_cases hm' with ⟨-, rfl⟩ | ⟨hne, hm'⟩
    · rw [hpool] at hpool'
      cases hpool'
    · rcases getElem?_set_cases ha with ⟨rfl, rfl⟩ | ⟨-, ha⟩
      · exact absurd (ho.announcers hm hm' hk hk') hne
      · exact h.loop hm' hpool' hk' ha
  has {k' a'} ha hannouncing hloop := by
    rcases getElem?_set_cases ha with ⟨-, rfl⟩ | ⟨hne, ha⟩
    · cases hannouncing
    · obtain ⟨j, m'', hm', hpool', hk'⟩ := h.has ha hannouncing hloop
      have hne' : i ≠ j := by
        rintro rfl
        cases hm.symm.trans hm'
        exact hne (Option.some.inj (hk.symm.trans hk'))
      exact ⟨j, m'', (List.getElem?_set_ne hne').trans hm', hpool', hk'⟩

/-- **Every turn keeps members and announcers together.** -/
theorem turn (h : st.Manned) (ho : st.Orderly) (hturn : Turn mayHalt st st') : st'.Manned := by
  cases hturn with
  | steady => exact h
  | handler name => exact ⟨h.loop, h.has⟩
  | refused _ _ hmade _ => exact h.refused ho hmade _
  | started hm hpool settings pool => exact h.started ho hm hpool settings pool rfl
  | stopped hm hk _ => exact h.released ho hm hk rfl _ _ _
  | halted _ hm hk => exact h.released ho hm hk rfl _ _ _

end Manned

end Standing

end RollCall
