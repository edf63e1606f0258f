import Mathlib.Data.List.Basic
import RollCall.Bucket.Gateway

/-!
# Throttled calls

An operation on the bucket makes calls until one is not throttled, and that call decides it. Two
things could end an operation before: the attempts are used up, or the next delay is beyond
floating-point numbers. Neither happens to a call that comes soon enough.

## Main definitions

* `Throttled`: some calls in a row that are all throttled.

## Main results

* `Gateway.callFrom_of_throttled`: the first call that is not throttled decides the operation, and
  there is one delay for each call before it.
-/

namespace RollCall.Bucket

/-- A step whose result is known is taken, and the rest goes on from its state. -/
theorem bind_of_eq {σ α β : Type} {m : StateM σ α} {s s' : σ} {a : α} (h : m s = (a, s'))
    (f : α → StateM σ β) : (m >>= f) s = f a s' := by
  rw [show (m >>= f) s = f (m s).1 (m s).2 from rfl, h]

/-- There is a first attempt. -/
theorem Backoff.exists_attempts_eq (b : Backoff) : ∃ left, b.attempts = left + 1 :=
  Nat.exists_eq_succ_of_ne_zero (Nat.ne_of_gt (Nat.le_max_left 1 b.maxAttempts.toNat))

variable {σ α : Type}

/-- Some calls in a row, each of which is throttled. -/
inductive Throttled (t : Task) (send : StateM σ (Reply α)) : ℕ → σ → σ → Prop
  | none (c : σ) : Throttled t send 0 c c
  | more {k : ℕ} {c c' : σ} (hfirst : t.isThrottled (send c).1 = true)
      (hrest : Throttled t send k (send c).2 c') : Throttled t send (k + 1) c c'

namespace Gateway

variable {g : Gateway σ} {t : Task} {send : StateM σ (Reply α)}

/-- The session after a call that is counted. -/
def counted (t : Task) (send : StateM σ (Reply α)) (s : Session σ) : Session σ :=
  (Session.count t.operation (t.outcome (send s.client).1)
    { s with client := (send s.client).2 }).2

/-- A call that is not throttled decides. -/
theorem callFrom_answered {s : Session σ} (h : t.isThrottled (send s.client).1 = false)
    (left attempt : ℕ) :
    g.callFrom t send (left + 1) attempt s = (t.verdict (send s.client).1, counted t send s) := by
  rw [callFrom]
  refine (bind_of_eq rfl _).trans ((bind_of_eq rfl _).trans ?_)
  rw [h]
  rfl

/-- A call that is throttled is made again after a delay, if attempts are left and the delay is in
the range of floating-point numbers. -/
theorem callFrom_throttled {s : Session σ} (h : t.isThrottled (send s.client).1 = true)
    (left : ℕ) {attempt : ℕ} (hattempt : attempt < Backoff.powerLimit) :
    ∃ delay lines, g.callFrom t send (left + 2) attempt s =
      g.callFrom t send (left + 1) (attempt + 1)
        { counted t send s with sleeps := s.sleeps ++ [delay], lines } := by
  obtain ⟨delay, hdelay⟩ : ∃ delay, g.backoff.delay attempt = .ok delay :=
    ⟨_, if_neg (Nat.not_le.2 hattempt)⟩
  refine ⟨delay, s.lines ++ [⟨.warning, t.throttledText attempt g.backoff.attempts delay⟩], ?_⟩
  rw [callFrom]
  refine (bind_of_eq rfl _).trans ((bind_of_eq rfl _).trans ?_)
  rw [h, if_pos rfl, if_neg (Nat.succ_ne_zero left)]
  dsimp only
  rw [hdelay]
  exact (bind_of_eq rfl _).trans (bind_of_eq rfl _)

/-- **The first call that is not throttled** decides an operation, if it is made in time: before the
attempts are used up, and before the delays leave the range of floating-point numbers. -/
theorem callFrom_of_throttled {k : ℕ} {c c' : σ} (hthrottled : Throttled t send k c c')
    (hanswer : t.isThrottled (send c').1 = false) {left attempt : ℕ} (hleft : k < left)
    (hpower : attempt + k ≤ Backoff.powerLimit) {s : Session σ} (hs : s.client = c) :
    ∃ delays lines tally, delays.length = k ∧
      g.callFrom t send left attempt s = (t.verdict (send c').1,
        ⟨(send c').2, s.sleeps ++ delays, lines, tally⟩) := by
  induction hthrottled generalizing left attempt s with
  | none c =>
    subst hs
    obtain ⟨left, rfl⟩ := Nat.exists_eq_succ_of_ne_zero (Nat.ne_of_gt hleft)
    refine ⟨[], s.lines, (counted t send s).tally, rfl, ?_⟩
    rw [callFrom_answered hanswer, List.append_nil]
    rfl
  | @more k c c' hfirst hrest ih =>
    subst hs
    obtain ⟨left, rfl⟩ := Nat.exists_eq_add_of_le' (show 2 ≤ left by omega)
    obtain ⟨delay, lines, hagain⟩ :=
      callFrom_throttled (g := g) hfirst left (show attempt < Backoff.powerLimit by omega)
    obtain ⟨delays, lines', tally, hlength, hrest⟩ := ih hanswer (show k < left + 1 by omega)
      (show attempt + 1 + k ≤ Backoff.powerLimit by omega)
      (s := { counted t send s with sleeps := s.sleeps ++ [delay], lines }) rfl
    refine ⟨delay :: delays, lines', tally, congrArg (· + 1) hlength, ?_⟩
    rw [hagain, hrest, List.append_assoc]
    rfl

end Gateway

end RollCall.Bucket
