import RollCall.Duration
import RollCall.Proofs.Binary64.Rounding

/-!
# Milliseconds of a duration

The milliseconds of a duration above zero are the floor of its product with a thousand, unless the
product is infinite. A shorter duration has no more of them. There is one at least exactly if the
product is not below one, and for this a thousandth of a second is enough.

## Main definitions

* `Duration.briefest`, `Duration.longest`: durations that are long enough and brief enough.

## Main results

* `millis_cases`: the milliseconds of a duration above zero.
* `millis_le_millis`: the milliseconds of a shorter duration.
* `one_le_millis_iff`: when there is a millisecond.
* `one_le_of_briefest_le`, `mul_ne_infinite_of_le_longest`: sufficient durations.
-/

namespace RollCall.Duration

open Binary64

variable {x y : Binary64} {t : Int}

theorem ofInt_thousand : ofInt 1000 = .finite false 8796093022208000 (-43) :=
  rfl

theorem ofInt_one : ofInt 1 = .finite false (2 ^ 52) (-52) :=
  rfl

/-- **The milliseconds of a duration above zero.** -/
theorem millis_cases (hx : (zero false).lt x = true) :
    (x.mul (.ofInt 1000) = .infinite false ∧ millis x = .error .infiniteDuration) ∨
      ∃ k d, x.mul (.ofInt 1000) = .finite false k d ∧ millis x = .ok ⌊magnitude k d⌋ := by
  rw [millis, ofInt_thousand]
  obtain h | ⟨k, d, h⟩ := mul_cases hx (n := 8796093022208000) (f := -43) (by decide)
  · rw [h]
    exact .inl ⟨rfl, rfl⟩
  · rw [h]
    refine .inr ⟨k, d, rfl, ?_⟩
    change Except.ok ((finite false k d).truncate?.getD 0) = _
    rw [truncate?_finite, Option.getD_some]

/-- There is a millisecond exactly if the product is not below one. -/
theorem one_le_millis_iff (hx : (zero false).lt x = true) (ht : millis x = .ok t) :
    1 ≤ t ↔ (ofInt 1).le (x.mul (.ofInt 1000)) = true := by
  obtain ⟨-, h⟩ | ⟨k, d, hmul, h⟩ := millis_cases hx
  · cases h.symm.trans ht
  · cases h.symm.trans ht
    rw [hmul, ofInt_one, le_finite_iff, magnitude_two_pow, Int.le_floor]
    norm_num

/-- **The milliseconds of a shorter duration.** -/
theorem millis_le_millis (hx : (zero false).lt x = true) (hle : x.le y = true)
    (ht : millis y = .ok t) : ∃ u, millis x = .ok u ∧ 0 ≤ u ∧ u ≤ t := by
  have horder := mul_le_mul hx hle (n := 8796093022208000) (f := -43) (by decide)
  rw [← ofInt_thousand] at horder
  obtain ⟨-, h⟩ | ⟨k', d', hmul', h⟩ := millis_cases (zero_lt_of_le hx hle)
  · cases h.symm.trans ht
  · cases h.symm.trans ht
    obtain ⟨hmul, -⟩ | ⟨k, d, hmul, h⟩ := millis_cases hx
    · rw [hmul, hmul'] at horder
      cases horder
    · rw [hmul, hmul', le_finite_iff] at horder
      refine ⟨_, h, Int.floor_nonneg.2 ?_, Int.floor_le_floor horder⟩
      exact mul_nonneg (Nat.cast_nonneg k) (zpow_pos two_pos d).le

/-! ### Sufficient durations -/

/-- A thousandth of a second. -/
def briefest : Binary64 :=
  .ofDecimal false 1 (-3)

/-- The greatest number of seconds whose milliseconds can be counted. -/
def longest : Binary64 :=
  .ofDecimal false 17976931348623156 289

/-- A thousandth of a second is long enough for a millisecond. -/
theorem one_le_of_briefest_le (hle : briefest.le x = true) :
    (ofInt 1).le (x.mul (.ofInt 1000)) = true := by
  have horder := mul_le_mul (by decide +kernel) hle (n := 8796093022208000) (f := -43) (by decide)
  rw [← ofInt_thousand] at horder
  have hone : briefest.mul (.ofInt 1000) = .ofInt 1 := by decide +kernel
  rwa [hone] at horder

/-- The milliseconds of no longer duration than the longest can be counted. -/
theorem mul_ne_infinite_of_le_longest (hx : (zero false).lt x = true) (hle : x.le longest = true) :
    x.mul (.ofInt 1000) ≠ .infinite false := by
  intro hinfinite
  have horder := mul_le_mul hx hle (n := 8796093022208000) (f := -43) (by decide)
  rw [← ofInt_thousand, hinfinite] at horder
  have hfinite : (infinite false).le (longest.mul (.ofInt 1000)) = false := by decide +kernel
  cases hfinite.symm.trans horder

end RollCall.Duration
