import Mathlib.Algebra.Order.Field.Power
import Mathlib.Data.Rat.Floor
import Mathlib.Tactic.Linarith
import Mathlib.Tactic.Ring
import RollCall.Binary64.Basic

/-!
# The rational values of binary numbers

A finite number stands for a rational one. The order of numbers is that of the rationals they stand
for, and the integer part is the floor of it.

## Main definitions

* `Binary64.magnitude`: the rational that a finite number without a sign stands for.

## Main results

* `zero_lt_iff`: the numbers above zero.
* `le_finite_iff`: the order of finite numbers.
* `truncate?_finite`: the integer part of a finite number.
-/

namespace RollCall.Binary64

/-! ### Powers -/

theorem power_pos (e : Int) : 0 < power 2 e :=
  Nat.pow_pos (by decide)

theorem power_natCast (n : ℕ) : power 2 n = 2 ^ n := by
  rw [power, Int.toNat_natCast, Nat.pow_eq]

theorem power_neg_natCast (n : ℕ) : power 2 (-n) = 1 := by
  rw [power, Int.toNat_neg_natCast]

/-- A power of two with an exponent of either sign, as a quotient. -/
theorem power_eq (e : Int) : (power 2 e : ℚ) = 2 ^ e * power 2 (-e) := by
  obtain ⟨n, rfl | rfl⟩ := e.eq_nat_or_neg
  · rw [power_neg_natCast, power_natCast, zpow_natCast, Nat.cast_one, mul_one]
    exact Nat.cast_pow 2 n
  · rw [neg_neg, power_neg_natCast, power_natCast, zpow_neg, zpow_natCast, Nat.cast_one,
      Nat.cast_pow]
    exact (inv_mul_cancel₀ (pow_ne_zero n two_ne_zero)).symm

/-- A numerator with its power of two, compared with another one. -/
theorem mul_power_le_iff {a b : ℕ} {e : Int} :
    a * power 2 e ≤ b * power 2 (-e) ↔ (a : ℚ) * 2 ^ e ≤ b := by
  have hpos : (0 : ℚ) < power 2 (-e) := Nat.cast_pos.2 (power_pos (-e))
  rw [← Nat.cast_le (α := ℚ), Nat.cast_mul, Nat.cast_mul, power_eq e, ← mul_assoc,
    mul_le_mul_iff_left₀ hpos]

theorem le_mul_power_iff {a b : ℕ} {e : Int} :
    b * power 2 (-e) ≤ a * power 2 e ↔ (b : ℚ) ≤ a * 2 ^ e := by
  have hpos : (0 : ℚ) < power 2 (-e) := Nat.cast_pos.2 (power_pos (-e))
  rw [← Nat.cast_le (α := ℚ), Nat.cast_mul, Nat.cast_mul, power_eq e, ← mul_assoc,
    mul_le_mul_iff_left₀ hpos]

/-! ### Finite numbers -/

/-- The rational that a finite number without a sign stands for. -/
def magnitude (mantissa : Nat) (exponent : Int) : ℚ :=
  mantissa * 2 ^ exponent

variable {m n : Nat} {e f : Int}

theorem magnitude_le_magnitude (h : m ≤ n) (e : Int) : magnitude m e ≤ magnitude n e :=
  mul_le_mul_of_nonneg_right (Nat.cast_le.2 h) (zpow_pos two_pos e).le

theorem magnitude_lt_magnitude (h : m < n) (e : Int) : magnitude m e < magnitude n e :=
  mul_lt_mul_of_pos_right (Nat.cast_lt.2 h) (zpow_pos two_pos e)

theorem magnitude_mono (m : Nat) (h : e ≤ f) : magnitude m e ≤ magnitude m f :=
  mul_le_mul_of_nonneg_left (zpow_le_zpow_right₀ one_le_two h) (Nat.cast_nonneg m)

theorem magnitude_succ (m : Nat) (e : Int) : magnitude m (e + 1) = magnitude (2 * m) e := by
  rw [magnitude, magnitude, zpow_add_one₀ two_ne_zero, Nat.cast_mul, Nat.cast_two]
  ring

/-- A power of two as a multiple of a smaller one. -/
theorem magnitude_two_pow (k : ℕ) (e : Int) : magnitude (2 ^ k) e = 2 ^ (e + k) := by
  rw [magnitude, Nat.cast_pow, Nat.cast_two, zpow_add₀ two_ne_zero, zpow_natCast, mul_comm]

theorem ratio_snd_pos (m : Nat) (e : Int) : 0 < (ratio m e).2 :=
  power_pos (-e)

theorem ratio_fst_pos (hm : 0 < m) (e : Int) : 0 < (ratio m e).1 :=
  Nat.mul_pos hm (power_pos e)

theorem ratio_fst (m : Nat) (e : Int) : ((ratio m e).1 : ℚ) = magnitude m e * (ratio m e).2 := by
  rw [ratio, Nat.cast_mul, power_eq, magnitude, mul_assoc]

theorem magnitude_eq_div (m : Nat) (e : Int) :
    magnitude m e = ((ratio m e).1 : ℚ) / (ratio m e).2 :=
  (eq_div_iff (Nat.cast_pos.2 (ratio_snd_pos m e)).ne').2 (ratio_fst m e).symm

/-- A finite number is above zero exactly if it has no sign and a mantissa. -/
theorem numerator_pos_iff {s : Bool} : 0 < numerator s m e ↔ s = false ∧ 0 < m := by
  have hpower := power_pos e
  cases s with
  | false =>
    rw [numerator, if_neg Bool.false_ne_true, Nat.cast_pos, ratio]
    exact (Nat.mul_pos_iff_of_pos_right hpower).trans (and_iff_right rfl).symm
  | true =>
    rw [numerator, if_pos rfl]
    exact iff_of_false (by omega) fun h => Bool.noConfusion h.1

/-- The numbers above zero. -/
theorem zero_lt_iff {x : Binary64} :
    (zero false).lt x = true ↔ x = .infinite false ∨ ∃ m e, 0 < m ∧ x = .finite false m e := by
  cases x with
  | nan => simp [lt, zero]
  | infinite s => simp [lt, zero]
  | finite s m e =>
    have hzero : numerator false 0 minExponent = 0 := by simp [numerator, ratio]
    have hpos : (0 : Int) < (ratio 0 minExponent).2 := Nat.cast_pos.2 (ratio_snd_pos 0 minExponent)
    rw [zero, lt, hzero, zero_mul, decide_eq_true_eq, mul_pos_iff_of_pos_right hpos,
      numerator_pos_iff]
    constructor
    · rintro ⟨rfl, hm⟩
      exact .inr ⟨m, e, hm, rfl⟩
    · rintro (h | ⟨m', e', hm, h⟩)
      · cases h
      · cases h
        exact ⟨rfl, hm⟩

theorem magnitude_le_iff :
    magnitude m e ≤ magnitude n f ↔
      (ratio m e).1 * (ratio n f).2 ≤ (ratio n f).1 * (ratio m e).2 := by
  have hm : (0 : ℚ) < (ratio m e).2 := Nat.cast_pos.2 (ratio_snd_pos m e)
  have hn : (0 : ℚ) < (ratio n f).2 := Nat.cast_pos.2 (ratio_snd_pos n f)
  rw [magnitude_eq_div, magnitude_eq_div, div_le_div_iff₀ hm hn]
  exact_mod_cast Iff.rfl

theorem le_iff_numerator {s t : Bool} :
    (finite s m e).le (.finite t n f) = true ↔
      numerator s m e * (ratio n f).2 ≤ numerator t n f * (ratio m e).2 := by
  rw [le, Bool.or_eq_true, lt, eq, decide_eq_true_eq, decide_eq_true_eq, Int.le_iff_lt_or_eq]

/-- **The order of finite numbers** without a sign is that of the rationals they stand for. -/
theorem le_finite_iff :
    (finite false m e).le (.finite false n f) = true ↔ magnitude m e ≤ magnitude n f := by
  rw [magnitude_le_iff, le_iff_numerator, numerator, numerator, if_neg Bool.false_ne_true,
    if_neg Bool.false_ne_true]
  exact_mod_cast Iff.rfl

/-- What is not below a number above zero is above zero. -/
theorem zero_lt_of_le {x y : Binary64} (hx : (zero false).lt x = true) (hle : x.le y = true) :
    (zero false).lt y = true := by
  rw [zero_lt_iff] at hx ⊢
  obtain rfl | ⟨m, e, hm, rfl⟩ := hx
  · rcases y with _ | ⟨_ | _⟩ | _
    · cases hle
    · exact .inl rfl
    · cases hle
    · cases hle
  · rcases y with _ | ⟨_ | _⟩ | ⟨s, n, f⟩
    · cases hle
    · exact .inl rfl
    · cases hle
    · have hpos : 0 < numerator false m e := numerator_pos_iff.2 ⟨rfl, hm⟩
      have hden : (0 : Int) < (ratio n f).2 := Nat.cast_pos.2 (ratio_snd_pos n f)
      have hden' : (0 : Int) < (ratio m e).2 := Nat.cast_pos.2 (ratio_snd_pos m e)
      have hprod := (Int.mul_pos hpos hden).trans_le (le_iff_numerator.1 hle)
      obtain ⟨rfl, hn⟩ := numerator_pos_iff.1 ((mul_pos_iff_of_pos_right hden').1 hprod)
      exact .inr ⟨n, f, hn, rfl⟩

/-- No number above zero is greater than the infinity without a sign. -/
theorem le_infinite {x : Binary64} (hx : (zero false).lt x = true) :
    x.le (.infinite false) = true := by
  obtain rfl | ⟨m, e, -, rfl⟩ := zero_lt_iff.1 hx <;> rfl

/-- Of two numbers above zero, one is not greater than the other. -/
theorem le_of_le_eq_false {x y : Binary64} (hx : (zero false).lt x = true)
    (hy : (zero false).lt y = true) (h : x.le y = false) : y.le x = true := by
  obtain rfl | ⟨m, e, -, rfl⟩ := zero_lt_iff.1 hx
  · exact le_infinite hy
  · obtain rfl | ⟨n, f, -, rfl⟩ := zero_lt_iff.1 hy
    · cases (le_infinite hx).symm.trans h
    · refine le_finite_iff.2 (le_of_not_ge fun hle => ?_)
      cases (le_finite_iff.2 hle).symm.trans h

/-- What is below another number, or above one, is a number. -/
theorem ne_nan_of_lt {x y : Binary64} (h : x.lt y = true) : x ≠ .nan ∧ y ≠ .nan := by
  constructor
  · rintro rfl
    cases h
  · rintro rfl
    cases x <;> cases h

/-- Of two numbers, one is below the other exactly if the other is not at most that one. -/
theorem lt_iff_le_eq_false {x y : Binary64} (hx : x ≠ .nan) (hy : y ≠ .nan) :
    x.lt y = true ↔ y.le x = false := by
  rw [le, Bool.or_eq_false_iff]
  rcases x with _ | s | ⟨s, m, e⟩
  · exact absurd rfl hx
  all_goals rcases y with _ | t | ⟨t, n, f⟩
  · exact absurd rfl hy
  · cases s <;> cases t <;> decide
  · cases s <;> simp [lt, eq]
  · exact absurd rfl hy
  · cases t <;> simp [lt, eq]
  · simp only [lt, eq, decide_eq_true_eq, decide_eq_false_iff_not]
    omega

/-- **The integer part** of a finite number without a sign. -/
theorem truncate?_finite : (finite false m e).truncate? = some ⌊magnitude m e⌋ := by
  rw [magnitude_eq_div, truncate?, if_neg Bool.false_ne_true]
  exact congrArg some (Rat.floor_natCast_div_natCast _ _).symm

end RollCall.Binary64
