import Mathlib.Tactic.GCongr
import RollCall.Proofs.Binary64.Value

/-!
# Rounding keeps the order

A quotient is rounded to a multiple of a power of two that its size decides. Of two quotients, either
both are rounded to multiples of the same power, and then the order is that of the nearest integers;
or there is a power of two between them that both may not cross. So rounding keeps the order, and what
is rounded to an infinity is what is rounded to `2 ^ 1024` or more.

## Main definitions

* `Binary64.step`: the exponent of the power of two to whose multiples a quotient is rounded.
* `Binary64.rounded`: the rational to which a quotient is rounded.

## Main results

* `nearest_mono`: the order of nearest integers.
* `rounded_mono`: rounding keeps the order.
* `ofRatio_cases`: what a quotient is rounded to.
-/

namespace RollCall.Binary64

/-! ### Nearest integers -/

variable {num den num' den' k : ℕ}

theorem nearest_cases (num den : ℕ) :
    nearest num den = num / den ∨ nearest num den = num / den + 1 := by
  rw [nearest]
  split_ifs
  · exact .inl rfl
  · exact .inl rfl
  · exact .inr rfl
  · exact .inr rfl

/-- **The order of nearest integers** is that of the quotients. -/
theorem nearest_mono (hden : 0 < den) (hden' : 0 < den') (h : num * den' ≤ num' * den) :
    nearest num den ≤ nearest num' den' := by
  have hsplit := Nat.div_add_mod num den
  have hsplit' := Nat.div_add_mod num' den'
  have hquotient : num / den ≤ num' / den' := by
    refine (Nat.le_div_iff_mul_le hden').2 (Nat.le_of_mul_le_mul_right ?_ hden)
    calc num / den * den' * den = num / den * den * den' := Nat.mul_right_comm _ _ _
      _ ≤ num * den' := Nat.mul_le_mul_right den' (Nat.div_mul_le_self num den)
      _ ≤ num' * den := h
  rcases Nat.lt_or_eq_of_le hquotient with hlt | heq
  · have hupper : nearest num den ≤ num / den + 1 := by
      rcases nearest_cases num den with h | h <;> omega
    have hlower : num' / den' ≤ nearest num' den' := by
      rcases nearest_cases num' den' with h | h <;> omega
    omega
  · -- With equal integer parts, what is left over decides.
    have hrest : num % den * den' ≤ num' % den' * den := by
      have hsame : den * (num / den) * den' = den' * (num' / den') * den := by
        rw [heq, Nat.mul_right_comm, Nat.mul_right_comm den', Nat.mul_comm den den']
      rw [← hsplit, ← hsplit', Nat.add_mul, Nat.add_mul, hsame] at h
      exact Nat.le_of_add_le_add_left h
    have hdouble : 2 * (num % den) * den' ≤ 2 * (num' % den') * den := by
      rw [Nat.mul_assoc, Nat.mul_assoc]
      exact Nat.mul_le_mul_left 2 hrest
    have hbelow : 2 * (num' % den') < den' → 2 * (num % den) < den := by
      intro hhalf
      have hlt := hdouble.trans_lt (Nat.mul_lt_mul_of_pos_right hhalf hden)
      rw [Nat.mul_comm den' den] at hlt
      exact Nat.lt_of_mul_lt_mul_right hlt
    have hmost : 2 * (num' % den') ≤ den' → 2 * (num % den) ≤ den := by
      intro hhalf
      have hle := hdouble.trans (Nat.mul_le_mul_right den hhalf)
      rw [Nat.mul_comm den' den] at hle
      exact Nat.le_of_mul_le_mul_right hle hden'
    rw [nearest, nearest, heq]
    split_ifs <;> omega

/-- The nearest integer to an integer. -/
theorem nearest_mul (hden : 0 < den) : nearest (k * den) den = k := by
  rw [nearest, Nat.mul_div_cancel k hden, Nat.mul_mod_left]
  exact if_pos (by omega)

theorem nearest_le (hden : 0 < den) (h : num ≤ k * den) : nearest num den ≤ k := by
  have hmono := nearest_mono hden hden (Nat.mul_le_mul_right den h)
  rwa [nearest_mul hden] at hmono

theorem le_nearest (hden : 0 < den) (h : k * den ≤ num) : k ≤ nearest num den := by
  have hmono := nearest_mono hden hden (Nat.mul_le_mul_right den h)
  rwa [nearest_mul hden] at hmono

/-! ### The size of a quotient -/

theorem two_pow_log2_le {n : ℕ} (hn : 0 < n) : (2 : ℚ) ^ (Nat.log2 n : Int) ≤ n := by
  rw [zpow_natCast]
  exact_mod_cast Nat.log2_self_le hn.ne'

theorem lt_two_pow_log2 (n : ℕ) : (n : ℚ) < 2 ^ (Nat.log2 n + 1 : Int) := by
  have hlt : n < 2 ^ (Nat.log2 n + 1) := Nat.lt_log2_self
  exact_mod_cast hlt

/-- **The size of a quotient**: the power of two at or below it. -/
theorem log2Ratio_spec (hnum : 0 < num) (hden : 0 < den) :
    (den : ℚ) * 2 ^ log2Ratio num den ≤ num ∧ (num : ℚ) < den * 2 ^ (log2Ratio num den + 1) := by
  rw [log2Ratio]
  split
  · next hle =>
    refine ⟨mul_power_le_iff.1 hle, ?_⟩
    calc (num : ℚ) < 2 ^ (Nat.log2 num + 1 : Int) := lt_two_pow_log2 num
      _ = 2 ^ (Nat.log2 den : Int) * 2 ^ (Nat.log2 num - Nat.log2 den + 1 : Int) := by
        rw [← zpow_add₀ two_ne_zero]
        congr 1
        omega
      _ ≤ den * 2 ^ (Nat.log2 num - Nat.log2 den + 1 : Int) := by
        gcongr
        exact two_pow_log2_le hden
  · next hnot =>
    have hlt := not_le.1 fun h => hnot (mul_power_le_iff.2 h)
    refine ⟨?_, by rwa [sub_add_cancel]⟩
    calc (den : ℚ) * 2 ^ (Nat.log2 num - Nat.log2 den - 1 : Int)
      _ ≤ 2 ^ (Nat.log2 den + 1 : Int) * 2 ^ (Nat.log2 num - Nat.log2 den - 1 : Int) := by
        gcongr
        exact (lt_two_pow_log2 den).le
      _ = 2 ^ (Nat.log2 num : Int) := by
        rw [← zpow_add₀ two_ne_zero]
        congr 1
        omega
      _ ≤ num := two_pow_log2_le hnum

/-- The exponent of the power of two to whose multiples a quotient is rounded. -/
def step (num den : ℕ) : Int :=
  max (log2Ratio num den - 52) minExponent

/-- The multiple of this power of two to which a quotient is rounded. -/
def multiple (num den : ℕ) : ℕ :=
  nearest (num * power 2 (-step num den)) (den * power 2 (step num den))

/-- The rational to which a quotient is rounded, were there no greatest number. -/
def rounded (num den : ℕ) : ℚ :=
  magnitude (multiple num den) (step num den)

/-- A quotient is not rounded up beyond a multiple of the power of two. -/
theorem multiple_le (hden : 0 < den) (h : (num : ℚ) ≤ den * magnitude k (step num den)) :
    multiple num den ≤ k := by
  refine nearest_le (Nat.mul_pos hden (power_pos _)) ?_
  rw [← Nat.mul_assoc, le_mul_power_iff, Nat.cast_mul, mul_comm (k : ℚ), mul_assoc]
  exact h

/-- A quotient is not rounded down beyond a multiple of the power of two. -/
theorem le_multiple (hden : 0 < den) (h : den * magnitude k (step num den) ≤ num) :
    k ≤ multiple num den := by
  refine le_nearest (Nat.mul_pos hden (power_pos _)) ?_
  rw [← Nat.mul_assoc, mul_power_le_iff, Nat.cast_mul, mul_comm (k : ℚ), mul_assoc]
  exact h

/-- The size of quotients keeps their order. -/
theorem log2Ratio_mono (hnum : 0 < num) (hden : 0 < den) (hnum' : 0 < num') (hden' : 0 < den')
    (h : num * den' ≤ num' * den) : log2Ratio num den ≤ log2Ratio num' den' := by
  obtain ⟨hlow, -⟩ := log2Ratio_spec hnum hden
  obtain ⟨-, hhigh⟩ := log2Ratio_spec hnum' hden'
  have hd : (0 : ℚ) < den := Nat.cast_pos.2 hden
  have hd' : (0 : ℚ) < den' := Nat.cast_pos.2 hden'
  have hlt : (den * den' : ℚ) * 2 ^ log2Ratio num den <
      den * den' * 2 ^ (log2Ratio num' den' + 1) := by
    calc (den * den' : ℚ) * 2 ^ log2Ratio num den = den * 2 ^ log2Ratio num den * den' := by ring
      _ ≤ num * den' := mul_le_mul_of_nonneg_right hlow hd'.le
      _ ≤ num' * den := by exact_mod_cast h
      _ < den' * 2 ^ (log2Ratio num' den' + 1) * den := mul_lt_mul_of_pos_right hhigh hd
      _ = den * den' * 2 ^ (log2Ratio num' den' + 1) := by ring
  have hpow := (mul_lt_mul_iff_right₀ (mul_pos hd hd')).1 hlt
  exact Int.lt_add_one_iff.1 ((zpow_lt_zpow_iff_right₀ one_lt_two).1 hpow)

/-- **Rounding keeps the order.** -/
theorem rounded_mono (hnum : 0 < num) (hden : 0 < den) (hnum' : 0 < num') (hden' : 0 < den')
    (h : num * den' ≤ num' * den) : rounded num den ≤ rounded num' den' := by
  have hsize := log2Ratio_mono hnum hden hnum' hden' h
  have hstep : step num den ≤ step num' den' := max_le_max_right _ (Int.sub_le_sub_right hsize 52)
  rcases hstep.eq_or_lt with heq | hlt
  · rw [rounded, rounded, multiple, multiple, heq]
    refine magnitude_le_magnitude (nearest_mono ?_ ?_ ?_) _
    · exact Nat.mul_pos hden (power_pos _)
    · exact Nat.mul_pos hden' (power_pos _)
    · rw [Nat.mul_mul_mul_comm, Nat.mul_mul_mul_comm num']
      exact Nat.mul_le_mul_right _ h
  · -- The power of two at or below the second quotient lies between the two.
    obtain ⟨-, hhigh⟩ := log2Ratio_spec hnum hden
    obtain ⟨hlow, -⟩ := log2Ratio_spec hnum' hden'
    have hnormal : step num' den' = log2Ratio num' den' - 52 ∧
        log2Ratio num den + 1 ≤ log2Ratio num' den' ∧ step num den ≤ log2Ratio num' den' := by
      rw [step, step] at *
      omega
    obtain ⟨hstep', hbelow, hle⟩ := hnormal
    obtain ⟨k, hk⟩ := Int.le.dest hle
    obtain ⟨k', hk'⟩ : ∃ k' : ℕ, step num' den' + k' = log2Ratio num' den' := ⟨52, by omega⟩
    calc rounded num den
      _ ≤ magnitude (2 ^ k) (step num den) := by
        refine magnitude_le_magnitude (multiple_le hden ?_) _
        rw [magnitude_two_pow, hk]
        refine hhigh.le.trans (mul_le_mul_of_nonneg_left ?_ (Nat.cast_nonneg den))
        exact zpow_le_zpow_right₀ one_le_two hbelow
      _ = magnitude (2 ^ k') (step num' den') := by
        rw [magnitude_two_pow, magnitude_two_pow, hk, hk']
      _ ≤ rounded num' den' := by
        refine magnitude_le_magnitude (le_multiple hden' ?_) _
        rwa [magnitude_two_pow, hk']

/-! ### Numbers of the format -/

/-- The least power of two above all numbers of the format. -/
def limit : ℚ :=
  2 ^ (1024 : Int)

/-- The mantissa and the exponent of a number, were there no greatest exponent. -/
structure Canonical (m : ℕ) (e : Int) : Prop where
  mantissa : m < 2 * minMantissa
  exponent : minExponent ≤ e
  normal : e = minExponent ∨ minMantissa ≤ m

theorem limit_eq : limit = magnitude minMantissa (maxExponent + 1) := by
  have hsize : maxExponent + 1 + (52 : ℕ) = 1024 := by decide
  have hmantissa : 2 ^ 52 = minMantissa := by decide
  rw [limit, ← hsize, ← magnitude_two_pow, hmantissa]

/-- Too large an exponent is that of too large a number. -/
theorem Canonical.lt_exponent_iff {m : ℕ} {e : Int} (h : Canonical m e) :
    maxExponent < e ↔ limit ≤ magnitude m e := by
  constructor
  · intro hlt
    have hnormal : minMantissa ≤ m :=
      h.normal.resolve_left fun heq => absurd (heq ▸ hlt) (by decide)
    calc limit = magnitude minMantissa (maxExponent + 1) := limit_eq
      _ ≤ magnitude m (maxExponent + 1) := magnitude_le_magnitude hnormal _
      _ ≤ magnitude m e := magnitude_mono m hlt
  · intro hlimit
    by_contra hnot
    refine absurd hlimit (not_le.2 ?_)
    calc magnitude m e < magnitude (2 * minMantissa) e := magnitude_lt_magnitude h.mantissa e
      _ ≤ magnitude (2 * minMantissa) maxExponent := magnitude_mono _ (not_lt.1 hnot)
      _ = magnitude minMantissa (maxExponent + 1) := (magnitude_succ ..).symm
      _ = limit := limit_eq.symm

/-- The multiple is the mantissa of a canonical number, or the least number above them. -/
theorem multiple_bounds (hnum : 0 < num) (hden : 0 < den) :
    multiple num den ≤ 2 * minMantissa ∧
      (step num den = minExponent ∨ minMantissa ≤ multiple num den) := by
  obtain ⟨hlow, hhigh⟩ := log2Ratio_spec hnum hden
  have hstep : log2Ratio num den - 52 ≤ step num den := le_max_left _ _
  constructor
  · refine multiple_le hden ?_
    calc (num : ℚ) ≤ den * 2 ^ (log2Ratio num den + 1) := hhigh.le
      _ ≤ den * 2 ^ (step num den + (53 : ℕ)) := by
        refine mul_le_mul_of_nonneg_left (zpow_le_zpow_right₀ one_le_two ?_) (Nat.cast_nonneg den)
        omega
      _ = den * magnitude (2 ^ 53) (step num den) := by rw [magnitude_two_pow]
  · rcases max_choice (log2Ratio num den - 52) minExponent with hmax | hmax
    · refine .inr (le_multiple hden ?_)
      have hsize : step num den + (52 : ℕ) = log2Ratio num den := by
        rw [step, hmax]
        exact sub_add_cancel _ _
      calc (den : ℚ) * magnitude (2 ^ 52) (step num den) = den * 2 ^ log2Ratio num den := by
            rw [magnitude_two_pow, hsize]
        _ ≤ num := hlow
    · exact .inl hmax

theorem ofRatio_of_pos (negative : Bool) (hnum : 0 < num) :
    ofRatio negative num den =
      let (m, e) := if multiple num den = 2 * minMantissa then (minMantissa, step num den + 1)
        else (multiple num den, step num den)
      if maxExponent < e then .infinite negative else .finite negative m e :=
  if_neg hnum.ne'

/-- **What a quotient is rounded to.** -/
theorem ofRatio_eq (negative : Bool) (hnum : 0 < num) (hden : 0 < den) :
    ∃ m e, Canonical m e ∧ magnitude m e = rounded num den ∧
      ofRatio negative num den =
        if maxExponent < e then .infinite negative else .finite negative m e := by
  have hstep : minExponent ≤ step num den := le_max_right _ _
  obtain ⟨hle, hnormal⟩ := multiple_bounds hnum hden
  rw [ofRatio_of_pos negative hnum]
  by_cases hcarry : multiple num den = 2 * minMantissa
  · refine ⟨minMantissa, step num den + 1, ⟨by decide, by omega, .inr le_rfl⟩, ?_, ?_⟩
    · rw [magnitude_succ, rounded, hcarry]
    · rw [if_pos hcarry]
  · refine ⟨multiple num den, step num den, ⟨lt_of_le_of_ne hle hcarry, hstep, hnormal⟩, rfl, ?_⟩
    rw [if_neg hcarry]

/-! ### Products -/

variable {m n : ℕ} {e f : Int}

/-- A product of finite numbers above zero, which is rounded. -/
theorem mul_finite (hm : 0 < m) (hn : 0 < n) :
    ∃ k d, Canonical k d ∧
      magnitude k d = rounded ((ratio m e).1 * (ratio n f).1) ((ratio m e).2 * (ratio n f).2) ∧
      (finite false m e).mul (.finite false n f) =
        if maxExponent < d then .infinite false else .finite false k d := by
  exact ofRatio_eq false (Nat.mul_pos (ratio_fst_pos hm e) (ratio_fst_pos hn f))
    (Nat.mul_pos (ratio_snd_pos m e) (ratio_snd_pos n f))

/-- A product with a finite number above zero is either infinite or finite, and has no sign. -/
theorem mul_cases {x : Binary64} (hx : (zero false).lt x = true) (hn : 0 < n) :
    x.mul (.finite false n f) = .infinite false ∨
      ∃ k d, x.mul (.finite false n f) = .finite false k d := by
  obtain rfl | ⟨m, e, hm, rfl⟩ := zero_lt_iff.1 hx
  · exact .inl (if_neg hn.ne')
  · obtain ⟨k, d, -, -, hmul⟩ := mul_finite hm hn (e := e) (f := f)
    rw [hmul]
    split_ifs
    · exact .inl rfl
    · exact .inr ⟨k, d, rfl⟩

/-- **Multiplication keeps the order**, rounding included. -/
theorem mul_le_mul {x y : Binary64} (hx : (zero false).lt x = true) (hle : x.le y = true)
    (hn : 0 < n) : (x.mul (.finite false n f)).le (y.mul (.finite false n f)) = true := by
  obtain rfl | ⟨m', e', hm', rfl⟩ := zero_lt_iff.1 (zero_lt_of_le hx hle)
  · have hproduct : (infinite false).mul (.finite false n f) = .infinite false := if_neg hn.ne'
    rw [hproduct]
    obtain h | ⟨k, d, h⟩ := mul_cases hx hn (f := f) <;> rw [h] <;> rfl
  · obtain rfl | ⟨m, e, hm, rfl⟩ := zero_lt_iff.1 hx
    · cases hle
    · obtain ⟨k, d, hcanonical, hvalue, hmul⟩ := mul_finite hm hn (e := e) (f := f)
      obtain ⟨k', d', hcanonical', hvalue', hmul'⟩ := mul_finite hm' hn (e := e') (f := f)
      have hcross := magnitude_le_iff.1 (le_finite_iff.1 hle)
      have horder : magnitude k d ≤ magnitude k' d' := by
        rw [hvalue, hvalue']
        refine rounded_mono ?_ ?_ ?_ ?_ ?_
        · exact Nat.mul_pos (ratio_fst_pos hm e) (ratio_fst_pos hn f)
        · exact Nat.mul_pos (ratio_snd_pos m e) (ratio_snd_pos n f)
        · exact Nat.mul_pos (ratio_fst_pos hm' e') (ratio_fst_pos hn f)
        · exact Nat.mul_pos (ratio_snd_pos m' e') (ratio_snd_pos n f)
        · rw [Nat.mul_mul_mul_comm, Nat.mul_mul_mul_comm (ratio m' e').1]
          exact Nat.mul_le_mul_right _ hcross
      rw [hmul, hmul']
      by_cases hlarge : maxExponent < d
      · -- Then the greater one is too large as well.
        have hlarge' : maxExponent < d' :=
          hcanonical'.lt_exponent_iff.2 ((hcanonical.lt_exponent_iff.1 hlarge).trans horder)
        rw [if_pos hlarge, if_pos hlarge']
        rfl
      · rw [if_neg hlarge]
        split_ifs
        · rfl
        · exact le_finite_iff.2 horder

end RollCall.Binary64
