import Mathlib.Algebra.Group.Nat.Defs
import Mathlib.Data.List.Induction
import RollCall.Decimal.Digits

/-!
# How many digits a number takes

The decimal digits of a number grow by one at the end for each factor of ten, and this module reads
off that recursion what the readers of numbers need: there is a digit, a leading zero stands alone,
and a number has at most `k` digits exactly below the `k`-th power of ten.

## Main results

* `digits_of_ge`: the digits of a number of several digits, one by one.
* `length_digits_le_iff`: the number of digits against powers of ten.
* `ofDigits_lt`: what some digits spell is below the power of ten of their number.
* `digits_ne_zero_cons`: no written number begins with a zero that could be left out.
-/

namespace RollCall.Decimal

/-- Digits are written in front of what is already there. -/
theorem digitsOnto_eq_append (n : Nat) (rest : List Char) :
    digitsOnto n rest = digits n ++ rest := by
  induction n using Nat.strongRecOn generalizing rest with
  | _ n ih =>
    rw [digits, digitsOnto.eq_def n rest, digitsOnto.eq_def n []]
    rcases Nat.lt_or_ge n 10 with h | h
    · rw [if_pos h, if_pos h]
      rfl
    · rw [if_neg (by omega), if_neg (by omega), ih (n / 10) (by omega),
        ih (n / 10) (by omega) [digitChar (n % 10)], List.append_assoc]
      rfl

/-- A number below ten is one digit. -/
theorem digits_of_lt {n : Nat} (h : n < 10) : digits n = [digitChar n] := by
  rw [digits, digitsOnto, if_pos h]

/-- Every other number is the digits of its tens, and then its last digit. -/
theorem digits_of_ge {n : Nat} (h : 10 ≤ n) :
    digits n = digits (n / 10) ++ [digitChar (n % 10)] := by
  rw [digits, digitsOnto, if_neg (by omega), digitsOnto_eq_append]

/-- Every number has a digit. -/
theorem digits_ne_nil (n : Nat) : digits n ≠ [] := by
  rcases Nat.lt_or_ge n 10 with h | h
  · rw [digits_of_lt h]
    simp
  · rw [digits_of_ge h]
    simp

/-- **Digits against powers of ten**: a number has at most `k` digits exactly if it is below the
`k`-th power of ten. -/
theorem length_digits_le_iff {n k : Nat} (hk : 0 < k) :
    (digits n).length ≤ k ↔ n < 10 ^ k := by
  induction n using Nat.strongRecOn generalizing k with
  | _ n ih =>
    obtain ⟨k, rfl⟩ : ∃ m, k = m + 1 := ⟨k - 1, by omega⟩
    rcases Nat.lt_or_ge n 10 with h | h
    · have hpow : 10 ≤ 10 ^ (k + 1) := Nat.le_self_pow (by omega) 10
      rw [digits_of_lt h, List.length_singleton]
      omega
    · rw [digits_of_ge h, List.length_append, List.length_singleton, Nat.add_le_add_iff_right]
      rcases Nat.eq_zero_or_pos k with rfl | hpos
      · have hne := List.length_pos_iff.2 (digits_ne_nil (n / 10))
        omega
      · rw [ih (n / 10) (by omega) hpos, Nat.div_lt_iff_lt_mul (by omega), Nat.pow_succ]

/-- The first digit of a number other than zero is no zero. -/
theorem head?_digits_ne_zero {n : Nat} (h : 0 < n) : (digits n).head? ≠ some '0' := by
  induction n using Nat.strongRecOn with
  | _ n ih =>
    rcases Nat.lt_or_ge n 10 with hn | hn
    · rw [digits_of_lt hn]
      have : ∀ m : Fin 10, 0 < m.val → digitChar m.val ≠ '0' := by decide
      simpa using this ⟨n, hn⟩ h
    · obtain ⟨d, ds, hds⟩ := List.exists_cons_of_ne_nil (digits_ne_nil (n / 10))
      have htens := ih (n / 10) (by omega) (by omega)
      rw [digits_of_ge hn, hds]
      rwa [hds] at htens

/-- **No written number begins with a zero that could be left out.** -/
theorem digits_ne_zero_cons (n : Nat) (d : Char) (ds : List Char) :
    digits n ≠ '0' :: d :: ds := by
  intro h
  rcases Nat.eq_zero_or_pos n with rfl | hpos
  · rw [digits_of_lt (by omega)] at h
    simp at h
  · have hhead := head?_digits_ne_zero hpos
    rw [h] at hhead
    exact hhead rfl

/-- A digit is worth less than ten. -/
theorem digitValue_lt {c : Char} (h : isDigit c = true) : digitValue c < 10 := by
  simp only [isDigit, Bool.and_eq_true, decide_eq_true_eq] at h
  have hle : c.toNat ≤ 57 := h.2
  rw [digitValue]
  omega

/-- One more digit at the end. -/
theorem ofDigits_append_singleton (ds : List Char) (d : Char) :
    ofDigits (ds ++ [d]) = ofDigits ds * 10 + digitValue d := by
  simp [ofDigits]

/-- **What some digits spell is below the power of ten of their number.** -/
theorem ofDigits_lt {ds : List Char} (h : ∀ c ∈ ds, isDigit c = true) :
    ofDigits ds < 10 ^ ds.length := by
  induction ds using List.reverseRecOn with
  | nil => simp [ofDigits]
  | append_singleton ds d ih =>
    have hd := digitValue_lt (h d (by simp))
    have hds := ih fun c hc => h c (by simp [hc])
    rw [ofDigits_append_singleton, List.length_append, List.length_singleton, Nat.pow_succ]
    omega

end RollCall.Decimal
