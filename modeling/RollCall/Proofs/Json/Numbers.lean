import Mathlib.Data.Int.Notation
import Mathlib.Data.List.TakeDrop
import Mathlib.Data.List.TakeWhile
import RollCall.Json.Printer
import RollCall.Json.Reader
import RollCall.Proofs.Decimal.Length

/-!
# Integers in JSON

A written integer is a sign and digits, and the reader of numbers takes exactly those if what
follows does not go on with the number. In the other direction every integer that the reader brings
has at most `maxDigits` digits, because it counts them before it looks at their value.

## Main definitions

* `Ends`: a text that does not go on with a number.

## Main results

* `number?_digits`: written digits read back.
* `natAbs_lt_of_number?`: an integer that was read is short.
-/

namespace RollCall.Json

/-- A text that does not go on with a number: it begins with no digit, point or exponent. -/
def Ends (cs : List Char) : Prop :=
  ∀ c ∈ cs.head?, Decimal.isDigit c = false ∧ c ≠ '.' ∧ c ≠ 'e' ∧ c ≠ 'E'

theorem Ends.nil : Ends [] := by
  intro c hc
  cases hc

theorem Ends.cons {c : Char} (cs : List Char)
    (h : Decimal.isDigit c = false ∧ c ≠ '.' ∧ c ≠ 'e' ∧ c ≠ 'E') : Ends (c :: cs) := by
  intro d hd
  cases hd
  exact h

/-- Digits are taken up to what does not go on with them. -/
theorem takeDigits_append {ds rest : List Char} (hds : ∀ c ∈ ds, Decimal.isDigit c = true)
    (hrest : Ends rest) : takeDigits (ds ++ rest) = (ds, rest) := by
  have hstop : rest.takeWhile Decimal.isDigit = [] ∧ rest.dropWhile Decimal.isDigit = rest := by
    cases rest with
    | nil => exact ⟨rfl, rfl⟩
    | cons c cs =>
      have hc := (hrest c rfl).1
      exact ⟨by rw [List.takeWhile_cons, hc]; rfl, by rw [List.dropWhile_cons, hc]; rfl⟩
  rw [takeDigits, List.span_eq_takeWhile_dropWhile, List.takeWhile_append_of_pos hds,
    List.dropWhile_append_of_pos hds, hstop.1, hstop.2, List.append_nil]

/-- The digits of a short number are read as the part before the point. -/
theorem whole?_digits {n : ℕ} (hn : n < 10 ^ maxDigits) {rest : List Char} (hrest : Ends rest) :
    whole? (Decimal.digits n ++ rest) = some (Decimal.digits n, rest) := by
  have hlen : (Decimal.digits n).length ≤ maxDigits :=
    (Decimal.length_digits_le_iff (by decide)).2 hn
  rw [whole?, takeDigits_append (fun c hc => Decimal.digits_isDigit hc) hrest]
  split
  · next h => exact absurd (congrArg Prod.fst h) (Decimal.digits_ne_nil n)
  · next h => exact absurd (congrArg Prod.fst h) (Decimal.digits_ne_zero_cons n _ _)
  · next h =>
    obtain ⟨rfl, rfl⟩ := Prod.mk.inj h
    rw [if_neg (by omega)]

/-- Where a number ends there is no point. -/
theorem places?_of_ends {rest : List Char} (h : Ends rest) : places? rest = some (none, rest) := by
  unfold places?
  split
  · exact absurd rfl (h '.' rfl).2.1
  · rfl

/-- Where a number ends there is no exponent. -/
theorem power?_of_ends {rest : List Char} (h : Ends rest) : power? rest = some (none, rest) := by
  cases rest with
  | nil => rfl
  | cons c cs =>
    obtain ⟨-, -, he, hE⟩ := h c rfl
    rw [power?, if_neg (by simp [he, hE])]

/-- **Written digits read back**, with the sign that was read before them. -/
theorem number?_digits {n : ℕ} (hn : n < 10 ^ maxDigits) {rest : List Char} (hrest : Ends rest)
    (negative : Bool) :
    number? negative (Decimal.digits n ++ rest) =
      some (.int (if negative then -(n : ℤ) else n), rest) := by
  simp only [number?, whole?_digits hn hrest, places?_of_ends hrest, power?_of_ends hrest,
    Option.bind_eq_bind, Option.bind_some, Option.pure_def, Decimal.ofDigits_digits]

/-! ### What is read is short -/

/-- What is taken as digits is digits. -/
theorem isDigit_of_takeDigits {cs ds r : List Char} (h : takeDigits cs = (ds, r)) :
    ∀ c ∈ ds, Decimal.isDigit c = true := by
  rw [takeDigits, List.span_eq_takeWhile_dropWhile] at h
  obtain ⟨rfl, -⟩ := Prod.mk.inj h
  exact fun c hc => List.mem_takeWhile_imp hc

/-- The part before the point spells a short number. -/
theorem ofDigits_lt_of_whole? {cs ds r : List Char} (h : whole? cs = some (ds, r)) :
    Decimal.ofDigits ds < 10 ^ maxDigits := by
  unfold whole? at h
  split at h
  · cases h
  · cases h
  · next htake =>
    split at h
    · cases h
    · next hle =>
      cases h
      exact Nat.lt_of_lt_of_le (Decimal.ofDigits_lt (isDigit_of_takeDigits htake))
        (Nat.pow_le_pow_right (by decide) (by omega))

/-- **An integer that was read is short.** -/
theorem natAbs_lt_of_number? {negative : Bool} {cs r : List Char} {n : ℤ}
    (h : number? negative cs = some (.int n, r)) : n.natAbs < 10 ^ maxDigits := by
  simp only [number?, Option.bind_eq_bind, Option.bind_eq_some_iff, Prod.exists] at h
  obtain ⟨ds, r₁, hwhole, places, r₂, -, power, r₃, -, h⟩ := h
  have hlt := ofDigits_lt_of_whole? hwhole
  split at h
  · simp only [Option.pure_def, Option.some.injEq, Prod.mk.injEq, Json.int.injEq] at h
    obtain ⟨rfl, -⟩ := h
    split <;> omega
  · simp only [Option.pure_def, Option.some.injEq, Prod.mk.injEq, reduceCtorEq, false_and] at h

end RollCall.Json
