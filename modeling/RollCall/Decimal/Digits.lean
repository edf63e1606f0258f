/-!
# Decimal digits

Natural numbers and integers in decimal notation, without leading zeros. `ofDigits` reads any
digits, leading zeros included; `digits` writes them.

## Main results

* `ofDigits_digits`: what is written reads back.
* `digits_isDigit`: only digits are written.
-/

namespace RollCall.Decimal

/-- The ASCII digits. -/
def isDigit (c : Char) : Bool :=
  '0' ≤ c && c ≤ '9'

/-- The value of an ASCII digit. -/
def digitValue (c : Char) : Nat :=
  c.toNat - 48

/-- The ASCII digit of a value below ten. -/
def digitChar (n : Nat) : Char :=
  Char.ofNat (48 + n)

/-- The number that a list of digits spells, most significant first. -/
def ofDigits (ds : List Char) : Nat :=
  ds.foldl (fun n d => n * 10 + digitValue d) 0

/-- The digits of `n` in front of `rest`. -/
def digitsOnto (n : Nat) (rest : List Char) : List Char :=
  if n < 10 then digitChar n :: rest
  else digitsOnto (n / 10) (digitChar (n % 10) :: rest)
termination_by n

/-- The decimal digits of a number, without leading zeros. -/
def digits (n : Nat) : List Char :=
  digitsOnto n []

/-- The decimal text of an integer: a minus sign in front of negative ones. -/
def integer (n : Int) : List Char :=
  if n < 0 then '-' :: digits n.natAbs else digits n.natAbs

/-- The decimal text of an integer as a string. -/
def ofInt (n : Int) : String :=
  String.ofList (integer n)

/-! ### Writing, then reading -/

theorem digitValue_digitChar {n : Nat} (h : n < 10) : digitValue (digitChar n) = n := by
  have : n = 0 ∨ n = 1 ∨ n = 2 ∨ n = 3 ∨ n = 4 ∨ n = 5 ∨ n = 6 ∨ n = 7 ∨ n = 8 ∨ n = 9 := by omega
  rcases this with rfl | rfl | rfl | rfl | rfl | rfl | rfl | rfl | rfl | rfl <;> rfl

theorem isDigit_digitChar {n : Nat} (h : n < 10) : isDigit (digitChar n) = true := by
  have : n = 0 ∨ n = 1 ∨ n = 2 ∨ n = 3 ∨ n = 4 ∨ n = 5 ∨ n = 6 ∨ n = 7 ∨ n = 8 ∨ n = 9 := by omega
  rcases this with rfl | rfl | rfl | rfl | rfl | rfl | rfl | rfl | rfl | rfl <;> rfl

/-- What comes after the written digits is read on from the number they spell. -/
theorem foldl_digitsOnto (n : Nat) (rest : List Char) :
    (digitsOnto n rest).foldl (fun n d => n * 10 + digitValue d) 0 =
      rest.foldl (fun n d => n * 10 + digitValue d) n := by
  induction n using Nat.strongRecOn generalizing rest with
  | _ n ih =>
    rw [digitsOnto]
    split
    · next h => simp [digitValue_digitChar h]
    · next h =>
      rw [ih (n / 10) (by omega)]
      simp only [List.foldl_cons, digitValue_digitChar (Nat.mod_lt n (by decide : 0 < 10))]
      rw [Nat.mul_comm, Nat.div_add_mod]

/-- What is written reads back. -/
@[simp] theorem ofDigits_digits (n : Nat) : ofDigits (digits n) = n := by
  simp [ofDigits, digits, foldl_digitsOnto]

theorem isDigit_of_mem_digitsOnto {n : Nat} {rest : List Char} {c : Char}
    (h : c ∈ digitsOnto n rest) : isDigit c = true ∨ c ∈ rest := by
  induction n using Nat.strongRecOn generalizing rest with
  | _ n ih =>
    rw [digitsOnto] at h
    split at h
    · next hn =>
      rcases List.mem_cons.1 h with rfl | h
      · exact .inl (isDigit_digitChar hn)
      · exact .inr h
    · next hn =>
      rcases ih (n / 10) (by omega) h with h | h
      · exact .inl h
      · rcases List.mem_cons.1 h with rfl | h
        · exact .inl (isDigit_digitChar (Nat.mod_lt n (by decide)))
        · exact .inr h

/-- Only digits are written. -/
theorem digits_isDigit {n : Nat} {c : Char} (h : c ∈ digits n) : isDigit c = true := by
  rcases isDigit_of_mem_digitsOnto h with h | h
  · exact h
  · simp at h

end RollCall.Decimal
