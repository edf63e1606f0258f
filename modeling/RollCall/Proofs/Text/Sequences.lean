import Mathlib.Tactic.Ring
import RollCall.Text.Utf8

/-!
# ASCII in UTF-8

A byte below 0x80 is the character of its number. No longer sequence of bytes spells a character
that is one: the ranges that the leading bytes promise leave out every number that a shorter
sequence could have spelled. So a text is ASCII exactly where its bytes are, whatever stands around
them.

## Main definitions

* `Pending.least`: the least number that an open sequence may still spell.
* `Pending.IsLong`: an open sequence that spells no ASCII character any more.

## Main results

* `decodeFrom_read`: what was read before stands in front of what is read.
* `decodeFrom_ascii`: ASCII bytes are the characters of their numbers.
* `ascii_of_decodeFrom`: ASCII characters come from ASCII bytes.
-/

namespace RollCall.Utf8

/-- What was read before stands in front of what is read. -/
theorem decodeFrom_read (open? : Option Pending) (i : ℕ) (read : List Char) (bs : List UInt8) :
    decodeFrom open? i read bs = (decodeFrom open? i [] bs).map (read.reverse ++ ·) := by
  induction bs generalizing open? i read with
  | nil =>
    cases open? with
    | none => exact congrArg Except.ok (List.append_nil _).symm
    | some p => rfl
  | cons b bs ih =>
    have hpush (c : Char) : decodeFrom none (i + 1) (c :: read) bs =
        (decodeFrom none (i + 1) [c] bs).map (read.reverse ++ ·) := by
      rw [ih none (i + 1) (c :: read), ih none (i + 1) [c]]
      cases decodeFrom none (i + 1) [] bs with
      | error fault => rfl
      | ok cs => simp [Except.map]
    cases open? with
    | none =>
      rw [decodeFrom, decodeFrom]
      cases lead? b with
      | none => rfl
      | some l =>
        dsimp only
        split
        · exact hpush _
        · exact ih ..
    | some p =>
      rw [decodeFrom, decodeFrom]
      dsimp only
      split
      · split
        · exact hpush _
        · exact ih ..
      · rfl

/-- One character more in front. -/
theorem decodeFrom_singleton (i : ℕ) (c : Char) (bs : List UInt8) :
    decodeFrom none i [c] bs = (decodeFrom none i [] bs).map (c :: ·) :=
  decodeFrom_read none i [c] bs

theorem exists_of_decodeFrom_singleton {i : ℕ} {c : Char} {bs : List UInt8} {cs : List Char}
    (h : decodeFrom none i [c] bs = .ok cs) :
    ∃ cs', cs = c :: cs' ∧ decodeFrom none i [] bs = .ok cs' := by
  rw [decodeFrom_singleton] at h
  cases hrest : decodeFrom none i [] bs with
  | error fault =>
    rw [hrest] at h
    cases h
  | ok cs' =>
    rw [hrest] at h
    cases h
    exact ⟨cs', rfl, rfl⟩

/-! ### Single bytes -/

/-- What a byte below 0x80 promises is the character of its number. -/
theorem lead?_ascii {b : UInt8} (h : b.toNat < 0x80) : lead? b = some ⟨0, 0x80, 0xBF, b.toNat⟩ :=
  if_pos h

/-- A byte that nothing is to follow is below 0x80. -/
theorem ascii_of_lead? {b : UInt8} {l : Lead} (h : lead? b = some l) (hfollow : l.follow = 0) :
    b.toNat < 0x80 := by
  have htable : ∀ n : Fin 256, ∀ l ∈ lead? (UInt8.ofNat n.val), l.follow = 0 → n.val < 0x80 := by
    decide +kernel
  refine htable ⟨b.toNat, b.toNat_lt⟩ l ?_ hfollow
  rw [UInt8.ofNat_toNat]
  exact h

/-- **ASCII bytes are the characters of their numbers.** -/
theorem decodeFrom_ascii {bs : List UInt8} (h : ∀ b ∈ bs, b.toNat < 0x80) (i : ℕ) :
    decodeFrom none i [] bs = .ok (bs.map fun b => Char.ofNat b.toNat) := by
  induction bs generalizing i with
  | nil => rfl
  | cons b bs ih =>
    rw [decodeFrom, lead?_ascii (h b List.mem_cons_self)]
    dsimp only
    rw [if_pos rfl, decodeFrom_singleton, ih fun b' hb' => h b' (List.mem_cons_of_mem b hb')]
    rfl

/-! ### Sequences of several bytes -/

/-- The least number that an open sequence may still spell. -/
def Pending.least (p : Pending) : ℕ :=
  p.bits * 64 ^ p.missing + (p.low.toNat - 0x80) * 64 ^ (p.missing - 1)

/-- An open sequence that spells no ASCII character any more. -/
def Pending.IsLong (p : Pending) : Prop :=
  0x80 ≤ p.least

/-- A sequence of several bytes spells no ASCII character from its first byte on: the leading bytes
that would allow it are refused, or narrow the range of the byte after them. -/
theorem isLong_of_lead? {b : UInt8} {l : Lead} (h : lead? b = some l) (hfollow : l.follow ≠ 0)
    (i : ℕ) : Pending.IsLong ⟨i, b, 1, l.follow, l.low, l.high, l.bits⟩ := by
  have htable : ∀ n : Fin 256, ∀ l ∈ lead? (UInt8.ofNat n.val), l.follow ≠ 0 →
      0x80 ≤ l.bits * 64 ^ l.follow + (l.low.toNat - 0x80) * 64 ^ (l.follow - 1) := by
    decide +kernel
  refine htable ⟨b.toNat, b.toNat_lt⟩ l ?_ hfollow
  rw [UInt8.ofNat_toNat]
  exact h

namespace Pending.IsLong

variable {p : Pending} (h : p.IsLong) {b : UInt8} (hb : p.low ≤ b)
include h hb

/-- A sequence that spells no ASCII character goes on as one. -/
theorem next (hmissing : 1 < p.missing) :
    Pending.IsLong ⟨p.position, p.leading, p.seen + 1, p.missing - 1, 0x80, 0xBF,
      p.bits * 64 + (b.toNat - 0x80)⟩ := by
  obtain ⟨m, hm⟩ := Nat.exists_eq_add_of_le' (show 2 ≤ p.missing from hmissing)
  have hbyte : (p.low.toNat - 0x80) * 64 ^ (m + 1) ≤ (b.toNat - 0x80) * 64 ^ (m + 1) :=
    Nat.mul_le_mul_right _ (Nat.sub_le_sub_right (UInt8.le_iff_toNat_le.1 hb) _)
  rw [IsLong, least, hm] at h
  rw [IsLong, least, hm]
  calc 0x80 ≤ p.bits * 64 ^ (m + 2) + (p.low.toNat - 0x80) * 64 ^ (m + 1) := h
    _ ≤ p.bits * 64 ^ (m + 2) + (b.toNat - 0x80) * 64 ^ (m + 1) := Nat.add_le_add_left hbyte _
    _ = (p.bits * 64 + (b.toNat - 0x80)) * 64 ^ (m + 1) := by ring
    _ ≤ _ := Nat.le_add_right _ _

/-- The number of a finished sequence is that of no ASCII character. -/
theorem last (hmissing : p.missing ≤ 1) : 0x80 ≤ p.bits * 64 + (b.toNat - 0x80) := by
  have hbyte := UInt8.le_iff_toNat_le.1 hb
  rw [IsLong, least] at h
  obtain hm | hm : p.missing = 0 ∨ p.missing = 1 := by omega
  · rw [hm] at h
    omega
  · rw [hm] at h
    omega

end Pending.IsLong

/-- A number from 0x80 on is that of no ASCII character, NUL apart, which stands for the numbers of
no character. -/
theorem not_ascii_ofNat {n : ℕ} (h : 0x80 ≤ n) :
    (Char.ofNat n).toNat = 0 ∨ 0x80 ≤ (Char.ofNat n).toNat := by
  by_cases hvalid : n.isValidChar
  · have hself : (Char.ofNat n).toNat = n := congrArg Char.toNat (dif_pos hvalid)
    rw [hself]
    exact .inr h
  · exact .inl (congrArg Char.toNat (dif_neg hvalid))

/-- **ASCII characters come from ASCII bytes**, wherever the decoder stands; NUL is left out. -/
theorem ascii_of_decodeFrom {open? : Option Pending} (hopen : ∀ p ∈ open?, p.IsLong) {i : ℕ}
    {bs : List UInt8} {cs : List Char} (h : decodeFrom open? i [] bs = .ok cs)
    (hcs : ∀ c ∈ cs, 0 < c.toNat ∧ c.toNat < 0x80) : open? = none ∧ ∀ b ∈ bs, b.toNat < 0x80 := by
  induction bs generalizing open? i cs with
  | nil =>
    cases open? with
    | none => exact ⟨rfl, nofun⟩
    | some p => cases h
  | cons b bs ih =>
    cases open? with
    | none =>
      rw [decodeFrom] at h
      cases hlead : lead? b with
      | none =>
        rw [hlead] at h
        cases h
      | some l =>
        rw [hlead] at h
        dsimp only at h
        split at h
        · next hfollow =>
          obtain ⟨cs', rfl, hrest⟩ := exists_of_decodeFrom_singleton h
          have hclosed : ∀ p ∈ (none : Option Pending), p.IsLong := nofun
          obtain ⟨-, hbs⟩ := ih hclosed hrest fun c hc => hcs c (List.mem_cons_of_mem _ hc)
          exact ⟨rfl, List.forall_mem_cons.2 ⟨ascii_of_lead? hlead hfollow, hbs⟩⟩
        · next hfollow =>
          -- An open sequence never comes to an ASCII character, and it has to come to one.
          have hlong := isLong_of_lead? hlead hfollow i
          exact absurd (ih (fun p hp => Option.mem_some.1 hp ▸ hlong) h hcs).1
            (Option.some_ne_none _)
    | some p =>
      have hlong := hopen p rfl
      rw [decodeFrom] at h
      dsimp only at h
      split at h
      · next hrange =>
        have hlow : p.low ≤ b := of_decide_eq_true (Bool.and_eq_true_iff.1 hrange).1
        split at h
        · next hmissing =>
          obtain ⟨cs', rfl, -⟩ := exists_of_decodeFrom_singleton h
          have hascii := hcs _ List.mem_cons_self
          have hnot := not_ascii_ofNat (hlong.last hlow hmissing)
          omega
        · next hmissing =>
          have hnext := hlong.next hlow (Nat.not_le.1 hmissing)
          exact absurd (ih (fun p hp => Option.mem_some.1 hp ▸ hnext) h hcs).1
            (Option.some_ne_none _)
      · cases h

end RollCall.Utf8
