import Mathlib.Data.Nat.Notation
import RollCall.Json.Printer
import RollCall.Json.Reader

/-!
# Quoted texts read back

A text in quotation marks is read back character by character: whatever was read before, the
escape of a character brings exactly that character, and the reader stands right behind the escape.
Characters above U+FFFF are the only ones that take two escapes; the reader joins them because
neither half is a character of its own.

## Main results

* `string?_escapeChar`: the escape of a character reads back, whatever stands around it.
* `string?_quote`: a text in quotation marks reads back.
* `escapeChar_isPrintable`: an escape is printable ASCII.
-/

namespace RollCall.Json

/-! ### Four hexadecimal digits -/

/-- The escape of a UTF-16 unit, digit by digit. -/
theorem escapeUnit_eq (n : ℕ) :
    escapeUnit n = ['\\', 'u', Text.hexDigit (n / 16 / 16 / 16 % 16),
      Text.hexDigit (n / 16 / 16 % 16), Text.hexDigit (n / 16 % 16), Text.hexDigit (n % 16)] :=
  rfl

/-- The digits of a UTF-16 unit read back. -/
theorem unit?_hexDigit {n : ℕ} (h : n < 0x10000) :
    unit? (Text.hexDigit (n / 16 / 16 / 16 % 16)) (Text.hexDigit (n / 16 / 16 % 16))
      (Text.hexDigit (n / 16 % 16)) (Text.hexDigit (n % 16)) = some n := by
  have hmod (m : ℕ) : Text.hexValue? (Text.hexDigit (m % 16)) = some (m % 16) :=
    Text.hexValue?_hexDigit (Nat.mod_lt m (by decide))
  simp only [unit?, hmod, Option.bind_eq_bind, Option.bind_some, Option.pure_def,
    Option.some.injEq]
  omega

/-! ### One escape -/

/-- An escaped unit that is no half of a pair is read at once. -/
theorem string?_unit {a b c d : Char} {n : ℕ} (hn : unit? a b c d = some n)
    (hhigh : isHigh n = false) (hlow : isLow n = false) (read rest : List Char) :
    string? read ('\\' :: 'u' :: a :: b :: c :: d :: rest) =
      string? (Char.ofNat n :: read) rest := by
  by_cases hpair : ∃ e f g h cs, rest = '\\' :: 'u' :: e :: f :: g :: h :: cs
  · obtain ⟨e, f, g, h, cs, rfl⟩ := hpair
    rw [string?.eq_2, hn]
    simp only [hhigh, hlow, Bool.false_eq_true, if_false]
  · rw [string?.eq_3 _ _ _ _ _ _ fun e f g h cs heq => hpair ⟨e, f, g, h, cs, heq⟩, hn]
    simp only [hhigh, hlow, Bool.or_self, Bool.false_eq_true, if_false]

/-- Two escaped units that are a pair are read as one character. -/
theorem string?_pair {a b c d e f g h : Char} {high low : ℕ} (hh : unit? a b c d = some high)
    (hl : unit? e f g h = some low) (hhigh : isHigh high = true) (hlow : isLow low = true)
    (read rest : List Char) :
    string? read
        ('\\' :: 'u' :: a :: b :: c :: d :: '\\' :: 'u' :: e :: f :: g :: h :: rest) =
      string? (ofPair high low :: read) rest := by
  rw [string?.eq_2, hh, hl]
  simp only [hhigh, hlow, if_true]

/-- A character that stands for another after a backslash is read as that one. -/
theorem string?_simple {c x : Char} (hx : simpleEscape? c = some x) (read rest : List Char) :
    string? read ('\\' :: c :: rest) = string? (x :: read) rest := by
  have hu : c ≠ 'u' := by
    rintro rfl
    rw [show simpleEscape? 'u' = none from rfl] at hx
    cases hx
  rw [string?.eq_4 _ _ _ (fun _ _ _ _ _ _ _ _ _ hc _ => hu hc) (fun _ _ _ _ _ hc _ => hu hc), hx]

/-- Every other character that is no control stands for itself. -/
theorem string?_plain {c : Char} (hq : c ≠ '"') (hb : c ≠ '\\') (hc : 0x20 ≤ c.toNat)
    (read rest : List Char) : string? read (c :: rest) = string? (c :: read) rest := by
  rw [string?.eq_5 _ _ _ (fun h => hq h) (fun _ _ _ _ _ _ _ _ _ h _ => hb h)
    (fun _ _ _ _ _ h _ => hb h) (fun _ _ h _ => hb h)]
  rw [if_neg]
  simp only [Bool.or_eq_true, decide_eq_true_eq, beq_iff_eq, not_or]
  exact ⟨by omega, hb⟩

/-! ### Characters -/

/-- A character is no half of a surrogate pair. -/
theorem not_surrogate (c : Char) : isHigh c.toNat = false ∧ isLow c.toNat = false := by
  have hvalid := c.valid
  simp only [isHigh, isLow, Bool.and_eq_false_iff, decide_eq_false_iff_not]
  rcases hvalid with h | ⟨h, -⟩
  · change c.toNat < 0xD800 at h
    omega
  · change 0xDFFF < c.toNat at h
    omega

/-- The halves of a character above U+FFFF make it up again. -/
theorem ofPair_halves {c : Char} (h : 0x10000 ≤ c.toNat) :
    ofPair (0xD800 + (c.toNat - 0x10000) / 0x400) (0xDC00 + (c.toNat - 0x10000) % 0x400) = c := by
  rw [ofPair, show 0x10000 + (0xD800 + (c.toNat - 0x10000) / 0x400 - 0xD800) * 0x400 +
    (0xDC00 + (c.toNat - 0x10000) % 0x400 - 0xDC00) = c.toNat by omega]
  exact Char.ofNat_toNat c

/-- A character is at most U+10FFFF. -/
theorem toNat_lt (c : Char) : c.toNat < 0x110000 := by
  rcases c.valid with h | ⟨-, h⟩
  · change c.toNat < 0xD800 at h
    omega
  · exact h

/-- A character above U+FFFF is read from its two escapes. -/
theorem string?_halves {c : Char} (h : 0x10000 ≤ c.toNat) (read rest : List Char) :
    string? read (escapeUnit (0xD800 + (c.toNat - 0x10000) / 0x400) ++
        escapeUnit (0xDC00 + (c.toNat - 0x10000) % 0x400) ++ rest) =
      string? (c :: read) rest := by
  have hlt := toNat_lt c
  have hhigh := unit?_hexDigit (n := 0xD800 + (c.toNat - 0x10000) / 0x400) (by omega)
  have hlow := unit?_hexDigit (n := 0xDC00 + (c.toNat - 0x10000) % 0x400) (by omega)
  rw [escapeUnit_eq, escapeUnit_eq]
  refine (string?_pair hhigh hlow ?_ ?_ read rest).trans (by rw [ofPair_halves h])
  · simp only [isHigh, Bool.and_eq_true, decide_eq_true_eq]
    omega
  · simp only [isLow, Bool.and_eq_true, decide_eq_true_eq]
    omega

/-- The two controls with a letter of their own are known by their numbers. -/
theorem ofNat_eq_of_toNat_eq {c : Char} {n : ℕ} (h : c.toNat = n) : Char.ofNat n = c := by
  rw [← h]
  exact Char.ofNat_toNat c

/-- **The escape of a character reads back**, whatever was read before it and follows it. -/
theorem string?_escapeChar (c : Char) (read rest : List Char) :
    string? read (escapeChar c ++ rest) = string? (c :: read) rest := by
  unfold escapeChar
  split
  · next h => exact string?_simple (by rw [eq_of_beq h]; rfl) read rest
  split
  · next h => exact string?_simple (by rw [eq_of_beq h]; rfl) read rest
  split
  · next h => exact string?_simple (by rw [eq_of_beq h]; rfl) read rest
  split
  · next h => exact string?_simple (by rw [eq_of_beq h]; rfl) read rest
  split
  · next h => exact string?_simple (by rw [eq_of_beq h]; rfl) read rest
  split
  · next h =>
    have hb : simpleEscape? 'b' = some c := congrArg some (ofNat_eq_of_toNat_eq (eq_of_beq h))
    exact string?_simple hb read rest
  split
  · next h =>
    have hf : simpleEscape? 'f' = some c := congrArg some (ofNat_eq_of_toNat_eq (eq_of_beq h))
    exact string?_simple hf read rest
  split
  · next hq hb _ _ _ _ _ h =>
    simp only [Bool.and_eq_true, decide_eq_true_eq] at h
    exact string?_plain (by simpa using hq) (by simpa using hb) h.1 read rest
  split
  · next h =>
    obtain ⟨hhigh, hlow⟩ := not_surrogate c
    rw [escapeUnit_eq]
    refine (string?_unit (unit?_hexDigit h) hhigh hlow read rest).trans ?_
    rw [Char.ofNat_toNat]
  · next h => exact string?_halves (by omega) read rest

/-- The escapes of some characters read back. -/
theorem string?_flatMap_escapeChar (cs read rest : List Char) :
    string? read (cs.flatMap escapeChar ++ rest) = string? (cs.reverse ++ read) rest := by
  induction cs generalizing read with
  | nil => rfl
  | cons c cs ih =>
    rw [List.flatMap_cons, List.append_assoc, string?_escapeChar, ih, List.reverse_cons,
      List.append_assoc]
    rfl

/-- **A text in quotation marks reads back**: `quote s` is a mark and what the reader takes. -/
theorem string?_quote (s : String) (rest : List Char) :
    ∃ body, quote s ++ rest = '"' :: body ∧ string? [] body = some (s.toList, rest) := by
  refine ⟨s.toList.flatMap escapeChar ++ '"' :: rest, ?_, ?_⟩
  · simp [quote]
  · rw [string?_flatMap_escapeChar, string?.eq_1]
    simp

end RollCall.Json
