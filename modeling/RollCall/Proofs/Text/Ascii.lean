import Mathlib.Data.Nat.Notation
import RollCall.Text.Utf8

/-!
# Printable ASCII

A text of printable ASCII is stored as one byte for each character. Its bytes are read back
wherever the decoder stands between two characters, so what follows them does not matter.

## Main definitions

* `Text.IsPrinting`: the printable ASCII characters, from the space to the tilde.

## Main results

* `Utf8.encode_printing`: one byte for each character.
* `Utf8.decodeFrom_encode`: printable ASCII reads back in front of any bytes.
-/

namespace RollCall

/-- A printable ASCII character. -/
def Text.IsPrinting (c : Char) : Prop :=
  0x20 ≤ c.toNat ∧ c.toNat ≤ 0x7E

instance (c : Char) : Decidable (Text.IsPrinting c) :=
  inferInstanceAs (Decidable (_ ∧ _))

/-- The characters of a word are tried one by one. -/
theorem Text.printing_of_all {cs : List Char} (h : (cs.all fun c => Text.IsPrinting c) = true) :
    ∀ c ∈ cs, Text.IsPrinting c :=
  fun c hc => of_decide_eq_true (List.all_eq_true.1 h c hc)

namespace Utf8

/-- A printable ASCII character is stored as its number. -/
theorem encodeChar_printing {c : Char} (h : Text.IsPrinting c) :
    encodeChar c = [UInt8.ofNat c.toNat] := by
  have hlt : c.toNat < 0x80 := Nat.lt_of_le_of_lt h.2 (by decide)
  rw [encodeChar, if_pos hlt]

/-- **One byte for each character** of printable ASCII. -/
theorem encode_printing {cs : List Char} (h : ∀ c ∈ cs, Text.IsPrinting c) :
    encode cs = cs.map fun c => UInt8.ofNat c.toNat := by
  induction cs with
  | nil => rfl
  | cons c cs ih =>
    rw [encode, List.flatMap_cons, encodeChar_printing (h c List.mem_cons_self), List.map_cons]
    exact congrArg _ (ih fun d hd => h d (List.mem_cons_of_mem c hd))

/-- The byte of a printable ASCII character has its number. -/
theorem toNat_ofNat_printing {c : Char} (h : Text.IsPrinting c) :
    (UInt8.ofNat c.toNat).toNat = c.toNat := by
  rw [UInt8.toNat_ofNat']
  exact Nat.mod_eq_of_lt (Nat.lt_of_le_of_lt h.2 (by decide))

/-- The bytes of printable ASCII are printable. -/
theorem printing_of_mem_encode {cs : List Char} (h : ∀ c ∈ cs, Text.IsPrinting c) {b : UInt8}
    (hb : b ∈ encode cs) : 0x20 ≤ b.toNat ∧ b.toNat ≤ 0x7E := by
  rw [encode_printing h] at hb
  obtain ⟨c, hc, rfl⟩ := List.mem_map.1 hb
  rw [toNat_ofNat_printing (h c hc)]
  exact h c hc

/-- Between two characters the byte of a printable ASCII character is that character. -/
theorem decodeFrom_printing {c : Char} (h : Text.IsPrinting c) (i : ℕ) (read : List Char)
    (bs : List UInt8) :
    decodeFrom none i read (UInt8.ofNat c.toNat :: bs) =
      decodeFrom none (i + 1) (c :: read) bs := by
  have hlead : lead? (UInt8.ofNat c.toNat) = some ⟨0, 0x80, 0xBF, c.toNat⟩ := by
    have hlt : c.toNat < 0x80 := Nat.lt_of_le_of_lt h.2 (by decide)
    rw [lead?, toNat_ofNat_printing h]
    simp only [if_pos hlt]
  rw [decodeFrom, hlead]
  simp only [if_true, Char.ofNat_toNat]

/-- **Printable ASCII reads back** in front of any bytes. -/
theorem decodeFrom_encode {cs : List Char} (h : ∀ c ∈ cs, Text.IsPrinting c) (i : ℕ)
    (read : List Char) (bs : List UInt8) :
    decodeFrom none i read (encode cs ++ bs) =
      decodeFrom none (i + cs.length) (cs.reverse ++ read) bs := by
  rw [encode_printing h]
  induction cs generalizing i read with
  | nil => rfl
  | cons c cs ih =>
    rw [List.map_cons, List.cons_append, decodeFrom_printing (h c List.mem_cons_self),
      ih fun d hd => h d (List.mem_cons_of_mem c hd)]
    rw [List.length_cons, List.reverse_cons, List.append_assoc, Nat.add_right_comm,
      Nat.add_assoc]
    rfl

/-- Printable ASCII alone reads back. -/
theorem decode_encode {cs : List Char} (h : ∀ c ∈ cs, Text.IsPrinting c) :
    decode (encode cs) = .ok cs := by
  have hread := decodeFrom_encode h 0 [] []
  rw [List.append_nil, List.append_nil] at hread
  rw [decode, hread, decodeFrom, List.reverse_reverse]

end Utf8

end RollCall
