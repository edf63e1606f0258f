import RollCall.Proofs.Json.Extent
import RollCall.Proofs.Presence.RoundTrip
import RollCall.Proofs.Text.Sequences

/-!
# Where a stored record ends

A stored record is told apart from everything that is shorter or longer. Bytes that stop short of
its end, wherever they stop, are no record; a write that was cut off is never taken for another
record. Behind its end only blanks may follow, and they change nothing.

## Main definitions

* `gapBytes`: the bytes of blanks.

## Main results

* `ofText_encodeText_append`, `ofText_torn`: the two ends of the text of a record.
* `gaps_of_decodeFrom`: no other bytes spell blanks.
* `decode_extent`: the law for the stored bytes.
-/

namespace RollCall.Presence

/-- The bytes that may follow a stored record: space, tab, line feed and carriage return. -/
def gapBytes : List UInt8 := [0x20, 0x09, 0x0A, 0x0D]

/-! ### Blanks as bytes -/

/-- A blank is an ASCII character other than NUL. -/
theorem ascii_of_isGap {c : Char} (h : Json.isGap c = true) : 0 < c.toNat ∧ c.toNat < 0x80 := by
  simp only [Json.isGap, Bool.or_eq_true, beq_iff_eq] at h
  rcases h with ((rfl | rfl) | rfl) | rfl <;> decide

theorem isGap_ofNat_iff (b : UInt8) : Json.isGap (Char.ofNat b.toNat) = true ↔ b ∈ gapBytes := by
  have htable : ∀ n : Fin 256,
      Json.isGap (Char.ofNat n.val) = true ↔ UInt8.ofNat n.val ∈ gapBytes := by
    decide +kernel
  have hb := htable ⟨b.toNat, b.toNat_lt⟩
  rwa [UInt8.ofNat_toNat] at hb

/-- The bytes of blanks are ASCII. -/
theorem ascii_of_mem_gapBytes {b : UInt8} (h : b ∈ gapBytes) : b.toNat < 0x80 := by
  simp only [gapBytes, List.mem_cons, List.not_mem_nil, or_false] at h
  rcases h with rfl | rfl | rfl | rfl <;> decide

/-- **Bytes spell blanks exactly if they are those of blanks.** -/
theorem gaps_of_decodeFrom {i : ℕ} {bs : List UInt8} {cs : List Char}
    (h : Utf8.decodeFrom none i [] bs = .ok cs) :
    (∀ c ∈ cs, Json.isGap c = true) ↔ ∀ b ∈ bs, b ∈ gapBytes := by
  have hall (hascii : ∀ b ∈ bs, b.toNat < 0x80) :
      (∀ c ∈ cs, Json.isGap c = true) ↔ ∀ b ∈ bs, b ∈ gapBytes := by
    rw [Utf8.decodeFrom_ascii hascii] at h
    cases h
    rw [List.forall_mem_map]
    exact forall₂_congr fun b _ => isGap_ofNat_iff b
  constructor
  · intro hgaps
    have hclosed : ∀ p ∈ (none : Option Utf8.Pending), p.IsLong := nofun
    have hascii := Utf8.ascii_of_decodeFrom hclosed h fun c hc => ascii_of_isGap (hgaps c hc)
    exact (hall hascii.2).1 hgaps
  · intro hbytes
    exact (hall fun b hb => ascii_of_mem_gapBytes (hbytes b hb)).2 hbytes

/-! ### What follows a record -/

section

variable {r : Presence} (h : r.Valid) (hshort : r.expires.natAbs < 10 ^ Json.maxDigits)
include h hshort

/-- **What follows the text of a record** decides whether there is one. -/
theorem ofText_encodeText_append (cs : List Char) :
    ofText (r.encodeText ++ cs) =
      if (Json.skip cs).isEmpty then .ok r else .error [⟨"<root>", .invalidJson⟩] := by
  rw [ofText, encodeText, document, Json.read?_render_append Json.Spacing.isReadable_compact
    (isPlain_document h hshort) r.nesting_document_le cs]
  split
  · next hskip =>
    split at hskip
    · cases hskip
    · next hrest => rw [if_neg hrest]
  · next hskip =>
    split at hskip
    · next hrest =>
      cases hskip
      rw [if_pos hrest]
      exact ofDraft_eq_ok_iff.2 ⟨draft_of_document r, h⟩
    · cases hskip
  · next hother hskip =>
    split at hskip
    · cases hskip
      exact absurd rfl (hother _)
    · cases hskip

/-- **A beginning of the text of a record is none.** -/
theorem ofText_torn {torn rest : List Char} (htorn : torn ++ rest = r.encodeText)
    (hrest : rest ≠ []) : ofText torn = .error [⟨"<root>", .invalidJson⟩] := by
  rw [ofText, Json.read?_torn Json.Spacing.isReadable_compact (isPlain_document h hshort)
    r.nesting_document_le htorn hrest]

/-! ### Bytes -/

/-- What follows the bytes of a record is read behind its text. -/
theorem decode_encodeText_append (tail : List UInt8) :
    Utf8.decode (Utf8.encode r.encodeText ++ tail) =
      (Utf8.decodeFrom none r.encodeText.length [] tail).map (r.encodeText ++ ·) := by
  rw [Utf8.decode, Utf8.decodeFrom_encode fun c hc => printing_of_mem_encodeText h hshort hc,
    Utf8.decodeFrom_read, Nat.zero_add, List.append_nil, List.reverse_reverse]

/-- **A beginning of the bytes of a record is refused.** -/
theorem decode_torn {torn : List UInt8} (htorn : torn <+: Utf8.encode r.encodeText)
    (hne : torn ≠ Utf8.encode r.encodeText) (key : Option String) :
    ∃ reason, decode torn key = .error (.undecodable reason key) := by
  have hprinting : ∀ c ∈ r.encodeText, Text.IsPrinting c :=
    fun c hc => printing_of_mem_encodeText h hshort hc
  -- One byte stands for one character, so the beginning is that of a text.
  obtain ⟨cs, hcs, rfl⟩ : ∃ cs, cs <+: r.encodeText ∧ torn = Utf8.encode cs := by
    rw [Utf8.encode_printing hprinting, List.prefix_map_iff] at htorn
    obtain ⟨cs, hcs, rfl⟩ := htorn
    exact ⟨cs, hcs, (Utf8.encode_printing fun c hc => hprinting c (hcs.mem hc)).symm⟩
  obtain ⟨rest, hrest⟩ := hcs
  have hrest_ne : rest ≠ [] := by
    rintro rfl
    rw [List.append_nil] at hrest
    exact hne (congrArg Utf8.encode hrest)
  rcases decode_cases (Utf8.encode cs) key with hfailed | ⟨cs', r', hutf, htext, -⟩
  · exact hfailed
  · have hread : Utf8.decode (Utf8.encode cs) = .ok cs :=
      Utf8.decode_encode fun c hc => hprinting c (hrest ▸ List.mem_append_left rest hc)
    rw [hread] at hutf
    cases hutf
    rw [ofText_torn h hshort hrest hrest_ne] at htext
    cases htext

/-- What is read from the bytes of a record and more is the record, and what is more is blanks. -/
theorem eq_of_decode_append {tail : List UInt8} {key : Option String} {r' : Presence}
    (hdecode : decode (Utf8.encode r.encodeText ++ tail) key = .ok r') :
    r' = r ∧ ∀ b ∈ tail, b ∈ gapBytes := by
  rcases decode_cases (Utf8.encode r.encodeText ++ tail) key with
    ⟨reason, hfailed⟩ | ⟨cs, r'', hutf, htext, hread⟩
  · rw [hfailed] at hdecode
    cases hdecode
  · rw [hread] at hdecode
    cases hdecode
    rw [decode_encodeText_append h hshort] at hutf
    cases hrest : Utf8.decodeFrom none r.encodeText.length [] tail with
    | error fault =>
      rw [hrest] at hutf
      cases hutf
    | ok rest =>
      rw [hrest] at hutf
      cases hutf
      rw [ofText_encodeText_append h hshort] at htext
      split at htext
      · next hskip =>
        cases htext
        exact ⟨rfl, (gaps_of_decodeFrom hrest).1
          (List.dropWhile_eq_nil_iff.1 (List.isEmpty_iff.1 hskip))⟩
      · cases htext

/-- **Blanks behind the bytes of a record** change nothing. -/
theorem decode_encodeText_gaps {tail : List UInt8} (htail : ∀ b ∈ tail, b ∈ gapBytes)
    (key : Option String) : decode (Utf8.encode r.encodeText ++ tail) key = .ok r := by
  have hrest := Utf8.decodeFrom_ascii (fun b hb => ascii_of_mem_gapBytes (htail b hb))
    r.encodeText.length
  have hskip : Json.skip (tail.map fun b => Char.ofNat b.toNat) = [] :=
    List.dropWhile_eq_nil_iff.2 ((gaps_of_decodeFrom hrest).2 htail)
  rw [decode, List.all_append, not_blank_encodeText, Bool.false_and, if_neg (by decide),
    decode_encodeText_append h hshort, hrest]
  simp only [Except.map, ofText_encodeText_append h hshort, hskip, List.isEmpty_nil, if_true]

end

/-! ### The law -/

/-- **The extent of a stored record**: bytes that stop short of its end are no record, wherever they
stop, and behind its end nothing may follow but blanks, which change nothing. -/
theorem decode_extent {r : Presence} (hr : r.Valid) (hdigits : r.expires < 10 ^ 4300) :
    ∃ data, r.encode = .ok data ∧
      (∀ torn, torn <+: data → torn ≠ data → ∀ key,
        ∃ reason, decode torn key = .error (.undecodable reason key)) ∧
      ∀ tail key,
        ((∀ b ∈ tail, b ∈ gapBytes) → decode (data ++ tail) key = .ok r) ∧
        ((∃ b ∈ tail, b ∉ gapBytes) →
          ∃ reason, decode (data ++ tail) key = .error (.undecodable reason key)) := by
  have hshort : r.expires.natAbs < 10 ^ Json.maxDigits := natAbs_lt_pow hr.expires hdigits
  refine ⟨Utf8.encode r.encodeText, ?_, ?_, ?_⟩
  · rw [encode, if_pos (isWritable_iff.2 hshort)]
  · exact fun torn htorn hne key => decode_torn hr hshort htorn hne key
  · refine fun tail key => ⟨fun htail => decode_encodeText_gaps hr hshort htail key, ?_⟩
    rintro ⟨b, hb, hother⟩
    rcases decode_cases (Utf8.encode r.encodeText ++ tail) key with
      hfailed | ⟨cs, r', -, -, hread⟩
    · exact hfailed
    · exact absurd ((eq_of_decode_append hr hshort hread).2 b hb) hother

/-- The bytes of a record with the greatest port and expiry, with quotes, escapes and a pair of
surrogates in its names: cut before the last brace, with a line feed and a space behind it, and with
a vertical tab behind it. -/
theorem decode_extent_cut :
    ∃ data, encode ⟨"c\\u00e9", "😀\"", "h", 65535, 10 ^ 4300 - 1⟩ = .ok data ∧
      (∃ reason, decode data.dropLast none = .error (.undecodable reason none)) ∧
      decode (data ++ [0x0A, 0x20]) none =
        .ok ⟨"c\\u00e9", "😀\"", "h", 65535, 10 ^ 4300 - 1⟩ ∧
      ∃ reason, decode (data ++ [0x20, 0x0B]) (some "k") =
        .error (.undecodable reason (some "k")) := by
  have hpow {k : ℕ} (hk : k ≠ 0) : (1 : Int) < 10 ^ k := by
    exact_mod_cast (Nat.one_lt_pow hk (by decide) : 1 < 10 ^ k)
  have hexpires : (0 : Int) < 10 ^ 4300 - 1 := Int.sub_pos_of_lt (hpow (by decide))
  obtain ⟨data, hencode, hcut, hmore⟩ := decode_extent
    (r := ⟨"c\\u00e9", "😀\"", "h", 65535, 10 ^ 4300 - 1⟩)
    ⟨by decide, by decide, by decide, by decide, hexpires⟩ (Int.sub_one_lt_of_le (Int.le_refl _))
  have hne : data ≠ [] := by
    rintro rfl
    have hread := (hmore [] none).1 fun _ hb => absurd hb List.not_mem_nil
    cases hread
  refine ⟨data, hencode, ?_, (hmore _ _).1 (by simp [gapBytes]),
    (hmore _ _).2 ⟨0x0B, by decide, by decide⟩⟩
  refine hcut data.dropLast (List.dropLast_prefix data) (fun h => ?_) none
  have hlength := congrArg List.length h
  rw [List.length_dropLast] at hlength
  have := List.length_pos_iff.2 hne
  omega

end RollCall.Presence
