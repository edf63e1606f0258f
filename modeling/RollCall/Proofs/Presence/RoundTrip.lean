import Mathlib.Algebra.Group.Int.Defs
import RollCall.Presence.Codec
import RollCall.Proofs.Json.Printing
import RollCall.Proofs.Json.Short

/-!
# The stored form of a record and its record

A valid record whose expiry is short enough to be written is stored in printable ASCII and comes
back unchanged. What is read from any bytes is such a record: the checks of the fields make it
valid, and the reader of numbers brings no expiry that could not be written. So whatever is accepted
can be stored again, and comes back unchanged from then on.

## Main results

* `exists_encode_of_short`: a valid record with a short expiry is stored in printable ASCII and
  comes back, whatever key it is read under.
* `expires_lt_of_decode`: the expiry of a record that was read is short.
* `decode_encode_printing`, `decode_stable`: the two directions, put together.
-/

namespace RollCall.Presence

/-! ### Writing, then reading -/

/-- A record can be written exactly if its expiry has at most as many digits as can be read. -/
theorem isWritable_iff {n : Int} : isWritable n = true ↔ n.natAbs < 10 ^ Json.maxDigits := by
  rw [isWritable, decide_eq_true_eq, Decimal.length_digits_le_iff (by decide)]

/-- A positive integer is below a power of ten as its absolute value is. -/
theorem natAbs_lt_pow {n : Int} (hpos : 0 < n) {k : ℕ} (h : n < 10 ^ k) :
    n.natAbs < 10 ^ k := by
  rw [← Int.ofNat_lt, Int.natAbs_of_nonneg (Int.le_of_lt hpos), Int.natCast_pow]
  exact h

/-- The port of a valid record is short. -/
theorem Valid.port_short {r : Presence} (h : r.Valid) :
    r.port.natAbs < 10 ^ Json.maxDigits := by
  have hport := h.port
  rw [maxPort] at hport
  exact Nat.lt_of_lt_of_le (show r.port.natAbs < 10 ^ 5 by omega)
    (Nat.pow_le_pow_right (by decide) (by decide))

/-- The document of a valid record with a short expiry has no number that could not be read. -/
theorem isPlain_document {r : Presence} (h : r.Valid)
    (hshort : r.expires.natAbs < 10 ^ Json.maxDigits) : r.document.IsPlain := by
  have hversion : formatVersion.natAbs < 10 ^ Json.maxDigits :=
    Nat.one_lt_pow (by decide) (by decide)
  exact ⟨hversion, trivial, trivial, trivial, h.port_short, hshort, trivial⟩

/-- The document of a record nests no deeper than can be read. -/
theorem nesting_document_le (r : Presence) : r.document.nesting ≤ Json.maxDepth := by
  rw [document]
  simp [Json.nesting, Json.membersNesting, Json.maxDepth]

/-- The members of a record's document are the draft of the record. -/
theorem draft_of_document (r : Presence) :
    (Draft.ofMembers fun name => .ofJson (Json.lookup? name
      [("format_version", .int formatVersion), (fieldNames.cluster, .text r.cluster),
        (fieldNames.node, .text r.node), (fieldNames.host, .text r.host),
        (fieldNames.port, .int r.port), (fieldNames.expires, .int r.expires)])) = r.draft :=
  rfl

/-- The text of a valid record with a short expiry is read as the record. -/
theorem ofText_encodeText {r : Presence} (h : r.Valid)
    (hshort : r.expires.natAbs < 10 ^ Json.maxDigits) : ofText r.encodeText = .ok r := by
  have hread : Json.read? r.encodeText = some r.document := by
    have hdocument := Json.read?_render Json.Spacing.isReadable_compact
      (isPlain_document h hshort) r.nesting_document_le [] (by simp)
    rwa [List.append_nil] at hdocument
  rw [ofText, hread]
  exact ofDraft_eq_ok_iff.2 ⟨draft_of_document r, h⟩

/-- The text of a valid record with a short expiry is printable ASCII. -/
theorem printing_of_mem_encodeText {r : Presence} (h : r.Valid)
    (hshort : r.expires.natAbs < 10 ^ Json.maxDigits) {c : Char} (hc : c ∈ r.encodeText) :
    Text.IsPrinting c :=
  Json.printing_of_mem_render Json.Spacing.isPrinting_compact (isPlain_document h hshort) hc

/-- The stored bytes are not blank: they begin with a brace. -/
theorem not_blank_encodeText (r : Presence) :
    (Utf8.encode r.encodeText).all isAsciiSpace = false :=
  rfl

/-- **A valid record with a short expiry is stored in printable ASCII and comes back**, whatever key
it is read under. -/
theorem exists_encode_of_short {r : Presence} (h : r.Valid)
    (hshort : r.expires.natAbs < 10 ^ Json.maxDigits) :
    ∃ data, r.encode = .ok data ∧ (∀ b ∈ data, 0x20 ≤ b.toNat ∧ b.toNat ≤ 0x7E) ∧
      ∀ key, decode data key = .ok r := by
  have hprinting : ∀ c ∈ r.encodeText, Text.IsPrinting c :=
    fun c hc => printing_of_mem_encodeText h hshort hc
  refine ⟨Utf8.encode r.encodeText, ?_, ?_, ?_⟩
  · rw [encode, if_pos (isWritable_iff.2 hshort)]
  · exact fun b hb => Utf8.printing_of_mem_encode hprinting hb
  · intro key
    rw [decode, not_blank_encodeText, if_neg (by decide), Utf8.decode_encode hprinting]
    simp only [ofText_encodeText h hshort]

/-- What a valid record is stored as is read as the record. -/
theorem decode_of_encode {r : Presence} (h : r.Valid) {data : List UInt8}
    (hencode : r.encode = .ok data) (key : Option String) : decode data key = .ok r := by
  have hwritable : isWritable r.expires = true := by
    rw [encode] at hencode
    split at hencode
    · assumption
    · cases hencode
  obtain ⟨data', hencode', -, hback⟩ := exists_encode_of_short h (isWritable_iff.1 hwritable)
  rw [hencode] at hencode'
  cases hencode'
  exact hback key

/-! ### Reading, then writing -/

/-- An offer that is an integer comes from a JSON integer. -/
theorem ofJson_eq_integer {o : Option Json} {n : Int} (h : Offer.ofJson o = .integer n) :
    o = some (.int n) := by
  unfold Offer.ofJson at h
  split at h
  · cases h
  · cases h
  · cases h
    rfl
  · cases h

/-- What is read from a text is a valid record with a short expiry. -/
theorem valid_of_ofText {cs : List Char} {r : Presence} (h : ofText cs = .ok r) :
    r.Valid ∧ r.expires.natAbs < 10 ^ Json.maxDigits := by
  unfold ofText at h
  split at h
  · cases h
  · next members hread =>
    obtain ⟨hdraft, hvalid⟩ := ofDraft_eq_ok_iff.1 h
    have hexpires := ofJson_eq_integer (congrArg Draft.expires hdraft)
    exact ⟨hvalid, Json.isShort_of_lookup? (Json.isShort_of_read? hread) hexpires⟩
  · cases h

/-- Reading either brings what the text of the bytes holds or says under the key why it does not. -/
theorem decode_cases (bytes : List UInt8) (key : Option String) :
    (∃ reason, decode bytes key = .error (.undecodable reason key)) ∨
      ∃ cs r, Utf8.decode bytes = .ok cs ∧ ofText cs = .ok r ∧ decode bytes key = .ok r := by
  unfold decode
  split
  · exact .inl ⟨_, rfl⟩
  · cases hutf : Utf8.decode bytes with
    | error fault => exact .inl ⟨_, rfl⟩
    | ok cs =>
      cases htext : ofText cs with
      | error reasons =>
        exact .inl ⟨", ".intercalate (reasons.map Reason.message), by simp only [htext]⟩
      | ok r => exact .inr ⟨cs, r, rfl, htext, by simp only [htext]⟩

/-! ### The two directions -/

/-- **Round trip**: a valid record whose expiry has at most 4300 digits is stored in printable ASCII
bytes, and these are read as exactly that record. -/
theorem decode_encode_printing {r : Presence} (hr : r.Valid) (hdigits : r.expires < 10 ^ 4300) :
    ∃ data, r.encode = .ok data ∧ (∀ b ∈ data, 0x20 ≤ b.toNat ∧ b.toNat ≤ 0x7E) ∧
      ∀ key, decode data key = .ok r :=
  exists_encode_of_short hr (natAbs_lt_pow hr.expires hdigits)

/-- Quotes, escapes, control characters and characters beyond the first plane come back, and so do
the greatest port and the greatest expiry. -/
theorem decode_encode_printing_extreme :
    ∃ data,
      encode ⟨"a \"b\" \\c", "d\u007f\u0001\té\u2028😀", " ß\n", 65535, 10 ^ 4300 - 1⟩ = .ok data ∧
      (∀ b ∈ data, 0x20 ≤ b.toNat ∧ b.toNat ≤ 0x7E) ∧
      ∀ key, decode data key =
        .ok ⟨"a \"b\" \\c", "d\u007f\u0001\té\u2028😀", " ß\n", 65535, 10 ^ 4300 - 1⟩ := by
  have hpow {k : ℕ} (hk : k ≠ 0) : (1 : Int) < 10 ^ k := by
    have h : 1 < 10 ^ k := Nat.one_lt_pow hk (by decide)
    exact_mod_cast h
  have hexpires : (0 : Int) < 10 ^ 4300 - 1 := Int.sub_pos_of_lt (hpow (by decide))
  exact decode_encode_printing
    ⟨by decide, by decide, by decide, by decide, hexpires⟩ (Int.sub_one_lt_of_le (Int.le_refl _))

/-- **Stability**: whatever the bytes, reading them either fails with the key and a reason, or
brings a valid record that can be written and that comes back unchanged. -/
theorem decode_stable (bytes : List UInt8) (key : Option String) :
    (∃ reason, decode bytes key = .error (.undecodable reason key)) ∨
      ∃ r, decode bytes key = .ok r ∧ r.Valid ∧
        ∃ data, r.encode = .ok data ∧ ∀ key', decode data key' = .ok r := by
  rcases decode_cases bytes key with hfailed | ⟨cs, r, -, htext, hdecode⟩
  · exact .inl hfailed
  · obtain ⟨hvalid, hshort⟩ := valid_of_ofText htext
    obtain ⟨data, hencode, -, hback⟩ := exists_encode_of_short hvalid hshort
    exact .inr ⟨r, hdecode, hvalid, data, hencode, hback⟩

end RollCall.Presence
