import RollCall.Proofs.Json.RoundTrip
import RollCall.Proofs.Text.Ascii

/-!
# JSON is written in printable ASCII

Every escape is printable ASCII, whatever character it stands for, and so is every integer and
every word; hence so is the text of a plain value whose separators are.

## Main results

* `printing_of_mem_escapeChar`: an escape is printable ASCII.
* `printing_of_mem_render`: so is the text of a plain value.
-/

namespace RollCall.Json

/-- The separators are printable ASCII. -/
structure Spacing.IsPrinting (sp : Spacing) : Prop where
  item : ∀ c ∈ sp.item, Text.IsPrinting c
  name : ∀ c ∈ sp.name, Text.IsPrinting c

theorem Spacing.isPrinting_compact : Spacing.compact.IsPrinting :=
  ⟨Text.printing_of_all rfl, Text.printing_of_all rfl⟩

theorem Spacing.isPrinting_airy : Spacing.airy.IsPrinting :=
  ⟨Text.printing_of_all rfl, Text.printing_of_all rfl⟩

/-! ### Digits and escapes -/

/-- A hexadecimal digit is printable ASCII. -/
theorem printing_hexDigit {n : ℕ} (h : n < 16) : Text.IsPrinting (Text.hexDigit n) := by
  have : ∀ m : Fin 16, Text.IsPrinting (Text.hexDigit m.val) := by decide
  exact this ⟨n, h⟩

/-- A decimal digit is printable ASCII. -/
theorem printing_of_isDigit {c : Char} (h : Decimal.isDigit c = true) : Text.IsPrinting c := by
  simp only [Decimal.isDigit, Bool.and_eq_true, decide_eq_true_eq] at h
  have hlow : 48 ≤ c.toNat := h.1
  have hhigh : c.toNat ≤ 57 := h.2
  exact ⟨by omega, by omega⟩

/-- The escape of a UTF-16 unit is printable ASCII. -/
theorem printing_of_mem_escapeUnit {n : ℕ} {c : Char} (h : c ∈ escapeUnit n) :
    Text.IsPrinting c := by
  have hmod (m : ℕ) : Text.IsPrinting (Text.hexDigit (m % 16)) :=
    printing_hexDigit (Nat.mod_lt m (by decide))
  rw [escapeUnit_eq] at h
  simp only [List.mem_cons, List.not_mem_nil, or_false] at h
  rcases h with rfl | rfl | rfl | rfl | rfl | rfl
  · decide
  · decide
  all_goals exact hmod _

/-- **An escape is printable ASCII**, whatever character it stands for. -/
theorem printing_of_mem_escapeChar {c d : Char} (h : d ∈ escapeChar c) : Text.IsPrinting d := by
  have hpair {x : Char} (hx : Text.IsPrinting x) (hd : d ∈ ['\\', x]) : Text.IsPrinting d := by
    simp only [List.mem_cons, List.not_mem_nil, or_false] at hd
    rcases hd with rfl | rfl
    · decide
    · exact hx
  unfold escapeChar at h
  split at h
  · exact hpair (by decide) h
  split at h
  · exact hpair (by decide) h
  split at h
  · exact hpair (by decide) h
  split at h
  · exact hpair (by decide) h
  split at h
  · exact hpair (by decide) h
  split at h
  · exact hpair (by decide) h
  split at h
  · exact hpair (by decide) h
  split at h
  · next hc =>
    simp only [Bool.and_eq_true, decide_eq_true_eq] at hc
    rw [List.mem_singleton.1 h]
    exact ⟨hc.1, by omega⟩
  split at h
  · exact printing_of_mem_escapeUnit h
  · rcases List.mem_append.1 h with h | h
    · exact printing_of_mem_escapeUnit h
    · exact printing_of_mem_escapeUnit h

/-- A text in quotation marks is printable ASCII. -/
theorem printing_of_mem_quote {s : String} {c : Char} (h : c ∈ quote s) : Text.IsPrinting c := by
  simp only [quote, List.mem_cons, List.mem_append, List.mem_flatMap, List.not_mem_nil,
    or_false] at h
  rcases h with rfl | ⟨d, -, hd⟩ | rfl
  · decide
  · exact printing_of_mem_escapeChar hd
  · decide

/-- A written integer is printable ASCII. -/
theorem printing_of_mem_integer {n : Int} {c : Char} (h : c ∈ Decimal.integer n) :
    Text.IsPrinting c := by
  rw [Decimal.integer] at h
  split at h
  · rcases List.mem_cons.1 h with rfl | h
    · decide
    · exact printing_of_isDigit (Decimal.digits_isDigit h)
  · exact printing_of_isDigit (Decimal.digits_isDigit h)

/-! ### Values -/

variable {sp : Spacing}

mutual

/-- **The text of a plain value is printable ASCII.** -/
theorem printing_of_mem_render (hsp : sp.IsPrinting) {v : Json} (hv : v.IsPlain) {c : Char}
    (h : c ∈ render sp v) : Text.IsPrinting c := by
  cases v with
  | null => exact Text.printing_of_all (by rfl) c h
  | bool b =>
    cases b with
    | true => exact Text.printing_of_all (by rfl) c h
    | false => exact Text.printing_of_all (by rfl) c h
  | int n => exact printing_of_mem_integer h
  | real x => exact hv.elim
  | text s => exact printing_of_mem_quote h
  | array items =>
    simp only [render, List.mem_cons, List.mem_append, List.not_mem_nil, or_false] at h
    rcases h with rfl | h | rfl
    · decide
    · exact printing_of_mem_renderItems hsp hv h
    · decide
  | object members =>
    simp only [render, List.mem_cons, List.mem_append, List.not_mem_nil, or_false] at h
    rcases h with rfl | h | rfl
    · decide
    · exact printing_of_mem_renderMembers hsp hv h
    · decide

/-- The text of plain items is printable ASCII. -/
theorem printing_of_mem_renderItems (hsp : sp.IsPrinting) {vs : List Json}
    (hv : ItemsHold IsPlainLeaf vs) {c : Char} (h : c ∈ renderItems sp vs) : Text.IsPrinting c := by
  match vs, hv, h with
  | [v], hv, h => exact printing_of_mem_render hsp hv.1 h
  | v :: w :: vs, hv, h =>
    rw [renderItems_cons_cons, List.mem_append, List.mem_append] at h
    rcases h with h | h | h
    · exact printing_of_mem_render hsp hv.1 h
    · exact hsp.item c h
    · exact printing_of_mem_renderItems hsp hv.2 h

/-- The text of plain members is printable ASCII. -/
theorem printing_of_mem_renderMembers (hsp : sp.IsPrinting) {ms : List (String × Json)}
    (hm : MembersHold IsPlainLeaf ms) {c : Char} (h : c ∈ renderMembers sp ms) :
    Text.IsPrinting c := by
  match ms, hm, h with
  | [(name, v)], hm, h =>
    rw [renderMembers, List.mem_append, List.mem_append] at h
    rcases h with h | h | h
    · exact printing_of_mem_quote h
    · exact hsp.name c h
    · exact printing_of_mem_render hsp hm.1 h
  | (name, v) :: m :: ms, hm, h =>
    simp only [renderMembers_cons_cons, List.mem_append] at h
    rcases h with h | h | h | h | h
    · exact printing_of_mem_quote h
    · exact hsp.name c h
    · exact printing_of_mem_render hsp hm.1 h
    · exact hsp.item c h
    · exact printing_of_mem_renderMembers hsp hm.2 h

end

end RollCall.Json
