/-!
# Blank characters and stripping

A character is *blank* when it separates words in a settings file: the ASCII controls that move
the cursor, the four ASCII separators, and the spaces of Unicode. Zero-width characters and the
byte-order mark are not blank. `strip` removes blanks at both ends of a text; `isBlankText` says
that nothing else is there.

A *white-space* character is a blank that Unicode itself calls white space; the four ASCII
separators are blank without being white space, and the readers of numerals trim white space only.

## Main results

* `isSpace_imp_isBlank`: white space is blank.
* `head?_dropWhile`: nothing blank is left where blanks were dropped.
* `mem_strip`: stripping adds no character.
-/

namespace RollCall.Text

/-- The blank characters: U+0009 to U+000D, U+001C to U+0020, U+0085, U+00A0 and the Unicode
spaces and line separators. -/
def isBlank (c : Char) : Bool :=
  let n := c.toNat
  (0x09 ≤ n && n ≤ 0x0D) || (0x1C ≤ n && n ≤ 0x20) || n == 0x85 || n == 0xA0 || n == 0x1680 ||
    (0x2000 ≤ n && n ≤ 0x200A) || n == 0x2028 || n == 0x2029 || n == 0x202F || n == 0x205F ||
    n == 0x3000

/-- The Unicode white-space characters: the blanks except the four ASCII separators. -/
def isSpace (c : Char) : Bool :=
  isBlank c && !(0x1C ≤ c.toNat && c.toNat ≤ 0x1F)

/-- White space is blank. -/
theorem isSpace_imp_isBlank {c : Char} (h : isSpace c = true) : isBlank c = true := by
  simp only [isSpace, Bool.and_eq_true] at h
  exact h.1

/-! ### Trimming a list of characters -/

/-- The list without the characters at either end that satisfy `p`. -/
def trimList (p : Char → Bool) (cs : List Char) : List Char :=
  ((cs.dropWhile p).reverse.dropWhile p).reverse

/-- Dropping from the front leaves nothing more to drop there. -/
theorem dropWhile_dropWhile (p : Char → Bool) (cs : List Char) :
    (cs.dropWhile p).dropWhile p = cs.dropWhile p := by
  induction cs with
  | nil => rfl
  | cons c cs ih =>
    by_cases h : p c
    · simp [h, ih]
    · simp [h]

/-- A list whose first character does not satisfy `p` keeps it. -/
theorem dropWhile_eq_self {p : Char → Bool} {cs : List Char}
    (h : ∀ c ∈ cs.head?, p c = false) : cs.dropWhile p = cs := by
  cases cs with
  | nil => rfl
  | cons c cs => simp [h c (by simp)]

/-- After dropping, the first character does not satisfy `p`. -/
theorem head?_dropWhile {p : Char → Bool} {cs : List Char} :
    ∀ c ∈ (cs.dropWhile p).head?, p c = false := by
  induction cs with
  | nil => simp
  | cons c cs ih =>
    by_cases h : p c
    · simpa [List.dropWhile_cons, h] using ih
    · simp [h]

/-- Trimming adds no character. -/
theorem mem_of_mem_trimList {p : Char → Bool} {cs : List Char} {c : Char}
    (h : c ∈ trimList p cs) : c ∈ cs := by
  simp only [trimList, List.mem_reverse] at h
  have h₁ : c ∈ (cs.dropWhile p).reverse := (List.dropWhile_sublist p).subset h
  rw [List.mem_reverse] at h₁
  exact (List.dropWhile_sublist p).subset h₁

/-! ### Stripping a text -/

/-- The text without the characters at either end that satisfy `p`. -/
def trim (p : Char → Bool) (s : String) : String :=
  String.ofList (trimList p s.toList)

/-- The text without its blanks at either end. -/
def strip (s : String) : String :=
  trim isBlank s

/-- A text with nothing but blanks, the empty one included. -/
def isBlankText (s : String) : Bool :=
  s.toList.all isBlank

/-- Stripping adds no character. -/
theorem mem_strip {s : String} {c : Char} (h : c ∈ (strip s).toList) : c ∈ s.toList := by
  simp only [strip, trim, String.toList_ofList] at h
  exact mem_of_mem_trimList h

end RollCall.Text
