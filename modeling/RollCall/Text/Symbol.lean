/-!
# Texts with halves of surrogate pairs

An escape in a settings file may name any UTF-16 unit, even half of a surrogate pair, which is no
character. A text that holds such halves is a list of *symbols*: characters and halves. Two halves
that make up a pair stay two symbols until the text is shown; a half that is shown alone, and every
half where a message cannot hold any, appears as three replacement characters, one for each byte
that it would take up.

## Main definitions

* `Symbol`, `Symbol.ofCode?`: a character or a half, and the one with a number.
* `Symbol.chars?`: the characters of a text without halves.
* `Symbol.joined`, `Symbol.replaced`: a text as it is shown, with its pairs and without.

## Main results

* `chars?_ofChars`: characters are a text without halves.
* `joined_ofChars`: a text without halves is shown as it is.
-/

namespace RollCall.Text

/-- A character, or half of a surrogate pair. -/
inductive Symbol
  | char (c : Char)
  /-- The half with this distance from the first of them, U+D800. -/
  | half (distance : Fin 0x800)
  deriving DecidableEq, Repr

namespace Symbol

/-- The number of the first half. -/
def firstHalf : Nat := 0xD800

/-- The number of a symbol. -/
def code : Symbol → Nat
  | .char c => c.toNat
  | .half distance => firstHalf + distance.val

/-- The symbol of a number, if it has one. -/
def ofCode? (n : Nat) : Option Symbol :=
  if h : firstHalf ≤ n ∧ n < firstHalf + 0x800 then
    some (.half ⟨n - firstHalf, Nat.sub_lt_left_of_lt_add h.1 h.2⟩)
  else if n < 0x110000 then some (.char (Char.ofNat n))
  else none

/-- The character that a symbol is, unless it is a half. -/
def char? : Symbol → Option Char
  | .char c => some c
  | .half _ => none

/-- Characters as symbols. -/
def ofChars (cs : List Char) : List Symbol :=
  cs.map .char

/-- The characters of a text without halves. -/
def chars? : List Symbol → Option (List Char)
  | [] => some []
  | .char c :: ss => (chars? ss).map (c :: ·)
  | .half _ :: _ => none

/-- Characters are a text without halves. -/
@[simp] theorem chars?_ofChars (cs : List Char) : chars? (ofChars cs) = some cs := by
  induction cs with
  | nil => rfl
  | cons c cs ih => simpa [ofChars, chars?] using ih

/-! ### Showing -/

/-- What a half is shown as where it cannot be shown. -/
def replacement : List Char :=
  List.replicate 3 (Char.ofNat 0xFFFD)

/-- Whether a half is the first of a pair. -/
def isHigh (distance : Fin 0x800) : Bool :=
  distance.val < 0x400

/-- The character of a pair. -/
def ofPair (high low : Fin 0x800) : Char :=
  Char.ofNat (0x10000 + high.val * 0x400 + (low.val - 0x400))

/-- The characters of a text in which pairs are characters. -/
def joinedChars : List Symbol → List Char
  | [] => []
  | .char c :: ss => c :: joinedChars ss
  | .half high :: .half low :: ss =>
    if isHigh high && !isHigh low then ofPair high low :: joinedChars ss
    else replacement ++ joinedChars (.half low :: ss)
  | .half _ :: ss => replacement ++ joinedChars ss

/-- A text in which pairs are characters. -/
def joined (ss : List Symbol) : String :=
  String.ofList (joinedChars ss)

/-- A text in which no half is shown. -/
def replaced (ss : List Symbol) : String :=
  String.ofList (ss.flatMap fun
    | .char c => [c]
    | .half _ => replacement)

/-- A text without halves is shown as it is. -/
@[simp] theorem joined_ofChars (cs : List Char) : joined (ofChars cs) = String.ofList cs := by
  suffices joinedChars (ofChars cs) = cs by rw [joined, this]
  induction cs with
  | nil => rfl
  | cons c cs ih => simpa [ofChars, joinedChars] using ih

end Symbol

end RollCall.Text
