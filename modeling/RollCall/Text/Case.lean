import RollCall.Text.Letter
import RollCall.Text.Symbol

/-!
# Letter case

Names and keywords may be compared without regard to case. `lower` gives every letter its small
form. Two letters need a look at more than themselves: the capital I with a dot becomes two
characters, and the capital sigma becomes the final sigma where a word ends with it, that is, behind
a letter and not before one.

Keywords of ASCII letters in texts of ASCII letters need no more than `asciiLower`.
-/

namespace RollCall.Text

/-- The small form of a capital ASCII letter; every other character stays. -/
def asciiLower (c : Char) : Char :=
  if 'A' ≤ c && c ≤ 'Z' then Char.ofNat (c.toNat + 32) else c

/-- The text with capital ASCII letters made small. -/
def lowerAscii (s : String) : String :=
  String.ofList (s.toList.map asciiLower)

/-! ### All scripts -/

/-- The capital sigma. -/
def capitalSigma : Char := Char.ofNat 0x3A3

/-- The small sigma inside a word. -/
def smallSigma : Char := Char.ofNat 0x3C3

/-- The small sigma at the end of a word. -/
def finalSigma : Char := Char.ofNat 0x3C2

/-- The small form of the capital I with a dot. -/
def smallDottedI : List Char := ['i', Char.ofNat 0x307]

/-- Whether a letter stands at the front of a text once what is passed over is left out. -/
def beginsCased : List Symbol → Bool
  | [] => false
  | .char c :: ss => if isCaseIgnorable c then beginsCased ss else isCased c
  | .half _ :: _ => false

/-- The small forms of the symbols of a text, where `isBehind` says whether a letter stands in front
of them. -/
def lowerFrom (isBehind : Bool) : List Symbol → List Symbol
  | [] => []
  | .half distance :: ss => .half distance :: lowerFrom false ss
  | .char c :: ss =>
    let small :=
      if c == capitalSigma then
        [if isBehind && !beginsCased ss then finalSigma else smallSigma]
      else if c.toNat == 0x130 then smallDottedI
      else [smallForm c]
    small.map Symbol.char ++ lowerFrom (if isCaseIgnorable c then isBehind else isCased c) ss

/-- The symbols of a text with the small forms of its letters. -/
def lowerSymbols (ss : List Symbol) : List Symbol :=
  lowerFrom false ss

/-- The text with the small forms of its letters. -/
def lower (s : String) : String :=
  Symbol.joined (lowerSymbols (Symbol.ofChars s.toList))

end RollCall.Text
