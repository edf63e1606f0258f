import RollCall.Moment
import RollCall.Text.Hex

/-!
# Tags

A tag says what a node of a document stands for. A node may be tagged in the text; a plain scalar
without a tag gets the one that its form announces: a word for a truth value, a numeral, a point in
time, a word for nothing, or else a text.

A numeral may group its digits with underscores. An integer has the base two behind `0b`, sixteen
behind `0x` and eight behind `0`, and both kinds of numerals may be written in base sixty with
colons. A word or a numeral may have one line feed behind it.

## Main definitions

* `Tag`, `Tag.ofName?`: the tags with a meaning.
* `Tag.ofPlain`: the tag that the form of a scalar announces.
-/

namespace RollCall.Yaml

/-- What a node stands for. -/
inductive Tag
  | null
  | bool
  | int
  | float
  | binary
  | moment
  | text
  | sequence
  | mapping
  | set
  /-- A sequence of pairs, each a mapping with one entry. -/
  | pairs
  /-- The key of an entry that takes over the entries of other mappings. -/
  | merge
  /-- The key of the entry that is the value of a whole mapping. -/
  | value
  /-- Nothing that is known. -/
  | unknown
  deriving DecidableEq, Repr, Inhabited

namespace Tag

/-- What the handle of the common tags stands for. -/
def commonHandle : String := "tag:yaml.org,2002:"

/-- The common tags. -/
def common : List (String × Tag) :=
  [("null", .null), ("bool", .bool), ("int", .int), ("float", .float), ("binary", .binary),
    ("timestamp", .moment), ("str", .text), ("seq", .sequence), ("map", .mapping), ("set", .set),
    ("omap", .pairs), ("pairs", .pairs), ("merge", .merge), ("value", .value)]

/-- The tag with a name that is written in full. -/
def ofName (name : String) : Tag :=
  ((common.map fun (n, t) => (commonHandle ++ n, t)).lookup name).getD .unknown

/-! ### Forms of scalars -/

/-- The text behind a sign, if there is one. -/
def dropSign : List Char → List Char
  | '+' :: cs => cs
  | '-' :: cs => cs
  | cs => cs

/-- Whether a character is a digit or groups digits. -/
def isGrouped (c : Char) : Bool :=
  Decimal.isDigit c || c == '_'

/-- Whether a text is a place of a numeral in base sixty. -/
def isSixtieth : List Char → Bool
  | [a] => Decimal.isDigit a
  | [a, b] => '0' ≤ a && a ≤ '5' && Decimal.isDigit b
  | _ => false

/-- The parts of a text between its colons. -/
def parts (cs : List Char) : List (List Char) :=
  cs.splitOn ':'

/-- Whether a text is a decimal numeral of one or more digits, the first of them not a zero if
`isLeading`, in base sixty if there are more parts than one. -/
def isSexagesimal (isLeading : Bool) (cs : List Char) : Bool :=
  match parts cs with
  | (c :: ds) :: places =>
    Decimal.isDigit c && !(isLeading && c == '0') && ds.all isGrouped && places.all isSixtieth
  | _ => false

/-- Whether a text is an integer numeral. -/
def isInteger (cs : List Char) : Bool :=
  match dropSign cs with
  | '0' :: 'b' :: ds => !ds.isEmpty && ds.all fun c => c == '0' || c == '1' || c == '_'
  | '0' :: 'x' :: ds => !ds.isEmpty && ds.all fun c => (Text.hexValue? c).isSome || c == '_'
  | '0' :: ds => ds.all fun c => ('0' ≤ c && c ≤ '7') || c == '_'
  | cs => isSexagesimal true cs

/-- Whether a text is empty or an exponent: its letter, a sign and digits. -/
def isExponent : List Char → Bool
  | [] => true
  | e :: sign :: ds =>
    (e == 'e' || e == 'E') && (sign == '+' || sign == '-') && !ds.isEmpty &&
      ds.all Decimal.isDigit
  | _ => false

/-- Whether a text is the word for an infinity or for no number. -/
def isNumberWord (cs : List Char) : Bool :=
  let word := String.ofList cs
  [".nan", ".NaN", ".NAN"].contains word ||
    [".inf", ".Inf", ".INF"].contains (String.ofList (dropSign cs))

/-- Whether a text is a numeral with a point. -/
def isReal (cs : List Char) : Bool :=
  isNumberWord cs ||
    match cs with
    | '.' :: c :: ds => Decimal.isDigit c && isExponent (ds.dropWhile isGrouped)
    | cs =>
      let cs := dropSign cs
      match cs.dropWhile (· != '.') with
      | '.' :: places =>
        let whole := cs.takeWhile (· != '.')
        let rest := places.dropWhile isGrouped
        isSexagesimal false whole && (rest.isEmpty || (!whole.contains ':' && isExponent rest))
      | _ => false

/-- The words for truth values, in small letters. -/
def truthWords : List (String × Bool) :=
  [("yes", true), ("no", false), ("true", true), ("false", false), ("on", true), ("off", false)]

/-- The ways to write a word in small letters that begins with the letter `c`: all small, the first
letter capital, or all capital. -/
def spellings (word : String) : List String :=
  [word, word.capitalize, word.toUpper]

/-- Whether a text is a word for a truth value. -/
def isTruthWord (cs : List Char) : Bool :=
  truthWords.any fun (word, _) => (spellings word).contains (String.ofList cs)

/-- Whether a text is a word for nothing. -/
def isNullWord (cs : List Char) : Bool :=
  cs == ['~'] || (spellings "null").contains (String.ofList cs)

/-- Whether a text announces a point in time; a date alone needs two digits for month and day. -/
def isMoment (cs : List Char) : Bool :=
  match Moment.read? cs with
  | none => false
  | some m => m.time.isSome || cs.length == 10

/-- The tag that the form of a text without a line feed at its end announces. -/
def ofForm (cs : List Char) : Tag :=
  if isTruthWord cs then .bool
  else if isReal cs then .float
  else if isInteger cs then .int
  else if cs == ['<', '<'] then .merge
  else if isNullWord cs then .null
  else if isMoment cs then .moment
  else if cs == ['='] then .value
  else if cs == ['!'] || cs == ['&'] || cs == ['*'] then .unknown
  else .text

/-- The text without one line feed at its end. -/
def dropFinalBreak (cs : List Char) : List Char :=
  if cs.getLast? == some '\n' then cs.dropLast else cs

/-- The tag that the form of a scalar announces. -/
def ofPlain (cs : List Char) : Tag :=
  if cs.isEmpty then .null
  else if cs == ['\n'] then .text
  else ofForm (dropFinalBreak cs)

end Tag

end RollCall.Yaml
