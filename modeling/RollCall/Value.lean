import RollCall.Binary64.Text
import RollCall.Text.Symbol

/-!
# Dynamic values

Settings, the replies of the bucket service and the fields offered for an address or a record
arrive as values whose type is only known when they are looked at. A `Value` is one of them. A
mapping keeps its entries in the order in which they were written; where a key is written twice,
the later entry counts.

## Main definitions

* `Value`: the type.
* `Value.get?`: the value of a mapping under a text key.
* `Value.isTruthy`: whether a value counts as present where only presence is asked.
* `Value.wholeNumber?`: the integer that a value equals.
-/

namespace RollCall

/-- A value of a settings file, a reply or an offer. -/
inductive Value
  /-- No value. -/
  | null
  /-- A truth value. -/
  | bool (b : Bool)
  /-- An integer of any size. -/
  | int (n : Int)
  /-- A floating-point number. -/
  | float (x : Binary64)
  /-- A text. -/
  | text (s : String)
  /-- A text with halves of surrogate pairs. -/
  | broken (symbols : List Text.Symbol)
  /-- A string of bytes. -/
  | bytes (bs : List UInt8)
  /-- A sequence. -/
  | list (items : List Value)
  /-- A mapping, as its entries in order. -/
  | map (entries : List (Value × Value))
  /-- A set, as its members in order. -/
  | set (members : List Value)
  /-- A point in time. -/
  | moment
  deriving Repr

namespace Value

instance : Inhabited Value := ⟨.null⟩

/-- The text of some symbols. -/
def ofSymbols (symbols : List Text.Symbol) : Value :=
  match Text.Symbol.chars? symbols with
  | some cs => .text (String.ofList cs)
  | none => .broken symbols

/-- Whether a value is the text `s`. -/
def isText (s : String) : Value → Bool
  | .text t => t == s
  | _ => false

/-- The text that a value is. -/
def text? : Value → Option String
  | .text s => some s
  | _ => none

/-- The value under a text key among the entries of a mapping; of several the last. -/
def lookup? (key : String) (entries : List (Value × Value)) : Option Value :=
  (entries.reverse.find? fun e => e.1.isText key).map (·.2)

/-- The value of a mapping under a text key; no other value has any. -/
def get? (key : String) : Value → Option Value
  | .map entries => lookup? key entries
  | _ => none

/-- Whether a value counts as present: null, false, a zero and everything empty do not. -/
def isTruthy : Value → Bool
  | .null => false
  | .bool b => b
  | .int n => n != 0
  | .float x => !x.isZero
  | .text s => !s.isEmpty
  | .broken symbols => !symbols.isEmpty
  | .bytes bs => !bs.isEmpty
  | .list items => !items.isEmpty
  | .map entries => !entries.isEmpty
  | .set members => !members.isEmpty
  | .moment => true

/-- The integer that a value equals as a number; a truth value counts as one or zero. -/
def wholeNumber? : Value → Option Int
  | .bool b => some (if b then 1 else 0)
  | .int n => some n
  | .float x => if x.isInteger then x.truncate? else none
  | _ => none

/-- The name of the kind of a value. -/
def kind : Value → String
  | .null => "NoneType"
  | .bool _ => "bool"
  | .int _ => "int"
  | .float _ => "float"
  | .text _ | .broken _ => "str"
  | .bytes _ => "bytes"
  | .list _ => "list"
  | .map _ => "dict"
  | .set _ => "set"
  | .moment => "datetime"

end Value

end RollCall
