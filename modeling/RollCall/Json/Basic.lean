import RollCall.Binary64.Basic

/-!
# JSON documents

The values of JSON. An object keeps all its members in the order of the text; where a name occurs
more than once, the last member of that name counts.
-/

namespace RollCall

/-- A JSON value. A number written with a fraction or an exponent, or one that is not finite, is
`real`; every other number is `int`. -/
inductive Json
  | null
  | bool (b : Bool)
  | int (n : Int)
  | real (x : Binary64)
  | text (s : String)
  | array (items : List Json)
  | object (members : List (String × Json))
  deriving Repr

namespace Json

instance : Inhabited Json := ⟨.null⟩

/-- The value of the last member of a name. -/
def lookup? (name : String) (members : List (String × Json)) : Option Json :=
  (members.reverse.find? fun m => m.1 == name).map (·.2)

end Json

end RollCall
