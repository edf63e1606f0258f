import Mathlib.Algebra.Group.Nat.Defs
import RollCall.Json.Reader

/-!
# The leaves of a JSON value

What a statement about all numbers of a document says is a statement about its leaves: the values
that are neither arrays nor objects. `Holds p v` says it of every leaf of `v`, however deep, and the
two readings of it that matter here differ only in what they say about reals.

## Main definitions

* `Holds`: a statement about every leaf of a value.
* `IsShort`: no integer is too long to be read.
* `IsPlain`: moreover there is no real.
* `nesting`: how deep arrays and objects nest.
-/

namespace RollCall.Json

mutual

/-- Every leaf of the value has a property. -/
def Holds (p : Json → Prop) : Json → Prop
  | .array items => ItemsHold p items
  | .object members => MembersHold p members
  | .null => p .null
  | .bool b => p (.bool b)
  | .int n => p (.int n)
  | .real x => p (.real x)
  | .text s => p (.text s)

/-- Every leaf of every item has a property. -/
def ItemsHold (p : Json → Prop) : List Json → Prop
  | [] => True
  | v :: vs => v.Holds p ∧ ItemsHold p vs

/-- Every leaf of every member's value has a property. -/
def MembersHold (p : Json → Prop) : List (String × Json) → Prop
  | [] => True
  | (_, v) :: ms => v.Holds p ∧ MembersHold p ms

end

theorem itemsHold_iff {p : Json → Prop} {vs : List Json} :
    ItemsHold p vs ↔ ∀ v ∈ vs, v.Holds p := by
  induction vs with
  | nil => simp [ItemsHold]
  | cons v vs ih => simp [ItemsHold, ih]

theorem membersHold_iff {p : Json → Prop} {ms : List (String × Json)} :
    MembersHold p ms ↔ ∀ m ∈ ms, m.2.Holds p := by
  induction ms with
  | nil => simp [MembersHold]
  | cons m ms ih => simp [MembersHold, ih]

/-- An integer is not too long to be read. -/
def IsShortLeaf : Json → Prop
  | .int n => n.natAbs < 10 ^ maxDigits
  | _ => True

/-- A leaf is no real, and an integer is not too long to be read. -/
def IsPlainLeaf : Json → Prop
  | .int n => n.natAbs < 10 ^ maxDigits
  | .real _ => False
  | _ => True

/-- No integer of the value is too long to be read. -/
def IsShort (v : Json) : Prop :=
  v.Holds IsShortLeaf

/-- No number of the value is a real, and no integer is too long to be read. -/
def IsPlain (v : Json) : Prop :=
  v.Holds IsPlainLeaf

/-! ### Depth -/

mutual

/-- How deep arrays and objects nest. -/
def nesting : Json → ℕ
  | .array items => itemsNesting items + 1
  | .object members => membersNesting members + 1
  | _ => 0

/-- How deep the items of an array nest. -/
def itemsNesting : List Json → ℕ
  | [] => 0
  | v :: vs => max v.nesting (itemsNesting vs)

/-- How deep the members of an object nest. -/
def membersNesting : List (String × Json) → ℕ
  | [] => 0
  | (_, v) :: ms => max v.nesting (membersNesting ms)

end

end RollCall.Json
