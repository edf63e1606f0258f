import RollCall.Member.Life

/-!
# Rosters

A roster answers the question who is in the cluster with texts, one for each peer of a member, and
one for the member itself if that is wanted.

## Main definitions

* `Roster`, `Roster.nodes`, `Roster.self`.
-/

namespace RollCall

/-- A view of a member's cluster. -/
structure Roster where
  member : Nat
  includesSelf : Bool
  deriving DecidableEq, Repr

namespace Roster

variable {ω : Type} (g : Gateway ω)

/-- What is said when the peers could not be found. -/
def failedText : String := "S3 node discovery failed"

/-- The text of the member's own address. -/
def self (r : Roster) : Doing ω (Except Failure String) :=
  return (← Site.member r.member).address.map Address.text

/-- The texts of the addresses in the cluster. -/
def nodes (r : Roster) : Doing ω (Except Failure (List String)) := do
  match ← Member.discover g r.member with
  | .error f =>
    if f.isQuery then Site.say .warning failedText
    return .error f
  | .ok peers =>
    let texts := peers.map Address.text
    if r.includesSelf then return (← r.self).map fun own => texts ++ [own]
    else return .ok texts

end Roster

end RollCall
