import RollCall.Decimal.Digits
import RollCall.Failure
import RollCall.Value.Lax

/-!
# Addresses

The address at which a node is reached: a host and a TCP port. Its text sets brackets around a host
that holds a colon, so that the last colon always divides host and TCP port.

## Main definitions

* `Address`: the type.
* `Address.text`: the text of an address.
* `Address.ofOffer`: an address from offered values.
* `Address.le`: the order in which answers list addresses.
-/

namespace RollCall

/-- Where a node is reached. -/
structure Address where
  host : String
  port : Int
  deriving DecidableEq, Repr

namespace Address

/-- The text of an address. -/
def text (a : Address) : String :=
  let host := if a.host.toList.contains ':' then "[" ++ a.host ++ "]" else a.host
  host ++ ":" ++ Decimal.ofInt a.port

/-- The order of answers: by host, then by TCP port. -/
def le (a b : Address) : Bool :=
  a.host < b.host || (a.host == b.host && a.port ≤ b.port)

/-- What a field takes of an offer that may be missing. -/
def field {α : Type} (place : String) (convert : Value → Except Problem α) :
    Option Value → Except Reason α
  | none => .error ⟨place, .missing⟩
  | some v =>
    match convert v with
    | .ok a => .ok a
    | .error p => .error ⟨place, p⟩

/-- The address made of the offered host and TCP port, leniently converted. -/
def ofOffer (host port : Option Value) : Except Failure Address :=
  match field "host" Value.toText host, field "port" Value.toInteger port with
  | .ok h, .ok p => .ok ⟨h, p⟩
  | .error r, .ok _ => .error (.refused [r])
  | .ok _, .error r => .error (.refused [r])
  | .error r, .error s => .error (.refused [r, s])

end Address

end RollCall
