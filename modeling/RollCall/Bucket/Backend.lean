import RollCall.Bucket.Gateway
import RollCall.Site.Gateway

/-!
# Lazy listings and buckets, as backends

A listing of a gateway is lazy: it may deliver keys and fail afterwards. A backend is asked for all
keys at once, and a listing that fails, however late, brings none of them.

## Main definitions

* `Bucket.Gateway.Listed.whole`: a listing of which all keys are wanted.
* `Backend.delivering`: a backend with a lazy listing.
* `Bucket.Gateway.backend`: how a bucket takes calls.
-/

namespace RollCall

/-- What is made of a listing of which all keys are wanted: its keys, which are texts, or the
failure that ended it early. -/
def Bucket.Gateway.Listed.whole (listed : Bucket.Gateway.Listed) :
    Except Failure (List String) :=
  match listed.failure with
  | none => .ok (listed.keys.filterMap Value.text?)
  | some f => .error f

/-- A backend whose listing is lazy. -/
def Backend.delivering {ω : Type} (b : Backend ω)
    (listing : String → StateM ω Bucket.Gateway.Listed) : Backend ω :=
  { b with list := fun keyPrefix => return (← listing keyPrefix).whole }

/-- How a bucket takes calls, where a listing asks for up to `pages` pages. -/
def Bucket.Gateway.backend {σ : Type} (g : Bucket.Gateway σ) (pages : Nat) :
    Backend (Bucket.Session σ) where
  put := g.put
  get := g.get
  list keyPrefix := return (← g.list keyPrefix pages none).whole
  delete := g.delete
  checkBucket := g.checkBucket
  close := g.close
  connect _ := return .ok ()

end RollCall
