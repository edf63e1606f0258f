import RollCall.Site.Gateway
import RollCall.Store.Basic

/-!
# The object store in memory, as a backend

A world that is nothing but a store takes every call and never fails, except that what is not there
cannot be read.

## Main definitions

* `Store.backend`: how a store takes calls.
-/

namespace RollCall.Store

/-- How a store takes calls. -/
def backend : Backend Store where
  put key data := fun s => (.ok (), s.put key data)
  get key := fun s => (s.get key, s)
  list keyPrefix := fun s => (.ok (s.list keyPrefix), s)
  delete key := fun s => (.ok (), s.delete key)
  checkBucket := fun s => (.ok .existing, s)
  close := fun s => (.ok (), s)
  connect _ := fun s => (.ok (), s)

end RollCall.Store
