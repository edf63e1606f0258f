/-!
# Operations on the object store

What a node may ask of the object store. Setting up the way to the store counts as an operation
too, since it may fail like the others.
-/

namespace RollCall

/-- An operation on the object store. -/
inductive Operation
  | put
  | get
  | list
  | delete
  | checkBucket
  | close
  | connect
  deriving DecidableEq, Repr

namespace Operation

/-- The name of an operation in failures and counts. -/
def name : Operation → String
  | .put => "put"
  | .get => "get"
  | .list => "list"
  | .delete => "delete"
  | .checkBucket => "check_bucket"
  | .close => "close"
  | .connect => "factory"

/-- All operations. -/
def all : List Operation :=
  [.put, .get, .list, .delete, .checkBucket, .close, .connect]

/-- The operation of a name. -/
def ofName? (s : String) : Option Operation :=
  all.find? fun o => o.name == s

end Operation

end RollCall
