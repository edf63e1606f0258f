/-!
# Object keys

The record of a node lies in the bucket under the key `prefix/cluster/node`, where the prefix has
no slash at either end and is left out, with its slash, when it is empty. All records of a cluster
share the beginning `prefix/cluster/`, and listing a cluster is listing the keys that begin so.

## Main definitions

* `ObjectKey.normalize`: a prefix without slashes at either end.
* `ObjectKey.cluster`: the beginning of all keys of a cluster.
* `ObjectKey.node`: the key of a node.
-/

namespace RollCall.ObjectKey

/-- The characters of a prefix without slashes at either end. -/
def normalizeList (cs : List Char) : List Char :=
  ((cs.dropWhile (· == '/')).reverse.dropWhile (· == '/')).reverse

/-- A prefix without slashes at either end. -/
def normalize (keyPrefix : String) : String :=
  String.ofList (normalizeList keyPrefix.toList)

/-- The beginning of all keys of a cluster. -/
def cluster (keyPrefix clusterId : String) : String :=
  let p := normalize keyPrefix
  if p.isEmpty then clusterId ++ "/" else p ++ "/" ++ clusterId ++ "/"

/-- The key of a node. -/
def node (keyPrefix clusterId nodeId : String) : String :=
  cluster keyPrefix clusterId ++ nodeId

end RollCall.ObjectKey
