import RollCall.Text.Symbol
import RollCall.Yaml.Tag

/-!
# Documents as graphs

A document is a graph of nodes: scalars, sequences of nodes, and mappings with pairs of nodes as
entries. A node is known by its number. An alias is one more edge to the node that it names, so
nodes may be shared and may even be parts of themselves.

## Main definitions

* `Content`, `Node`, `Graph`.
* `Graph.node`: the node of a number.
-/

namespace RollCall.Yaml

/-- What a node is made of. -/
inductive Content
  | scalar (text : List Text.Symbol)
  | sequence (items : List Nat)
  | mapping (entries : List (Nat × Nat))
  deriving DecidableEq, Repr, Inhabited

/-- A node: what it stands for and what it is made of. -/
structure Node where
  tag : Tag
  content : Content
  deriving DecidableEq, Repr, Inhabited

/-- The nodes of a document by their numbers. -/
structure Graph where
  nodes : Array Node
  deriving DecidableEq, Repr

namespace Graph

/-- The graph without nodes. -/
def empty : Graph := ⟨#[]⟩

/-- The number of nodes. -/
def size (g : Graph) : Nat :=
  g.nodes.size

/-- The node of a number; where there is none, an empty text. -/
def node (g : Graph) (n : Nat) : Node :=
  g.nodes.getD n ⟨.text, .scalar []⟩

/-- One node more, which gets the number `g.size`. -/
def push (g : Graph) (x : Node) : Graph :=
  ⟨g.nodes.push x⟩

/-- The graph with another node under a number. -/
def set (g : Graph) (n : Nat) (x : Node) : Graph :=
  ⟨g.nodes.setIfInBounds n x⟩

theorem node_push (g : Graph) (x : Node) : (g.push x).node g.size = x := by
  simp [node, push, size]

theorem node_push_of_ne {g : Graph} {x : Node} {n : Nat} (h : n ≠ g.size) :
    (g.push x).node n = g.node n := by
  simp only [node, push, size, Array.getD_eq_getD_getElem?] at *
  rw [Array.getElem?_push]
  simp [h]

end Graph

end RollCall.Yaml
