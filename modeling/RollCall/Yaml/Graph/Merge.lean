import RollCall.Yaml.Graph.Reader

/-!
# Merged mappings

An entry of a mapping under the key for merging is no entry of its own: it names mappings whose
entries the mapping takes over. These come before its own entries, which therefore win. `settle`
replaces a mapping of a graph in this way, and before it those that it takes entries from.

A mapping may take over entries from itself, by way of others. An entry for merging is therefore
taken away before the mappings that it names are settled, so that settling comes to an end; what a
mapping that is being settled already has at that moment is what others get from it.

The key for the value of a whole mapping is an ordinary text once its mapping is settled.

## Main definitions

* `Graph.entries`: the entries of a mapping.
* `Graph.settle`: the graph with a mapping that has its merged entries.
-/

namespace RollCall.Yaml.Graph

variable (g : Graph)

/-- The entries of a mapping; other nodes have none. -/
def entries (n : Nat) : List (Nat × Nat) :=
  match (g.node n).content with
  | .mapping es => es
  | _ => []

/-- The graph with other entries of a mapping. -/
def setEntries (n : Nat) (es : List (Nat × Nat)) : Graph :=
  g.set n { g.node n with content := .mapping es }

/-- Whether a node is a mapping. -/
def isMapping (n : Nat) : Bool :=
  match (g.node n).content with
  | .mapping _ => true
  | _ => false

/-- Whether an entry takes over the entries of other mappings. -/
def isMerge (e : Nat × Nat) : Bool :=
  (g.node e.1).tag == .merge

/-- The number of entries for merging in the graph. -/
def mergeCount : Nat :=
  g.nodes.foldl (fun count x =>
    match x.content with
    | .mapping es => count + es.countP g.isMerge
    | _ => count) 0

/-- The graph in which the key of an entry, if it is the one for the value of a mapping, is a
text. -/
def plainKey (e : Nat × Nat) : Graph :=
  let key := g.node e.1
  if key.tag == .value then g.set e.1 { key with tag := .text } else g

/-- Settles the mapping `n` from the entry with `i` entries before it on, when it has got the
entries `taken` from others. There are fewer than `fuel` entries for merging. -/
def settleFrom (n : Nat) : (fuel i : Nat) → (taken : List (Nat × Nat)) → Graph → Reading Graph
  | 0, _, _, _ => malformed
  | fuel + 1, i, taken, g =>
    let es := g.entries n
    let passed := (es.drop i).takeWhile fun e => !g.isMerge e
    let g := passed.foldl plainKey g
    let i := i + passed.length
    match es[i]? with
    | none => .ok (g.setEntries n (taken ++ es))
    | some e => do
      let g := g.setEntries n (es.eraseIdx i)
      match (g.node e.2).content with
      | .mapping _ =>
        let g ← settleFrom e.2 fuel 0 [] g
        settleFrom n fuel i (taken ++ g.entries e.2) g
      | .sequence items =>
        let (found, g) ← items.foldlM (fun (found, g) m =>
          if g.isMapping m then do
            let g ← settleFrom m fuel 0 [] g
            return (g.entries m :: found, g)
          else malformed) ([], g)
        settleFrom n fuel i (taken ++ found.flatten) g
      | .scalar _ => malformed

/-- The graph with a mapping that has its merged entries. -/
def settle (n : Nat) : Reading Graph :=
  settleFrom n (g.mergeCount + 1) 0 [] g

end RollCall.Yaml.Graph
