import RollCall.Text.Base64
import RollCall.Yaml.Graph.Merge
import RollCall.Yaml.Numeral

/-!
# The value of a document

Every node stands for a value. The nodes are looked at level by level, each once, so that of several
faults the one nearest to the root counts, and of these the first in the text. What a mapping takes
over from others is settled when the mapping is looked into, and changes the graph for the nodes
that are looked at later.

A document may share nodes, and a node may be part of itself; `Evaluation.value` therefore says how
many levels of a value are wanted, and leaves out what is deeper.

## Main definitions

* `Graph.scalarValue`: the value of a scalar under a tag.
* `Evaluation`, `Graph.evaluate`: what the nodes stand for.
* `Yaml.value`: the value of the document in a text.
-/

namespace RollCall.Yaml

namespace Graph

/-! ### Scalars -/

/-- The symbols of a node that is to be a scalar. A mapping may have such a node as its value; more
than `fuel` mappings in one another are part of themselves. -/
def symbols (g : Graph) : Nat → Nat → Reading (List Text.Symbol)
  | 0, _ => failed .tooDeep
  | fuel + 1, n =>
    match (g.node n).content with
    | .scalar text => .ok text
    | .sequence _ => malformed
    | .mapping es =>
      match es.find? fun e => (g.node e.1).tag == .value with
      | some e => g.symbols fuel e.2
      | none => malformed

/-- The truth value of a word. -/
def truthValue (text : List Text.Symbol) : Reading Value :=
  let word := Text.lowerSymbols text
  match (Text.Symbol.chars? word).bind fun cs => Tag.truthWords.lookup (String.ofList cs) with
  | some b => .ok (.bool b)
  | none => failed (.unknownWord word)

/-- The bytes that a scalar stands for. -/
def binaryValue (text : List Text.Symbol) : Reading Value :=
  match Text.Symbol.chars? text with
  | none => malformed
  | some cs =>
    if cs.all fun c => c.toNat < 0x80 then
      match Base64.decode? cs with
      | some bytes => .ok (.bytes bytes)
      | none => malformed
    else malformed

/-- The point in time that a scalar stands for. -/
def momentValue (text : List Text.Symbol) : Reading Value :=
  match (Text.Symbol.chars? text).bind fun cs => Moment.read? (Tag.dropFinalBreak cs) with
  | none => failed .notMoment
  | some m =>
    match m.fault? with
    | some fault => failed (.calendar fault)
    | none => .ok .moment

/-- The value of a scalar under a tag. -/
def scalarValue : Tag → List Text.Symbol → Reading Value
  | .null, _ => .ok .null
  | .text, text => .ok (.ofSymbols text)
  | .bool, text => truthValue text
  | .int, text => return .int (← Numeral.integer text)
  | .float, text => return .float (← Numeral.real text)
  | .binary, text => binaryValue text
  | .moment, text => momentValue text
  | _, _ => malformed

/-- The value of a node that is to be a scalar. A point in time may not be the value of a
mapping. -/
def nodeValue (g : Graph) (n : Nat) : Reading Value := do
  let x := g.node n
  let text ← g.symbols (g.size + 1) n
  match x.tag, x.content with
  | .moment, .mapping _ => failed .wrappedMoment
  | tag, _ => scalarValue tag text

end Graph

/-! ### Nodes -/

/-- What a node stands for: a value, or a collection of what other nodes stand for. -/
inductive Cell
  | value (v : Value)
  | list (items : List Nat)
  | pairs (entries : List (Nat × Nat))
  | map (entries : List (Nat × Nat))
  | set (members : List Nat)

/-- Whether a cell is a collection, which no key may be. -/
def Cell.isCollection : Cell → Bool
  | .value _ => false
  | _ => true

/-- What the nodes that were looked at stand for, the collections among them in the order in which
they were met, and the graph as far as it is settled. A collection is without its parts until it is
looked into. -/
structure Evaluation where
  cells : Array (Option Cell)
  met : Array Nat
  graph : Graph

namespace Evaluation

/-- Nothing looked at. -/
def start (g : Graph) : Evaluation :=
  ⟨Array.replicate g.size none, #[], g⟩

/-- What a node stands for, if it was looked at. -/
def cell? (s : Evaluation) (n : Nat) : Option Cell :=
  s.cells.getD n none

/-- What a node stands for. -/
def set (s : Evaluation) (n : Nat) (c : Cell) : Evaluation :=
  { s with cells := s.cells.setIfInBounds n (some c) }

/-- The collection that a node stands for, without its parts. -/
def meet (s : Evaluation) (n : Nat) (c : Cell) : Evaluation :=
  { s.set n c with met := s.met.push n }

/-- Looks at a node. -/
def look (s : Evaluation) (n : Nat) : Reading Evaluation :=
  if (s.cell? n).isSome then .ok s
  else
    match (s.graph.node n).tag with
    | .sequence => .ok (s.meet n (.list []))
    | .pairs => .ok (s.meet n (.pairs []))
    | .mapping => .ok (s.meet n (.map []))
    | .set => .ok (s.meet n (.set []))
    | _ =>
      match s.graph.nodeValue n with
      | .error f => .error f
      | .ok v => .ok (s.set n (.value v))

/-- Looks at the key and the value of an entry. -/
def lookAtPair (s : Evaluation) (e : Nat × Nat) : Reading Evaluation :=
  match s.look e.1 with
  | .error f => .error f
  | .ok s => s.look e.2

/-- Looks at the key and the value of an entry of a mapping. The key may not be a collection. -/
def lookAtEntry (s : Evaluation) (e : Nat × Nat) : Reading Evaluation :=
  match s.look e.1 with
  | .error f => .error f
  | .ok s => if (s.cell? e.1).any Cell.isCollection then malformed else s.look e.2

/-- The entry of a mapping that has one. -/
def onlyEntry (s : Evaluation) (n : Nat) : Reading (Nat × Nat) :=
  match (s.graph.node n).content with
  | .mapping [e] => .ok e
  | _ => malformed

/-- Looks at the item of a sequence of pairs, which come in reverse. -/
def lookAtItem (s : Evaluation × List (Nat × Nat)) (n : Nat) :
    Reading (Evaluation × List (Nat × Nat)) := do
  let e ← s.1.onlyEntry n
  return (← s.1.lookAtPair e, e :: s.2)

/-- Looks at the entries of a mapping once it is settled what it takes over, and gives them with the
evaluation. -/
def lookAtEntries (s : Evaluation) (n : Nat) : Reading (List (Nat × Nat) × Evaluation) := do
  let graph ← s.graph.settle n
  let es := graph.entries n
  return (es, ← es.foldlM lookAtEntry { s with graph })

/-- Looks into a collection. -/
def lookInto (s : Evaluation) (n : Nat) : Reading Evaluation := do
  let x := s.graph.node n
  match x.tag, x.content with
  | .sequence, .sequence items =>
    let s ← items.foldlM look s
    return s.set n (.list items)
  | .pairs, .sequence items =>
    let (s, es) ← items.foldlM lookAtItem (s, [])
    return s.set n (.pairs es.reverse)
  | .mapping, .mapping _ =>
    let (es, s) ← s.lookAtEntries n
    return s.set n (.map es)
  | .set, .mapping _ =>
    let (es, s) ← s.lookAtEntries n
    return s.set n (.set (es.map Prod.fst))
  | _, _ => malformed

/-- Looks into the collections that were met, from the one with `i` before it on; there are no more
than `fuel`. -/
def run : Nat → Nat → Evaluation → Reading Evaluation
  | 0, _, s => .ok s
  | fuel + 1, i, s =>
    match s.met[i]? with
    | none => .ok s
    | some n =>
      match s.lookInto n with
      | .error f => .error f
      | .ok s => run fuel (i + 1) s

/-- The value that a node stands for, with `levels` levels of collections and scalars. -/
def value (s : Evaluation) : Nat → Nat → Value
  | 0, _ => .null
  | levels + 1, n =>
    match s.cell? n with
    | none => .null
    | some (.value v) => v
    | some (.list items) => .list (items.map (value s levels))
    | some (.pairs es) =>
      .list (es.map fun e => .list [value s levels e.1, value s levels e.2])
    | some (.map es) => .map (es.map fun e => (value s levels e.1, value s levels e.2))
    | some (.set members) => .set (members.map (value s levels))

end Evaluation

/-- What the nodes below a root stand for. -/
def Graph.evaluate (g : Graph) (root : Nat) : Reading Evaluation := do
  let s ← (Evaluation.start g).look root
  Evaluation.run (g.size + 1) 0 s

/-- The value of the document in a text, with as many levels as are wanted; an empty text has
none. -/
def value (levels : Nat) (text : List Char) : Reading Value := do
  match ← Graph.read text with
  | (none, _) => return .null
  | (some root, g) => return (← g.evaluate root).value levels root

end RollCall.Yaml
