import RollCall.Yaml.Graph.Basic
import RollCall.Yaml.Lexer

/-!
# The graph of a text

A text holds at most one document. The tokens of its nodes follow a grammar of three kinds of
positions: in a block, where every kind of node may stand; as the key or value of a block mapping,
where besides a sequence need not be indented; and inside brackets, where block collections may
not stand. A node may have an anchor and a tag in front of it; a node with nothing else is an empty
scalar.

An anchor names its node for the aliases after it, even for those inside the node, and may be used
once. Collections nest at most `maxDepth` deep.

## Main definitions

* `Builder`: the tokens still to be read, and the graph so far.
* `Builder.node`: the node at the front of the tokens.
* `Graph.read`: the root of the document in a text, and its graph.
-/

namespace RollCall.Yaml

/-- Where a node stands. -/
inductive Position
  | block
  | entry
  | flow
  deriving DecidableEq, Repr

/-- The tokens still to be read, the nodes, the numbers of the anchored ones, and what the handles
of tags stand for. -/
structure Builder where
  tokens : List Token
  graph : Graph
  anchors : List (String × Nat)
  handles : List (String × String)

/-- What is in front of a node: an anchor and the name of a tag. -/
structure Properties where
  anchor : Option String
  tag : Option String

namespace Properties

/-- The tag of a collection: the one that is named, unless that leaves it open. -/
def collectionTag (p : Properties) (otherwise : Tag) : Tag :=
  match p.tag with
  | none => otherwise
  | some name => if name == "!" then otherwise else .ofName name

/-- The tag of a scalar. Where none is named, the form of a plain scalar decides; where the name
leaves it open, that of any scalar. -/
def scalarTag (p : Properties) (text : List Text.Symbol) (isPlain : Bool) : Tag :=
  let formTag := ((Text.Symbol.chars? text).map Tag.ofPlain).getD .text
  match p.tag with
  | none => if isPlain then formTag else .text
  | some name => if name == "!" then formTag else .ofName name

end Properties

namespace Builder

/-- The next token. -/
def next (b : Builder) : Token :=
  b.tokens.head?.getD (.broken .malformed)

/-- The builder behind the next token. -/
def skip (b : Builder) : Builder :=
  { b with tokens := b.tokens.tail }

/-- The outcome of finding the next token where it does not belong. -/
def refuse {α : Type} (b : Builder) : Reading α :=
  .error b.next.unexpected

/-- The builder behind the next token, which must be `t`. -/
def expect (t : Token) (b : Builder) : Reading Builder :=
  if b.next == t then .ok b.skip else b.refuse

/-- One node more, and its number. -/
def add (b : Builder) (x : Node) : Nat × Builder :=
  (b.graph.size, { b with graph := b.graph.push x })

/-- The name `anchor` for the node that is added next. -/
def declare (b : Builder) (anchor : Option String) : Builder :=
  match anchor with
  | none => b
  | some name => { b with anchors := (name, b.graph.size) :: b.anchors }

/-- The number of an empty scalar without properties. -/
def addEmpty (b : Builder) : Nat × Builder :=
  b.add ⟨.null, .scalar []⟩

/-! ### Properties -/

/-- The full name of a tag. -/
def expand (b : Builder) (t : TagName) : Reading String :=
  match t.handle with
  | none => .ok t.suffix
  | some handle =>
    match b.handles.lookup handle with
    | some expansion => .ok (expansion ++ t.suffix)
    | none => malformed

/-- The properties at the front of the tokens: an anchor and a tag in either order. -/
def properties (b : Builder) : Reading (Properties × Builder) := do
  let (anchor, tag, b) :=
    match b.tokens with
    | .anchor name :: .tag t :: ts => (some name, some t, { b with tokens := ts })
    | .tag t :: .anchor name :: ts => (some name, some t, { b with tokens := ts })
    | .anchor name :: ts => (some name, none, { b with tokens := ts })
    | .tag t :: ts => (none, some t, { b with tokens := ts })
    | _ => (none, none, b)
  return (⟨anchor, ← tag.mapM b.expand⟩, b)

/-! ### Nodes -/

/-- Whether an entry of a block mapping is empty before a token. -/
def endsEntry : Token → Bool
  | .key | .value | .blockEnd => true
  | _ => false

/-- Whether an item of a sequence that is not indented is empty before a token. -/
def endsItem (t : Token) : Bool :=
  t == .dash || endsEntry t

mutual

/-- The node at the front of the tokens; its number, and the builder behind it. -/
def node (fuel depth : Nat) (position : Position) (b : Builder) : Reading (Nat × Builder) :=
  match fuel with
  | 0 => malformed
  | fuel + 1 =>
    match b.next with
    | .alias name =>
      match b.anchors.lookup name with
      | some n => .ok (n, b.skip)
      | none => malformed
    | _ =>
      match b.properties with
      | .error f => .error f
      | .ok (p, b) =>
        if p.anchor.any fun name => (b.anchors.lookup name).isSome then malformed
        else if maxDepth < depth then failed .tooDeep
        else content fuel depth position p (b.declare p.anchor)

/-- The node at the front of the tokens, behind its properties. -/
def content (fuel depth : Nat) (position : Position) (p : Properties) (b : Builder) :
    Reading (Nat × Builder) :=
  match fuel with
  | 0 => malformed
  | fuel + 1 =>
    let n := b.graph.size
    let sequence (items : Nat → Builder → Reading (List Nat × Builder)) (b : Builder) :
        Reading (Nat × Builder) :=
      let tag := p.collectionTag .sequence
      match items (depth + 1) (b.add ⟨tag, .sequence []⟩).2 with
      | .error f => .error f
      | .ok (ids, b) => .ok (n, { b with graph := b.graph.set n ⟨tag, .sequence ids⟩ })
    let mapping (entries : Nat → Builder → Reading (List (Nat × Nat) × Builder)) (b : Builder) :
        Reading (Nat × Builder) :=
      let tag := p.collectionTag .mapping
      match entries (depth + 1) (b.add ⟨tag, .mapping []⟩).2 with
      | .error f => .error f
      | .ok (es, b) => .ok (n, { b with graph := b.graph.set n ⟨tag, .mapping es⟩ })
    match b.next with
    | .scalar text isPlain => .ok (b.skip.add ⟨p.scalarTag text isPlain, .scalar text⟩)
    | .openBracket => sequence (flowItems fuel true []) b.skip
    | .openBrace => mapping (flowEntries fuel true []) b.skip
    | t =>
      if t == .dash && position == .entry then sequence (looseItems fuel []) b
      else if t == .blockSequence && position != .flow then sequence (items fuel []) b.skip
      else if t == .blockMapping && position != .flow then mapping (entries fuel []) b.skip
      else if p.anchor.isSome || p.tag.isSome then
        .ok (b.add ⟨p.scalarTag [] true, .scalar []⟩)
      else b.refuse

/-- The items of a block sequence after those read, in reverse. -/
def items (fuel : Nat) (read : List Nat) (depth : Nat) (b : Builder) :
    Reading (List Nat × Builder) :=
  match fuel with
  | 0 => malformed
  | fuel + 1 =>
    match b.next with
    | .dash =>
      let b := b.skip
      if b.next == .dash || b.next == .blockEnd then
        let (n, b) := b.addEmpty
        items fuel (n :: read) depth b
      else
        match node fuel depth .block b with
        | .error f => .error f
        | .ok (n, b) => items fuel (n :: read) depth b
    | .blockEnd => .ok (read.reverse, b.skip)
    | _ => b.refuse

/-- The items of a sequence that is not indented, after those read, in reverse. -/
def looseItems (fuel : Nat) (read : List Nat) (depth : Nat) (b : Builder) :
    Reading (List Nat × Builder) :=
  match fuel with
  | 0 => malformed
  | fuel + 1 =>
    match b.next with
    | .dash =>
      let b := b.skip
      if endsItem b.next then
        let (n, b) := b.addEmpty
        looseItems fuel (n :: read) depth b
      else
        match node fuel depth .block b with
        | .error f => .error f
        | .ok (n, b) => looseItems fuel (n :: read) depth b
    | _ => .ok (read.reverse, b)

/-- The entries of a block mapping after those read, in reverse. -/
def entries (fuel : Nat) (read : List (Nat × Nat)) (depth : Nat) (b : Builder) :
    Reading (List (Nat × Nat) × Builder) :=
  match fuel with
  | 0 => malformed
  | fuel + 1 =>
    match b.next with
    | .key =>
      match entryPart fuel depth b.skip with
      | .error f => .error f
      | .ok (key, b) =>
        if b.next == .value then
          match entryPart fuel depth b.skip with
          | .error f => .error f
          | .ok (value, b) => entries fuel ((key, value) :: read) depth b
        else
          let (value, b) := b.addEmpty
          entries fuel ((key, value) :: read) depth b
    | .blockEnd => .ok (read.reverse, b.skip)
    | _ => b.refuse

/-- The key or the value of an entry of a block mapping. -/
def entryPart (fuel depth : Nat) (b : Builder) : Reading (Nat × Builder) :=
  match fuel with
  | 0 => malformed
  | fuel + 1 =>
    if endsEntry b.next then .ok b.addEmpty else node fuel depth .entry b

/-- A part of an entry in brackets that is empty before a comma, before `close`, and before a colon
if it is the key. -/
def flowPart (fuel depth : Nat) (isKey : Bool) (close : Token) (b : Builder) :
    Reading (Nat × Builder) :=
  match fuel with
  | 0 => malformed
  | fuel + 1 =>
    if b.next == .comma || b.next == close || (isKey && b.next == .value) then .ok b.addEmpty
    else node fuel depth .flow b

/-- An entry in brackets behind the mark of its key. -/
def flowEntry (fuel depth : Nat) (close : Token) (b : Builder) :
    Reading ((Nat × Nat) × Builder) :=
  match fuel with
  | 0 => malformed
  | fuel + 1 =>
    match flowPart fuel depth true close b with
    | .error f => .error f
    | .ok (key, b) =>
      if b.next == .value then
        match flowPart fuel depth false close b.skip with
        | .error f => .error f
        | .ok (value, b) => .ok ((key, value), b)
      else
        let (value, b) := b.addEmpty
        .ok ((key, value), b)

/-- The items of a sequence in brackets after those read, in reverse. An item with a key is a
mapping with one entry. -/
def flowItems (fuel : Nat) (isFirst : Bool) (read : List Nat) (depth : Nat) (b : Builder) :
    Reading (List Nat × Builder) :=
  match fuel with
  | 0 => malformed
  | fuel + 1 =>
    if b.next == .closeBracket then .ok (read.reverse, b.skip)
    else
      match (if isFirst then .ok b else b.expect .comma) with
      | .error f => .error f
      | .ok b =>
        match b.next with
        | .closeBracket => .ok (read.reverse, b.skip)
        | .key =>
          let (n, b) := b.skip.add ⟨.mapping, .mapping []⟩
          match flowEntry fuel (depth + 1) .closeBracket b with
          | .error f => .error f
          | .ok (entry, b) =>
            let b := { b with graph := b.graph.set n ⟨.mapping, .mapping [entry]⟩ }
            flowItems fuel false (n :: read) depth b
        | _ =>
          match node fuel depth .flow b with
          | .error f => .error f
          | .ok (n, b) => flowItems fuel false (n :: read) depth b

/-- The entries of a mapping in braces after those read, in reverse. An entry without a colon has
an empty value. -/
def flowEntries (fuel : Nat) (isFirst : Bool) (read : List (Nat × Nat)) (depth : Nat)
    (b : Builder) : Reading (List (Nat × Nat) × Builder) :=
  match fuel with
  | 0 => malformed
  | fuel + 1 =>
    if b.next == .closeBrace then .ok (read.reverse, b.skip)
    else
      match (if isFirst then .ok b else b.expect .comma) with
      | .error f => .error f
      | .ok b =>
        match b.next with
        | .closeBrace => .ok (read.reverse, b.skip)
        | .key =>
          match flowEntry fuel depth .closeBrace b.skip with
          | .error f => .error f
          | .ok (entry, b) => flowEntries fuel false (entry :: read) depth b
        | _ =>
          match node fuel depth .flow b with
          | .error f => .error f
          | .ok (key, b) =>
            let (value, b) := b.addEmpty
            flowEntries fuel false ((key, value) :: read) depth b

end

/-! ### Documents -/

/-- What the handles of tags stand for where no directive says otherwise. -/
def commonHandles : List (String × String) :=
  [("!", "!"), ("!!", Tag.commonHandle)]

/-- Reads directives: one version at most, whose first number is one, and each handle at most
once. -/
def directives (hasVersion : Bool) (handles : List (String × String)) :
    List Token → Reading (List (String × String) × List Token)
  | .directive (.version major) :: ts =>
    if hasVersion || major != 1 then malformed else directives true handles ts
  | .directive (.handle name expansion) :: ts =>
    if (handles.lookup name).isSome then malformed
    else directives hasVersion ((name, expansion) :: handles) ts
  | .directive .other :: ts => directives hasVersion handles ts
  | ts => .ok (handles, ts)

/-- Whether a document is empty before a token. -/
def endsDocument : Token → Bool
  | .directive _ | .documentStart | .documentEnd | .finish => true
  | _ => false

/-- The root of the document, if there is one, and the builder behind it. -/
def document (fuel : Nat) (ts : List Token) : Reading (Option Nat × Builder) := do
  let b : Builder := ⟨ts, .empty, [], commonHandles⟩
  match b.next with
  | .finish => return (none, b)
  | .directive _ | .documentStart =>
    let (handles, ts) ← directives false [] ts
    let b := { b with tokens := ts, handles := handles ++ commonHandles }
    let b ← b.expect .documentStart
    let (root, b) ← if endsDocument b.next then pure b.addEmpty else node fuel 1 .block b
    return (some root, b)
  | _ =>
    let (root, b) ← node fuel 1 .block b
    return (some root, b)

/-- The builder behind the marks that end a document. -/
def skipEnds (b : Builder) : Builder :=
  { b with tokens := b.tokens.dropWhile (· == .documentEnd) }

end Builder

/-- The root of the document in a text, if there is one, and its graph. -/
def Graph.read (text : List Char) : Reading (Option Nat × Graph) := do
  let ts := tokens text
  let (root, b) ← Builder.document (4 * ts.length + 4) ts
  let _ ← b.skipEnds.expect .finish
  return (root, b.graph)

end RollCall.Yaml
