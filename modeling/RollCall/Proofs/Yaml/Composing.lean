import RollCall.Proofs.Yaml.Scanning
import RollCall.Yaml.Graph.Reader

/-!
# What composing a document fails with

A document is composed of its tokens from the first to the last. Where the tokens end with a fault,
composing comes to the same fault, unless it finds the tokens before it malformed; and collections
may nest too deep. It fails with nothing else.

## Main definitions

* `Builder.Sound`: the tokens still to be read tell of certain failures only.

## Main results

* `raises_read`: composing a document fails only as reading its tokens does.
-/

namespace RollCall.Yaml

variable {α : Type} {P : Failure → Prop}

namespace Builder

variable {b : Builder}

/-- The tokens still to be read tell only of failures of `P`. -/
def Sound (P : Failure → Prop) (b : Builder) : Prop :=
  ∀ f, .broken (.failed f) ∈ b.tokens → P f

/-- Reading leaves a builder whose tokens tell only of failures of `P`, or it fails so itself. -/
def Leaves (P : Failure → Prop) (r : Reading (α × Builder)) : Prop :=
  Meets P (fun left => left.2.Sound P) r

theorem Sound.skip (h : b.Sound P) : b.skip.Sound P :=
  fun f hmem => h f (List.mem_of_mem_tail hmem)

/-- A token in the wrong place is a fault, and the one that it tells of, if it does. -/
theorem Sound.refuse {Q : α → Prop} (h : b.Sound P) : Meets P Q b.refuse := by
  obtain ⟨ts, graph, anchors, handles⟩ := b
  cases ts with
  | nil => trivial
  | cons t ts =>
    cases t with
    | broken fault =>
      cases fault with
      | malformed => trivial
      | failed f => exact h f List.mem_cons_self
    | _ => trivial

theorem Sound.expect (h : b.Sound P) (t : Token) : Meets P (Sound P) (b.expect t) :=
  .ite h.skip h.refuse

/-- Inside brackets a comma has to stand before every part but the first. -/
theorem Sound.comma (h : b.Sound P) (isFirst : Bool) :
    Meets P (Sound P) (if isFirst then .ok b else b.expect .comma) :=
  .ite h (h.expect .comma)

theorem Sound.declare (h : b.Sound P) (anchor : Option String) : (b.declare anchor).Sound P := by
  cases anchor <;> exact h

theorem Sound.properties (h : b.Sound P) : Leaves P b.properties := by
  have hlast (anchor : Option String) (tag : Option TagName) {b : Builder} (hb : b.Sound P) :
      Leaves P (tag.mapM b.expand >>= fun tag => pure (Properties.mk anchor tag, b)) := by
    have hexpand : Raises P (tag.mapM b.expand) := by
      cases tag with
      | none => trivial
      | some t =>
        refine Raises.bind ?_ fun _ => trivial
        unfold expand
        split
        · trivial
        · split <;> trivial
    exact hexpand.bind fun _ => hb
  have hrest (front : List Token) {ts : List Token} (hts : b.tokens = front ++ ts) :
      Sound P { b with tokens := ts } :=
    fun f hmem => h f (hts ▸ List.mem_append_right front hmem)
  unfold Builder.properties
  split
  next hfront =>
    split at hfront
    · next hts =>
      cases hfront
      exact hlast _ _ (hrest [_, _] hts)
    · next hts =>
      cases hfront
      exact hlast _ _ (hrest [_, _] hts)
    · next hts =>
      cases hfront
      exact hlast _ _ (hrest [_] hts)
    · next hts =>
      cases hfront
      exact hlast _ _ (hrest [_] hts)
    · cases hfront
      exact hlast _ _ h

/-- What holds of all ways to read a node or a part of one, with so many steps. -/
structure Reads (P : Failure → Prop) (fuel : Nat) : Prop where
  node : ∀ {b : Builder}, b.Sound P → ∀ depth position, Leaves P (node fuel depth position b)
  content : ∀ {b : Builder}, b.Sound P → ∀ depth position p,
    Leaves P (content fuel depth position p b)
  items : ∀ {b : Builder}, b.Sound P → ∀ read depth, Leaves P (items fuel read depth b)
  looseItems : ∀ {b : Builder}, b.Sound P → ∀ read depth, Leaves P (looseItems fuel read depth b)
  entries : ∀ {b : Builder}, b.Sound P → ∀ read depth, Leaves P (entries fuel read depth b)
  entryPart : ∀ {b : Builder}, b.Sound P → ∀ depth, Leaves P (entryPart fuel depth b)
  flowPart : ∀ {b : Builder}, b.Sound P → ∀ depth isKey close,
    Leaves P (flowPart fuel depth isKey close b)
  flowEntry : ∀ {b : Builder}, b.Sound P → ∀ depth close, Leaves P (flowEntry fuel depth close b)
  flowItems : ∀ {b : Builder}, b.Sound P → ∀ isFirst read depth,
    Leaves P (flowItems fuel isFirst read depth b)
  flowEntries : ∀ {b : Builder}, b.Sound P → ∀ isFirst read depth,
    Leaves P (flowEntries fuel isFirst read depth b)

section Step

variable {fuel : Nat} (ih : Reads P fuel) (h : b.Sound P)
include ih h

theorem leaves_node (hdeep : P .tooDeep) (depth : Nat) (position : Position) :
    Leaves P (node (fuel + 1) depth position b) := by
  rw [node]
  split
  · split
    · exact h.skip
    · trivial
  · split
    · next hproperties => exact h.properties.error hproperties
    · next p b hproperties =>
      have hb : b.Sound P := h.properties.value hproperties
      refine .ite trivial (.ite hdeep ?_)
      exact ih.content (hb.declare _) _ _ _

theorem leaves_content (depth : Nat) (position : Position) (p : Properties) :
    Leaves P (content (fuel + 1) depth position p b) := by
  rw [content]
  dsimp only
  split
  · exact h.skip
  · split
    · next hparts => exact (ih.flowItems (b := (b.skip.add _).2) h.skip _ _ _).error hparts
    · next hparts => exact (ih.flowItems (b := (b.skip.add _).2) h.skip _ _ _).value hparts
  · split
    · next hparts => exact (ih.flowEntries (b := (b.skip.add _).2) h.skip _ _ _).error hparts
    · next hparts => exact (ih.flowEntries (b := (b.skip.add _).2) h.skip _ _ _).value hparts
  · refine .ite ?_ (.ite ?_ (.ite ?_ (.ite h h.refuse)))
    · split
      · next hparts => exact (ih.looseItems (b := (b.add _).2) h _ _).error hparts
      · next hparts => exact (ih.looseItems (b := (b.add _).2) h _ _).value hparts
    · split
      · next hparts => exact (ih.items (b := (b.skip.add _).2) h.skip _ _).error hparts
      · next hparts => exact (ih.items (b := (b.skip.add _).2) h.skip _ _).value hparts
    · split
      · next hparts => exact (ih.entries (b := (b.skip.add _).2) h.skip _ _).error hparts
      · next hparts => exact (ih.entries (b := (b.skip.add _).2) h.skip _ _).value hparts

theorem leaves_items (read : List Nat) (depth : Nat) :
    Leaves P (items (fuel + 1) read depth b) := by
  rw [items]
  split
  · refine .ite (ih.items (b := b.skip.addEmpty.2) h.skip _ _) ?_
    split
    · next hnode => exact (ih.node h.skip _ _).error hnode
    · next hnode => exact ih.items ((ih.node h.skip _ _).value hnode) _ _
  · exact h.skip
  · exact h.refuse

theorem leaves_looseItems (read : List Nat) (depth : Nat) :
    Leaves P (looseItems (fuel + 1) read depth b) := by
  rw [looseItems]
  split
  · refine .ite (ih.looseItems (b := b.skip.addEmpty.2) h.skip _ _) ?_
    split
    · next hnode => exact (ih.node h.skip _ _).error hnode
    · next hnode => exact ih.looseItems ((ih.node h.skip _ _).value hnode) _ _
  · exact h

theorem leaves_entries (read : List (Nat × Nat)) (depth : Nat) :
    Leaves P (entries (fuel + 1) read depth b) := by
  rw [entries]
  split
  · split
    · next hkey => exact (ih.entryPart h.skip _).error hkey
    · next key b hkey =>
      have hb : b.Sound P := (ih.entryPart h.skip _).value hkey
      refine .ite ?_ (ih.entries (b := b.addEmpty.2) hb _ _)
      split
      · next hvalue => exact (ih.entryPart hb.skip _).error hvalue
      · next hvalue => exact ih.entries ((ih.entryPart hb.skip _).value hvalue) _ _
  · exact h.skip
  · exact h.refuse

theorem leaves_entryPart (depth : Nat) : Leaves P (entryPart (fuel + 1) depth b) := by
  rw [entryPart]
  exact .ite h (ih.node h _ _)

theorem leaves_flowPart (depth : Nat) (isKey : Bool) (close : Token) :
    Leaves P (flowPart (fuel + 1) depth isKey close b) := by
  rw [flowPart]
  exact .ite h (ih.node h _ _)

theorem leaves_flowEntry (depth : Nat) (close : Token) :
    Leaves P (flowEntry (fuel + 1) depth close b) := by
  rw [flowEntry]
  split
  · next hkey => exact (ih.flowPart h _ _ _).error hkey
  · next key b hkey =>
    have hb : b.Sound P := (ih.flowPart h _ _ _).value hkey
    refine .ite ?_ hb
    split
    · next hvalue => exact (ih.flowPart hb.skip _ _ _).error hvalue
    · next hvalue => exact (ih.flowPart hb.skip _ _ _).value hvalue

theorem leaves_flowItems (isFirst : Bool) (read : List Nat) (depth : Nat) :
    Leaves P (flowItems (fuel + 1) isFirst read depth b) := by
  rw [flowItems]
  refine .ite h.skip ?_
  split
  · next hcomma => exact (h.comma isFirst).error hcomma
  · next b' hcomma =>
    have hb : b'.Sound P := (h.comma isFirst).value hcomma
    split
    · exact hb.skip
    · dsimp only
      split
      · next hentry => exact (ih.flowEntry (b := (b'.skip.add _).2) hb.skip _ _).error hentry
      · next b'' hentry =>
        have hb' : b''.Sound P :=
          (ih.flowEntry (b := (b'.skip.add _).2) hb.skip _ _).value hentry
        refine ih.flowItems ?_ _ _ _
        exact hb'
    · split
      · next hnode => exact (ih.node hb _ _).error hnode
      · next hnode => exact ih.flowItems ((ih.node hb _ _).value hnode) _ _ _

theorem leaves_flowEntries (isFirst : Bool) (read : List (Nat × Nat)) (depth : Nat) :
    Leaves P (flowEntries (fuel + 1) isFirst read depth b) := by
  rw [flowEntries]
  refine .ite h.skip ?_
  split
  · next hcomma => exact (h.comma isFirst).error hcomma
  · next b' hcomma =>
    have hb : b'.Sound P := (h.comma isFirst).value hcomma
    split
    · exact hb.skip
    · split
      · next hentry => exact (ih.flowEntry hb.skip _ _).error hentry
      · next hentry => exact ih.flowEntries ((ih.flowEntry hb.skip _ _).value hentry) _ _ _
    · split
      · next hnode => exact (ih.node hb _ _).error hnode
      · next key b'' hnode =>
        have hb' : b''.Sound P := (ih.node hb _ _).value hnode
        exact ih.flowEntries (b := b''.addEmpty.2) hb' _ _ _

end Step

theorem reads (hdeep : P .tooDeep) (fuel : Nat) : Reads P fuel := by
  induction fuel with
  | zero =>
    constructor <;> intros
    · rw [node]; trivial
    · rw [content]; trivial
    · rw [items]; trivial
    · rw [looseItems]; trivial
    · rw [entries]; trivial
    · rw [entryPart]; trivial
    · rw [flowPart]; trivial
    · rw [flowEntry]; trivial
    · rw [flowItems]; trivial
    · rw [flowEntries]; trivial
  | succ fuel ih =>
    exact {
      node := fun h => leaves_node ih h hdeep
      content := fun h => leaves_content ih h
      items := fun h => leaves_items ih h
      looseItems := fun h => leaves_looseItems ih h
      entries := fun h => leaves_entries ih h
      entryPart := fun h => leaves_entryPart ih h
      flowPart := fun h => leaves_flowPart ih h
      flowEntry := fun h => leaves_flowEntry ih h
      flowItems := fun h => leaves_flowItems ih h
      flowEntries := fun h => leaves_flowEntries ih h }

/-! ### Documents -/

/-- The tokens behind the directives are among those that begin with them. -/
theorem directives_leaves (hasVersion : Bool) (handles : List (String × String))
    (ts : List Token) :
    Meets P (fun left => ∀ t ∈ left.2, t ∈ ts) (directives hasVersion handles ts) := by
  have hbehind {t : Token} {ts : List Token} {r : Reading (List (String × String) × List Token)}
      (h : Meets P (fun left => ∀ t ∈ left.2, t ∈ ts) r) :
      Meets P (fun left => ∀ t' ∈ left.2, t' ∈ t :: ts) r :=
    h.mono fun left hleft t' ht' => List.mem_cons_of_mem t (hleft t' ht')
  fun_induction directives hasVersion handles ts with
  | case1 => trivial
  | case2 hasVersion handles major ts hversion ih => exact hbehind ih
  | case3 => trivial
  | case4 hasVersion handles name expansion ts hname ih => exact hbehind ih
  | case5 hasVersion handles ts ih => exact hbehind ih
  | case6 => exact fun _ ht => ht

theorem document_leaves (hdeep : P .tooDeep) (fuel : Nat) {ts : List Token}
    (h : ∀ f, .broken (.failed f) ∈ ts → P f) : Leaves P (document fuel ts) := by
  have hnode {b : Builder} (hb : b.Sound P) : Leaves P (node fuel 1 .block b) :=
    (reads hdeep fuel).node hb 1 .block
  -- Behind the directives the document begins with its mark, and may be empty.
  have hmarked (left : List (String × String) × List Token) (hleft : ∀ t ∈ left.2, t ∈ ts) :
      Leaves P (expect .documentStart ⟨left.2, .empty, [], left.1 ++ commonHandles⟩ >>= fun b =>
        if endsDocument b.next then pure (some b.addEmpty.1, b.addEmpty.2)
        else node fuel 1 .block b >>= fun left => pure (some left.1, left.2)) := by
    have hb : Sound P ⟨left.2, .empty, [], left.1 ++ commonHandles⟩ :=
      fun f hmem => h f (hleft _ hmem)
    refine (hb.expect .documentStart).bind fun b hb => ?_
    exact .ite hb ((hnode hb).bind fun _ hleft => hleft)
  unfold document
  dsimp only
  split
  · exact h
  · exact (directives_leaves false [] ts).bind hmarked
  · exact (directives_leaves false [] ts).bind hmarked
  · exact (hnode (b := ⟨ts, .empty, [], commonHandles⟩) h).bind fun _ hleft => hleft

theorem Sound.skipEnds (h : b.Sound P) : b.skipEnds.Sound P :=
  fun f hmem => h f ((List.dropWhile_sublist _).subset hmem)

end Builder

/-- **Composing a document** fails only as reading its tokens does. -/
theorem raises_read (text : List Char) : Raises ScanFailure (Graph.read text) := by
  unfold Graph.read
  dsimp only
  refine (Builder.document_leaves .tooDeep _ fun f hmem => scanFailure_of_mem_tokens hmem).bind ?_
  intro left hleft
  exact (hleft.skipEnds.expect .finish).bind fun _ _ => trivial

end RollCall.Yaml
