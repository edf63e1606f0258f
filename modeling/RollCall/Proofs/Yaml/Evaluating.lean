import RollCall.Proofs.Yaml.Scanning
import RollCall.Yaml.Graph.Value

/-!
# What evaluating a document fails with

A document that is composed may still have no value. If it is not malformed, something in it is to
blame: a scalar that does not spell the number, the word or the point in time that its tag
announces, or a mapping under the tag of a scalar. Evaluating settles mappings on its way, which
changes neither scalars nor the tags that matter, so that what is to blame is in the document as it
was composed.

## Main definitions

* `Graph.Settles`: what settling may do to a graph.
* `Misspelling`: what a scalar under a tag fails with.
* `Graph.Blames`: what in a graph is to blame for a failure.

## Main results

* `Graph.settleFrom_settles`: settling does no more than that.
* `Graph.raises_evaluate`: evaluating a document fails only if something in it is to blame.
-/

namespace RollCall.Yaml

variable {P : Failure → Prop}

theorem Meets.foldlM {α σ : Type} {Q : σ → Prop} {f : σ → α → Reading σ}
    (hf : ∀ s a, Q s → Meets P Q (f s a)) {s : σ} (hs : Q s) (as : List α) :
    Meets P Q (as.foldlM f s) := by
  induction as generalizing s with
  | nil => exact hs
  | cons a as ih =>
    rw [List.foldlM_cons]
    exact (hf s a hs).bind fun _ hs => ih hs

/-- Whether a tag announces a collection. -/
def Tag.isCollection : Tag → Bool
  | .sequence | .pairs | .mapping | .set => true
  | _ => false

/-! ### Settling -/

/-- What settling may do to the content of a node: a mapping may get other entries. -/
inductive Content.Settles : Content → Content → Prop
  | scalar (text : List Text.Symbol) : Settles (.scalar text) (.scalar text)
  | sequence (items : List Nat) : Settles (.sequence items) (.sequence items)
  | mapping (es es' : List (Nat × Nat)) : Settles (.mapping es) (.mapping es')

theorem Content.Settles.refl (c : Content) : c.Settles c := by
  cases c <;> constructor

theorem Content.Settles.trans {c c' c'' : Content} (h : c.Settles c') (h' : c'.Settles c'') :
    c.Settles c'' := by
  cases h with
  | mapping es es' =>
    cases h' with
    | mapping es' es'' => exact .mapping es es''
  | _ => exact h'

/-- What settling may do to a node: besides, the key for the value of a mapping becomes a text. -/
structure Node.Settles (x x' : Node) : Prop where
  content : x.content.Settles x'.content
  tag : x'.tag = x.tag ∨ (x.tag = .value ∧ x'.tag = .text)

theorem Node.Settles.refl (x : Node) : x.Settles x :=
  ⟨.refl _, .inl rfl⟩

theorem Node.Settles.trans {x x' x'' : Node} (h : x.Settles x') (h' : x'.Settles x'') :
    x.Settles x'' := by
  refine ⟨h.content.trans h'.content, ?_⟩
  rcases h'.tag with hsame | ⟨hvalue, htext⟩
  · rw [hsame]
    exact h.tag
  · rcases h.tag with hsame | ⟨-, hother⟩
    · exact .inr ⟨hsame ▸ hvalue, htext⟩
    · cases hother.symm.trans hvalue

namespace Graph

variable {g g' g'' : Graph}

/-- What settling may do to the nodes of a graph. -/
def Settles (g g' : Graph) : Prop :=
  ∀ n, (g.node n).Settles (g'.node n)

theorem Settles.refl (g : Graph) : g.Settles g :=
  fun n => .refl (g.node n)

theorem Settles.trans (h : g.Settles g') (h' : g'.Settles g'') : g.Settles g'' :=
  fun n => (h n).trans (h' n)

/-- A node that settles makes the graph settle. -/
theorem settles_set {n : Nat} {x : Node} (h : (g.node n).Settles x) : g.Settles (g.set n x) := by
  intro m
  have hnode : (g.set n x).node m = g.node m ∨ (m = n ∧ (g.set n x).node m = x) := by
    unfold node set
    dsimp only
    simp only [Array.getD_eq_getD_getElem?, Array.getElem?_setIfInBounds]
    split
    · next hn =>
      subst hn
      split
      · exact .inr ⟨rfl, rfl⟩
      · next hsize => exact .inl (by simp [hsize])
    · exact .inl rfl
  rcases hnode with hsame | ⟨rfl, hx⟩
  · rw [hsame]
    exact .refl _
  · rwa [hx]

theorem isMapping_iff {n : Nat} :
    g.isMapping n = true ↔ ∃ es, (g.node n).content = .mapping es := by
  unfold isMapping
  cases (g.node n).content <;> simp

theorem Settles.isMapping_iff (h : g.Settles g') {n : Nat} :
    g'.isMapping n = true ↔ g.isMapping n = true := by
  have hcontent := (h n).content
  unfold isMapping
  generalize (g.node n).content = c, (g'.node n).content = c' at hcontent ⊢
  cases hcontent <;> exact Iff.rfl

theorem settles_setEntries {n : Nat} (hn : g.isMapping n = true) (es : List (Nat × Nat)) :
    g.Settles (g.setEntries n es) := by
  obtain ⟨es', hes'⟩ := isMapping_iff.1 hn
  refine settles_set ⟨?_, .inl rfl⟩
  rw [hes']
  exact .mapping es' es

theorem settles_plainKey (g : Graph) (e : Nat × Nat) : g.Settles (g.plainKey e) := by
  unfold plainKey
  dsimp only
  split
  · next htag => exact settles_set ⟨.refl _, .inr ⟨beq_iff_eq.1 htag, rfl⟩⟩
  · exact .refl g

theorem settles_plainKeys (g : Graph) (es : List (Nat × Nat)) :
    g.Settles (es.foldl plainKey g) := by
  induction es generalizing g with
  | nil => exact .refl g
  | cons e es ih => exact (settles_plainKey g e).trans (ih (g.plainKey e))

/-- **Settling a mapping** does no more than it may, and does not fail in words of its own. -/
theorem settleFrom_settles (fuel : Nat) {n : Nat} (hn : g.isMapping n = true) (i : Nat)
    (taken : List (Nat × Nat)) : Meets P g.Settles (settleFrom n fuel i taken g) := by
  induction fuel generalizing g n i taken with
  | zero => trivial
  | succ fuel ih =>
    rw [settleFrom]
    dsimp only
    generalize hpassed : (((g.entries n).drop i).takeWhile fun e => !g.isMerge e) = passed
    have hkeys := settles_plainKeys g passed
    have hn₁ := hkeys.isMapping_iff.2 hn
    split
    · exact hkeys.trans (settles_setEntries hn₁ _)
    · next e he =>
      have hless := settles_setEntries hn₁ ((g.entries n).eraseIdx (i + passed.length))
      generalize (passed.foldl plainKey g).setEntries n _ = g₁ at hless ⊢
      have hg₁ : g.Settles g₁ := hkeys.trans hless
      have hn₂ := hg₁.isMapping_iff.2 hn
      split
      · next es hes =>
        have hn' : g₁.isMapping e.2 = true := isMapping_iff.2 ⟨es, hes⟩
        refine (ih hn' 0 []).bind fun g₂ hg₂ => ?_
        exact (ih (hg₂.isMapping_iff.2 hn₂) _ _).mono fun g' hg' => (hg₁.trans hg₂).trans hg'
      · next items hitems =>
        have hitem (found : List (List (Nat × Nat)) × Graph) (m : Nat) (hg₂ : g₁.Settles found.2) :
            Meets P (fun found => g₁.Settles found.2) (if found.2.isMapping m then do
              let g ← settleFrom m fuel 0 [] found.2
              return (g.entries m :: found.1, g)
            else malformed) := by
          split
          · next hm => exact (ih hm 0 []).bind fun g' hg' => hg₂.trans hg'
          · trivial
        refine (Meets.foldlM hitem (Settles.refl g₁) items).bind fun found hg₂ => ?_
        exact (ih (hg₂.isMapping_iff.2 hn₂) _ _).mono fun g' hg' => (hg₁.trans hg₂).trans hg'
      · trivial

end Graph

/-! ### Scalars -/

/-- What a scalar under a tag fails with if it does not spell what the tag announces. -/
inductive Misspelling : Tag → Failure → Prop
  | unknownWord (word : List Text.Symbol) : Misspelling .bool (.unknownWord word)
  | emptyInteger : Misspelling .int .emptyNumeral
  | longInteger (digits : Nat) : Numeral.maxDigits < digits → Misspelling .int (.longNumeral digits)
  | notInteger (base : Nat) (part : List Text.Symbol) :
    Misspelling .int (.notIntegerNumeral base part)
  | emptyReal : Misspelling .float .emptyNumeral
  | notReal (part : List Text.Symbol) : Misspelling .float (.notRealNumeral part)
  | hugePower : Misspelling .float .hugePower
  | notMoment : Misspelling .moment .notMoment
  | calendar (fault : CalendarFault) : Misspelling .moment (.calendar fault)

namespace Numeral

theorem raises_split (hempty : P .emptyNumeral) (text : List Text.Symbol) :
    Raises P (split text) := by
  unfold split
  split
  · exact hempty
  · trivial
  · trivial
  · trivial

theorem raises_inBase (base : Nat) (part : List Text.Symbol) :
    Raises (Misspelling .int) (inBase base part) := by
  unfold inBase
  dsimp only
  split
  · next hlong =>
    exact .longInteger _ (of_decide_eq_true (Bool.and_eq_true_iff.1 hlong).2)
  · split
    · trivial
    · exact .notInteger base part

theorem raises_integer (text : List Text.Symbol) : Raises (Misspelling .int) (integer text) := by
  have hunsigned (text : List Text.Symbol) : Raises (Misspelling .int) (unsigned text) := by
    unfold unsigned
    split
    · exact Misspelling.emptyInteger
    · trivial
    · exact raises_inBase 2 _
    · exact raises_inBase 16 _
    · exact raises_inBase 8 _
    · exact (raises_mapM (raises_inBase 10) _).bind fun _ => trivial
  unfold integer
  exact (raises_split .emptyInteger _).bind fun _ => (hunsigned _).bind fun _ => trivial

theorem raises_decimal (part : List Text.Symbol) : Raises (Misspelling .float) (decimal part) := by
  unfold decimal
  split
  · trivial
  · exact .notReal part

theorem raises_sumFrom (sum : Binary64) (exponent : Nat) (places : List Binary64) :
    Raises (Misspelling .float) (sumFrom sum exponent places) := by
  induction places generalizing sum exponent with
  | nil => trivial
  | cons place places ih =>
    rw [sumFrom]
    split
    · exact .hugePower
    · exact ih _ _

theorem raises_real (text : List Text.Symbol) : Raises (Misspelling .float) (real text) := by
  have hunsigned (text : List Text.Symbol) : Raises (Misspelling .float) (unsignedReal text) := by
    unfold unsignedReal
    refine .ite trivial (.ite trivial ?_)
    split
    · exact raises_decimal _
    · exact (raises_mapM raises_decimal _).bind fun _ => raises_sumFrom _ _ _
  unfold real
  exact (raises_split .emptyReal _).bind fun _ => (hunsigned _).bind fun _ => trivial

end Numeral

namespace Graph

variable {g g' : Graph}

/-- **A scalar** fails only with a misspelling of what its tag announces. -/
theorem raises_scalarValue (tag : Tag) (text : List Text.Symbol) :
    Raises (Misspelling tag) (scalarValue tag text) := by
  cases tag with
  | bool =>
    rw [scalarValue, truthValue]
    split
    · trivial
    · exact .unknownWord _
  | int => exact (Numeral.raises_integer text).bind fun _ => trivial
  | float => exact (Numeral.raises_real text).bind fun _ => trivial
  | binary =>
    rw [scalarValue, binaryValue]
    split
    · trivial
    · refine .ite ?_ trivial
      split <;> trivial
  | moment =>
    rw [scalarValue, momentValue]
    split
    · exact .notMoment
    · split
      · exact .calendar _
      · trivial
  | _ => trivial

/-- The symbols of a node are those of a scalar, unless none is ever come to. -/
theorem symbols_meets (g : Graph) (fuel n : Nat) :
    Meets (· = .tooDeep) (fun text => ∃ m, (g.node m).content = .scalar text)
      (g.symbols fuel n) := by
  induction fuel generalizing n with
  | zero => exact rfl
  | succ fuel ih =>
    rw [symbols]
    split
    · next text htext => exact ⟨n, htext⟩
    · trivial
    · split
      · exact ih _
      · trivial

/-- **What in a graph is to blame** for a failure: a scalar that does not spell what a tag
announces, its own or that of a mapping in the place of a scalar; such a mapping where a point in
time is to be; or one in which no scalar is ever come to. -/
inductive Blames (g : Graph) : Failure → Prop
  | scalar {n m : Nat} {text : List Text.Symbol} {f : Failure} :
    m = n ∨ g.isMapping n = true → (g.node m).content = .scalar text →
    scalarValue (g.node n).tag text = .error (.failed f) → Misspelling (g.node n).tag f →
    Blames g f
  | moment {n : Nat} : (g.node n).tag = .moment → g.isMapping n = true → Blames g .wrappedMoment
  | endless {n : Nat} : (g.node n).tag.isCollection = false → g.isMapping n = true →
    Blames g .tooDeep

/-- A scalar of a settled graph that does not spell what a tag announces was there before. -/
theorem Settles.raises_scalarValue (h : g.Settles g') {n m : Nat}
    (hm : m = n ∨ g'.isMapping n = true) {text : List Text.Symbol}
    (htext : (g'.node m).content = .scalar text) :
    Raises g.Blames (scalarValue (g'.node n).tag text) := by
  have hcontent : (g.node m).content = .scalar text := by
    have hsettles := (h m).content
    rw [htext] at hsettles
    generalize (g.node m).content = c at hsettles ⊢
    cases hsettles
    rfl
  have hn : m = n ∨ g.isMapping n = true := hm.imp_right h.isMapping_iff.1
  rcases (h n).tag with htag | ⟨-, htag⟩
  · rw [htag]
    have hraises := Graph.raises_scalarValue (g.node n).tag text
    cases hvalue : scalarValue (g.node n).tag text with
    | ok v => trivial
    | error fault =>
      cases fault with
      | malformed => trivial
      | failed f => exact .scalar hn hcontent hvalue (hraises.of_failed hvalue)
  · rw [htag]
    trivial

/-- A tag that announces no collection announced none before. -/
theorem Settles.isCollection_eq_false (h : g.Settles g') {n : Nat}
    (htag : (g'.node n).tag.isCollection = false) : (g.node n).tag.isCollection = false := by
  rcases (h n).tag with hsame | ⟨hvalue, -⟩
  · rwa [← hsame]
  · rw [hvalue]
    rfl

/-- The symbols of a node of a settled graph are its own, unless it is a mapping. -/
theorem Settles.meets_symbols (h : g.Settles g') {n : Nat}
    (htag : (g'.node n).tag.isCollection = false) (fuel : Nat) :
    Meets g.Blames
      (fun text => ∃ m, (m = n ∨ g'.isMapping n = true) ∧ (g'.node m).content = .scalar text)
      (g'.symbols (fuel + 1) n) := by
  rw [symbols]
  split
  · next text htext => exact ⟨n, .inl rfl, htext⟩
  · trivial
  · next es hes =>
    have hn : g'.isMapping n = true := Graph.isMapping_iff.2 ⟨es, hes⟩
    split
    · next e _ =>
      cases hsymbols : g'.symbols fuel e.2 with
      | ok text =>
        obtain ⟨m, hm⟩ := (symbols_meets g' fuel e.2).value hsymbols
        exact ⟨m, .inr hn, hm⟩
      | error fault =>
        cases fault with
        | malformed => trivial
        | failed f =>
          cases (symbols_meets g' fuel e.2).of_failed hsymbols
          exact .endless (h.isCollection_eq_false htag) (h.isMapping_iff.1 hn)
    · trivial

/-- **The value of a node** of a settled graph fails only if something in the graph is to blame. -/
theorem Settles.raises_nodeValue (h : g.Settles g') {n : Nat}
    (htag : (g'.node n).tag.isCollection = false) : Raises g.Blames (g'.nodeValue n) := by
  unfold nodeValue
  refine (h.meets_symbols htag g'.size).bind fun text hsymbols => ?_
  obtain ⟨m, hm, htext⟩ := hsymbols
  split
  · next hmoment hcontent =>
    have hn : g'.isMapping n = true := Graph.isMapping_iff.2 ⟨_, hcontent⟩
    refine .moment ?_ (h.isMapping_iff.1 hn)
    rcases (h n).tag with hsame | ⟨-, hother⟩
    · rw [← hsame, hmoment]
    · cases hmoment.symm.trans hother
  · exact h.raises_scalarValue hm htext

end Graph

/-! ### Nodes -/

namespace Evaluation

variable {g : Graph} {s : Evaluation}

/-- Looking at nodes settles no more of a graph than may be settled, or fails because of something
in the graph. -/
def Looks (g : Graph) (r : Reading Evaluation) : Prop :=
  Meets g.Blames (fun s => g.Settles s.graph) r

theorem looks_look (h : g.Settles s.graph) (n : Nat) : Looks g (s.look n) := by
  unfold look
  refine .ite h ?_
  cases htag : (s.graph.node n).tag with
  | sequence | pairs | mapping | set => exact h
  | _ =>
    have hvalue := h.raises_nodeValue (n := n) (by rw [htag]; rfl)
    dsimp only
    split
    · next hnode => exact hvalue.error hnode
    · exact h

theorem looks_lookAtPair (h : g.Settles s.graph) (e : Nat × Nat) : Looks g (s.lookAtPair e) := by
  unfold lookAtPair
  split
  · next hkey => exact (looks_look h e.1).error hkey
  · next hkey => exact looks_look ((looks_look h e.1).value hkey) e.2

theorem looks_lookAtEntry (h : g.Settles s.graph) (e : Nat × Nat) : Looks g (s.lookAtEntry e) := by
  unfold lookAtEntry
  split
  · next hkey => exact (looks_look h e.1).error hkey
  · next hkey => exact .ite trivial (looks_look ((looks_look h e.1).value hkey) e.2)

theorem meets_lookAtItem {es : List (Nat × Nat)} (h : g.Settles s.graph) (n : Nat) :
    Meets g.Blames (fun s => g.Settles s.1.graph) (lookAtItem (s, es) n) := by
  have honly : Raises g.Blames (s.onlyEntry n) := by
    unfold onlyEntry
    split <;> trivial
  unfold lookAtItem
  exact honly.bind fun e => (looks_lookAtPair h e).bind fun _ h => h

theorem meets_lookAtEntries (h : g.Settles s.graph) {n : Nat} (hn : s.graph.isMapping n = true) :
    Meets g.Blames (fun s => g.Settles s.2.graph) (s.lookAtEntries n) := by
  unfold lookAtEntries
  refine (Graph.settleFrom_settles _ hn 0 []).bind fun graph hgraph => ?_
  refine (Meets.foldlM (fun s e h => looks_lookAtEntry h e) ?_ _).bind fun _ h => h
  exact h.trans hgraph

/-- **Looking into a collection** fails only if something in the graph is to blame. -/
theorem looks_lookInto (h : g.Settles s.graph) (n : Nat) : Looks g (s.lookInto n) := by
  unfold lookInto
  dsimp only
  split
  · exact (Meets.foldlM (fun _ n h => looks_look h n) h _).bind fun _ h => h
  · have hitem (s : Evaluation × List (Nat × Nat)) (m : Nat) (h : g.Settles s.1.graph) :
        Meets g.Blames (fun s => g.Settles s.1.graph) (lookAtItem s m) :=
      meets_lookAtItem h m
    refine (Meets.foldlM hitem ?_ _).bind fun _ h => ?_
    · exact h
    · exact h
  · next hcontent =>
    have hn : s.graph.isMapping n = true := Graph.isMapping_iff.2 ⟨_, hcontent⟩
    exact (meets_lookAtEntries h hn).bind fun _ h => h
  · next hcontent =>
    have hn : s.graph.isMapping n = true := Graph.isMapping_iff.2 ⟨_, hcontent⟩
    exact (meets_lookAtEntries h hn).bind fun _ h => h
  · trivial

theorem looks_run (fuel i : Nat) (h : g.Settles s.graph) : Looks g (run fuel i s) := by
  induction fuel generalizing i s with
  | zero => exact h
  | succ fuel ih =>
    rw [run]
    split
    · exact h
    · next n _ =>
      split
      · next hinto => exact (looks_lookInto h n).error hinto
      · next hinto => exact ih (i + 1) ((looks_lookInto h n).value hinto)

end Evaluation

/-- **Evaluating a document** fails only if something in its graph is to blame. -/
theorem Graph.raises_evaluate (g : Graph) (root : Nat) : Raises g.Blames (g.evaluate root) := by
  have hlook := Evaluation.looks_look (s := .start g) (Graph.Settles.refl g) root
  unfold evaluate
  exact hlook.bind fun s h => (Evaluation.looks_run (g.size + 1) 0 h).mono fun _ _ => trivial

end RollCall.Yaml
