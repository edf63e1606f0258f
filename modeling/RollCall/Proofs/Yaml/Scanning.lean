import Mathlib.Data.List.InsertIdx
import RollCall.Yaml.Lexer

/-!
# What reading tokens fails with

Most texts that are no sequence of tokens are malformed, and nothing more is said about them. Four
things are said in other words: brackets nest too deep, an escape names a character that there is
not, or a number beyond those that are looked up, or a version has too many digits.

## Main definitions

* `Meets`: what holds of an outcome of reading, whether it is a value or a failure.
* `ScanFailure`: the failures of reading tokens.

## Main results

* `scanFailure_of_mem_tokens`: the tokens of a text tell of no other failures.
-/

namespace RollCall.Yaml

variable {α β : Type} {P : Failure → Prop} {Q : α → Prop} {R : β → Prop}

/-! ### Outcomes -/

/-- The value of reading is one of `Q`, or reading fails as `P` says, or the text is malformed. -/
def Meets (P : Failure → Prop) (Q : α → Prop) : Reading α → Prop
  | .ok a => Q a
  | .error (.failed f) => P f
  | .error .malformed => True

/-- Reading fails as `P` says, if it does not find the text malformed. -/
def Raises (P : Failure → Prop) (r : Reading α) : Prop :=
  Meets P (fun _ => True) r

namespace Meets

theorem error {r : Reading α} (h : Meets P Q r) {fault : Fault} (hr : r = .error fault) :
    Meets P R (.error fault) := by
  subst hr
  cases fault <;> exact h

theorem value {r : Reading α} (h : Meets P Q r) {a : α} (hr : r = .ok a) : Q a := by
  subst hr
  exact h

theorem bind {r : Reading α} {f : α → Reading β} (h : Meets P Q r)
    (hf : ∀ a, Q a → Meets P R (f a)) : Meets P R (r >>= f) := by
  cases r with
  | ok a => exact hf a h
  | error fault => exact h.error rfl

theorem ite {c : Prop} [Decidable c] {r r' : Reading α} (h : Meets P Q r) (h' : Meets P Q r') :
    Meets P Q (if c then r else r') := by
  split
  · exact h
  · exact h'

theorem mono {Q' : α → Prop} {r : Reading α} (h : Meets P Q r) (hQ : ∀ a, Q a → Q' a) :
    Meets P Q' r := by
  cases r with
  | ok a => exact hQ a h
  | error fault => exact h.error rfl

/-- A failure is one of those that there may be. -/
theorem of_failed {r : Reading α} (h : Meets P Q r) {f : Failure} (hr : r = .error (.failed f)) :
    P f := by
  subst hr
  exact h

end Meets

namespace Raises

theorem error {r : Reading α} (h : Raises P r) {fault : Fault} (hr : r = .error fault) :
    Meets P R (.error fault) :=
  Meets.error h hr

theorem bind {r : Reading α} {f : α → Reading β} (h : Raises P r) (hf : ∀ a, Meets P R (f a)) :
    Meets P R (r >>= f) :=
  Meets.bind h fun a _ => hf a

end Raises

theorem raises_require (condition : Bool) : Raises P (require condition) := by
  cases condition <;> trivial

theorem raises_mapM {f : α → Reading β} (h : ∀ a, Raises P (f a)) (as : List α) :
    Raises P (as.mapM f) := by
  induction as with
  | nil => trivial
  | cons a as ih =>
    rw [List.mapM_cons]
    exact (h a).bind fun _ => ih.bind fun _ => trivial

/-! ### Names -/

/-- The failures of reading tokens. -/
inductive ScanFailure : Failure → Prop
  /-- Brackets nest too deep. -/
  | tooDeep : ScanFailure .tooDeep
  /-- An escape has a number that is not even looked up. -/
  | hugeCharacter : ScanFailure .hugeCharacter
  /-- An escape has a number of no character. -/
  | noCharacter : ScanFailure .noCharacter
  /-- A version has too many digits. -/
  | longNumeral (n : Nat) : Name.maxDigits < n → ScanFailure (.longNumeral n)

namespace Name

theorem raises_word (c : Cursor) : Raises P (word c) := by
  unfold word
  dsimp only
  split <;> trivial

theorem raises_anchor (c : Cursor) : Raises P (anchor c) := by
  unfold anchor
  exact (raises_word _).bind fun _ => (raises_require _).bind fun _ => trivial

theorem raises_escapedOnto (bytes : List UInt8) (width : Nat) (cs : List Char) :
    Raises P (escapedOnto bytes width cs) := by
  fun_induction escapedOnto bytes width cs with
  | case1 bytes width a b cs high hhigh low hlow ih => exact ih
  | case2 | case3 | case4 => trivial

theorem raises_escaped (c : Cursor) : Raises P (escaped c) := by
  unfold escaped
  refine (raises_escapedOnto _ _ _).bind fun _ => ?_
  dsimp only
  cases Utf8.decode _ <;> trivial

theorem raises_uriOnto (fuel read : List Char) (c : Cursor) : Raises P (uriOnto fuel read c) := by
  induction fuel generalizing read c with
  | nil => trivial
  | cons _ fuel ih =>
    rw [uriOnto]
    split
    · split
      · exact ih _ _
      · next hescaped => exact (raises_escaped c).error hescaped
    · split
      · exact ih _ _
      · trivial

theorem raises_uri (c : Cursor) : Raises P (uri c) := by
  unfold uri
  split
  · exact raises_uriOnto _ _ _
  · trivial

theorem raises_handle (c : Cursor) : Raises P (handle c) := by
  unfold handle
  refine (raises_require _).bind fun _ => ?_
  dsimp only
  split
  · trivial
  · exact (raises_require _).bind fun _ => trivial

theorem raises_tag (c : Cursor) : Raises P (tag c) := by
  have hlast (name : TagName) (c : Cursor) : Raises P (do
      require (isStop c.next?)
      return (name, c)) :=
    (raises_require _).bind fun _ => trivial
  unfold tag
  dsimp only
  split
  · exact (raises_uri _).bind fun _ => (raises_require _).bind fun _ => hlast _ _
  · split
    · exact hlast _ _
    · split
      · exact (raises_handle _).bind fun _ => (raises_uri _).bind fun _ => hlast _ _
      · exact (raises_uri _).bind fun _ => hlast _ _

theorem raises_number (c : Cursor) : Raises ScanFailure (number c) := by
  unfold number
  dsimp only
  split
  · trivial
  · split
    · next hlong => exact .longNumeral _ hlong
    · trivial

theorem raises_version (c : Cursor) : Raises ScanFailure (version c) := by
  unfold version
  exact (raises_number _).bind fun _ => (raises_require _).bind fun _ =>
    (raises_number _).bind fun _ => (raises_require _).bind fun _ => trivial

theorem raises_handleExpansion (c : Cursor) : Raises P (handleExpansion c) := by
  unfold handleExpansion
  exact (raises_handle _).bind fun _ => (raises_require _).bind fun _ =>
    (raises_uri _).bind fun _ => (raises_require _).bind fun _ => trivial

theorem raises_directive (c : Cursor) : Raises ScanFailure (directive c) := by
  have hlast (d : Directive) (c : Cursor) : Raises ScanFailure (do
      require (isLineEnd c.skipSpaces.skipComment.next?)
      return (d, c.skipSpaces.skipComment.takeBreak.2)) :=
    (raises_require _).bind fun _ => trivial
  unfold directive
  refine (raises_word _).bind fun _ => (raises_require _).bind fun _ => ?_
  dsimp only
  split
  · exact (raises_version _).bind fun _ => hlast _ _
  · split
    · exact (raises_handleExpansion _).bind fun _ => hlast _ _
    · exact hlast _ _

end Name

/-! ### Scalars -/

namespace Block

theorem raises_increment? (next : Option Char) : Raises P (increment? next) := by
  unfold increment?
  split
  · split
    · split <;> trivial
    · trivial
  · trivial

theorem raises_marks (c : Cursor) : Raises P (marks c) := by
  unfold marks
  split
  · refine (raises_increment? _).bind fun n => ?_
    cases n <;> trivial
  · refine (raises_increment? _).bind fun n => ?_
    cases n with
    | none => trivial
    | some n =>
      dsimp only
      split <;> trivial

theorem raises_scan (isFolded : Bool) (least : Nat) (c : Cursor) :
    Raises P (scan isFolded least c) := by
  have hheader (c : Cursor) : Raises P (header c) := by
    unfold header
    exact (raises_marks _).bind fun _ => (raises_require _).bind fun _ =>
      (raises_require _).bind fun _ => trivial
  unfold scan
  exact (hheader _).bind fun _ => trivial

end Block

namespace Quoted

theorem raises_pushNumber (p : Progress) (n width : Nat) :
    Raises ScanFailure (p.pushNumber n width) := by
  unfold Progress.pushNumber
  split
  · exact .hugeCharacter
  · split
    · trivial
    · exact .noCharacter

theorem raises_breaksOnto (breaks : List Char) (place : Place) (isLineStart : Bool)
    (cs : List Char) : Raises P (breaksOnto breaks place isLineStart cs) := by
  induction cs generalizing breaks place isLineStart with
  | nil => trivial
  | cons c cs ih =>
    rw [breaksOnto]
    split
    · trivial
    · split
      · exact ih _ _ _
      · split
        · exact ih _ _ _
        · trivial

theorem raises_takeBlanks (p : Progress) : Raises P (takeBlanks p) := by
  unfold takeBlanks
  dsimp only
  split
  · split <;> trivial
  · split
    · next hbreaks => exact (raises_breaksOnto _ _ _ _).error hbreaks
    · trivial

theorem raises_takeEscape (p : Progress) : Raises ScanFailure (takeEscape p) := by
  unfold takeEscape
  dsimp only
  split
  · trivial
  · split
    · trivial
    · split
      · exact raises_pushNumber _ _ _
      · trivial
    · split
      · split
        · next hbreaks => exact (raises_breaksOnto _ _ _ _).error hbreaks
        · trivial
      · trivial

theorem raises_scanFrom (quote : Char) (fuel : List Char) (p : Progress) :
    Raises ScanFailure (scanFrom quote fuel p) := by
  induction fuel generalizing p with
  | nil => trivial
  | cons _ fuel ih =>
    rw [scanFrom]
    split
    · trivial
    · split
      · split
        · exact ih _
        · trivial
      · split
        · split
          · next hblanks => exact (raises_takeBlanks p).error hblanks
          · exact ih _
        · split
          · split
            · next hescape => exact (raises_takeEscape p).error hescape
            · exact ih _
          · exact ih _

theorem raises_scan (quote : Char) (c : Cursor) : Raises ScanFailure (scan quote c) := by
  unfold scan
  split
  · next hscan => exact (raises_scanFrom _ _ _).error hscan
  · trivial

end Quoted

/-! ### Tokens -/

/-- Whether a token tells of a fault. -/
def Token.isBroken : Token → Bool
  | .broken _ => true
  | _ => false

namespace Lexer

variable {l : Lexer}

/-- No token that is read tells of a fault. -/
def Sound (l : Lexer) : Prop :=
  ∀ t ∈ l.read, t.isBroken = false

theorem Sound.emit (h : l.Sound) (t : Token) (ht : t.isBroken = false) : (l.emit t).Sound :=
  List.forall_mem_cons.2 ⟨ht, h⟩

theorem Sound.emitAt (h : l.Sound) (position : Nat) (t : Token) (ht : t.isBroken = false) :
    (l.emitAt position t).Sound := by
  intro t' hmem
  rcases List.eq_or_mem_of_mem_insertIdx hmem with rfl | hmem
  · exact ht
  · exact h t' hmem

theorem Sound.closeDeeper (h : l.Sound) (isDeeper : Nat → Bool) :
    (l.closeDeeper isDeeper).Sound := by
  have hends (closed : List Nat) (read : List Token) (hread : ∀ t ∈ read, t.isBroken = false) :
      ∀ t ∈ closed.foldl (fun ts _ => .blockEnd :: ts) read, t.isBroken = false := by
    induction closed generalizing read with
    | nil => exact hread
    | cons n closed ih => exact ih _ (List.forall_mem_cons.2 ⟨rfl, hread⟩)
  unfold Lexer.closeDeeper
  split
  · exact h
  · exact hends _ _ h

theorem Sound.openAt (h : l.Sound) (column position : Nat) (t : Token) (ht : t.isBroken = false) :
    (l.openAt column position t).Sound := by
  unfold Lexer.openAt
  split
  · exact h.emitAt position t ht
  · exact h

/-- A block collection may begin here, unless the cursor is inside brackets. -/
theorem Sound.openUnlessFlow (h : l.Sound) (t : Token) (ht : t.isBroken = false) :
    (if l.inFlow then l else l.openHere t).Sound := by
  split
  · exact h
  · exact h.openAt _ _ t ht

theorem Sound.toNext (h : l.Sound) : l.toNext.Sound :=
  h

/-! ### Candidates -/

theorem raises_fresh (l : Lexer) (k : Option Candidate) : Raises P (l.fresh k) := by
  unfold fresh
  split
  · trivial
  · split
    · trivial
    · split <;> trivial

theorem Sound.dropStale (h : l.Sound) : Meets P Sound l.dropStale := by
  unfold Lexer.dropStale
  exact (raises_mapM (raises_fresh l) l.outer).bind fun _ => (raises_fresh l _).bind fun _ => h

theorem Sound.dropCandidate (h : l.Sound) : Meets P Sound l.dropCandidate := by
  unfold Lexer.dropCandidate
  split
  · exact h
  · split
    · trivial
    · exact h

theorem Sound.saveCandidate (h : l.Sound) : Meets P Sound l.saveCandidate := by
  unfold Lexer.saveCandidate
  split
  · exact h.dropCandidate.bind fun _ h => h
  · exact h

/-! ### Marks, names and scalars -/

theorem Sound.finish (h : l.Sound) : Meets P Sound l.finish := by
  unfold Lexer.finish
  exact (h.closeDeeper _).dropCandidate.bind fun _ h => h.emit .finish rfl

theorem Sound.directive (h : l.Sound) : Meets ScanFailure Sound l.directive := by
  unfold Lexer.directive
  exact (h.closeDeeper _).dropCandidate.bind fun _ h =>
    (Name.raises_directive _).bind fun _ => h.emit (.directive _) rfl

theorem Sound.marker (h : l.Sound) (t : Token) (ht : t.isBroken = false) :
    Meets P Sound (l.marker t) := by
  unfold Lexer.marker
  exact (h.closeDeeper _).dropCandidate.bind fun _ h => h.emit t ht

theorem Sound.openFlow (h : l.Sound) (t : Token) (ht : t.isBroken = false) :
    Meets ScanFailure Sound (l.openFlow t) := by
  unfold Lexer.openFlow
  refine h.saveCandidate.bind fun l h => ?_
  dsimp only
  split
  · exact ScanFailure.tooDeep
  · exact h.emit t ht

theorem Sound.closeFlow (h : l.Sound) (t : Token) (ht : t.isBroken = false) :
    Meets P Sound (l.closeFlow t) := by
  unfold Lexer.closeFlow
  refine h.dropCandidate.bind fun l h => ?_
  split
  · trivial
  · exact h.emit t ht

theorem Sound.comma (h : l.Sound) : Meets P Sound l.comma := by
  unfold Lexer.comma
  exact h.dropCandidate.bind fun _ h => h.emit .comma rfl

theorem Sound.dash (h : l.Sound) : Meets P Sound l.dash := by
  unfold Lexer.dash
  exact (raises_require _).bind fun _ =>
    (h.openUnlessFlow .blockSequence rfl).dropCandidate.bind fun _ h => h.emit .dash rfl

theorem Sound.key (h : l.Sound) : Meets P Sound l.key := by
  unfold Lexer.key
  exact (raises_require _).bind fun _ =>
    (h.openUnlessFlow .blockMapping rfl).dropCandidate.bind fun _ h => h.emit .key rfl

theorem Sound.value (h : l.Sound) : Meets P Sound l.value := by
  unfold Lexer.value
  split
  · next k _ =>
    have hkey := h.emitAt k.position .key rfl
    dsimp only
    refine Sound.emit ?_ .value rfl
    split
    · exact hkey
    · exact hkey.openAt _ _ .blockMapping rfl
  · refine (raises_require _).bind fun _ => ?_
    exact (h.openUnlessFlow .blockMapping rfl).emit .value rfl

theorem Sound.name (h : l.Sound) {token : String → Token}
    (ht : ∀ name, (token name).isBroken = false) : Meets P Sound (l.name token) := by
  unfold Lexer.name
  exact h.saveCandidate.bind fun _ h => (Name.raises_anchor _).bind fun _ => h.emit _ (ht _)

theorem Sound.tag (h : l.Sound) : Meets P Sound l.tag := by
  unfold Lexer.tag
  exact h.saveCandidate.bind fun _ h => (Name.raises_tag _).bind fun _ => h.emit (.tag _) rfl

theorem Sound.block (h : l.Sound) (isFolded : Bool) : Meets P Sound (l.block isFolded) := by
  unfold Lexer.block
  exact h.dropCandidate.bind fun _ h =>
    (Block.raises_scan _ _ _).bind fun _ => h.emit (.scalar _ false) rfl

theorem Sound.quoted (h : l.Sound) (quote : Char) : Meets ScanFailure Sound (l.quoted quote) := by
  unfold Lexer.quoted
  exact h.saveCandidate.bind fun _ h =>
    (Quoted.raises_scan _ _).bind fun _ => h.emit (.scalar _ false) rfl

theorem Sound.plain (h : l.Sound) : Meets P Sound l.plain := by
  unfold Lexer.plain
  exact h.saveCandidate.bind fun _ h => h.emit (.scalar _ true) rfl

/-! ### The whole text -/

theorem Sound.dispatch (h : l.Sound) (c : Char) (next : Option Char) :
    Meets ScanFailure Sound (l.dispatch c next) := by
  unfold Lexer.dispatch
  refine .ite (h.openFlow .openBracket rfl) (.ite (h.openFlow .openBrace rfl) ?_)
  refine .ite (h.closeFlow .closeBracket rfl) (.ite (h.closeFlow .closeBrace rfl) ?_)
  refine .ite h.comma (.ite h.dash (.ite h.key (.ite h.value ?_)))
  refine .ite (h.name fun _ => rfl) (.ite (h.name fun _ => rfl) (.ite h.tag ?_))
  refine .ite (h.block false) (.ite (h.block true) (.ite (h.quoted c) (.ite h.plain ?_)))
  trivial

/-- **A step** adds no token that tells of a fault, and fails only as reading tokens does. -/
theorem Sound.step (h : l.Sound) : Meets ScanFailure Sound l.step := by
  unfold Lexer.step
  refine h.toNext.dropStale.bind fun l h => ?_
  have hclosed : l.closeToColumn.Sound := h.closeDeeper _
  dsimp only
  split
  · exact hclosed.finish
  · refine .ite hclosed.directive (.ite (hclosed.marker _ ?_) (hclosed.dispatch _ _))
    split <;> rfl

/-- The tokens that are certain are among those read. -/
theorem Sound.not_mem_certain (h : l.Sound) (fault : Fault) : .broken fault ∉ l.certain := by
  intro hmem
  cases h _ (List.mem_reverse.1 (List.mem_of_mem_take hmem))

theorem scanFailure_of_mem_run (fuel : Nat) (h : l.Sound) {f : Failure}
    (hmem : .broken (.failed f) ∈ run fuel l) : ScanFailure f := by
  induction fuel generalizing l with
  | zero =>
    rw [run] at hmem
    rcases List.mem_append.1 hmem with hmem | hmem
    · exact absurd hmem (h.not_mem_certain _)
    · cases List.mem_singleton.1 hmem
  | succ fuel ih =>
    rw [run] at hmem
    split at hmem
    · next fault hstep =>
      rcases List.mem_append.1 hmem with hmem | hmem
      · exact absurd hmem (h.not_mem_certain _)
      · cases List.mem_singleton.1 hmem
        exact h.step.of_failed hstep
    · next l' hstep =>
      have hnext : l'.Sound := h.step.value hstep
      split at hmem
      · cases hnext _ (List.mem_reverse.1 hmem)
      · exact ih hnext hmem

end Lexer

/-- **The tokens of a text** tell of no other failures than those of reading tokens. -/
theorem scanFailure_of_mem_tokens {text : List Char} {f : Failure}
    (h : .broken (.failed f) ∈ tokens text) : ScanFailure f := by
  unfold tokens at h
  split at h
  · refine Lexer.scanFailure_of_mem_run _ ?_ h
    intro t ht
    cases ht
  · cases List.mem_singleton.1 h

end RollCall.Yaml
