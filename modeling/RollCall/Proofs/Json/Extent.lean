import RollCall.Proofs.Json.RoundTrip

/-!
# Where a document ends

The reader takes a value from the front of a text and looks at nothing behind it. So a value that
was read in front of some rest is read just as well when more text follows that rest, with one
exception: a number at the very end of a text may go on. Inside an array or an object no number is
at the end, because a separator or a bracket follows.

An object ends with its closing brace. So no text that stops short of it is a document, and whatever
stands behind it is no part of the object.

## Main definitions

* `opened`: what stands behind an opening bracket or brace.
* `ReadsOn`: the invariant of the reader, one statement for each of its functions.

## Main results

* `string?_append`, `number?_append`: the parts of the reader.
* `value?_brace_append`: an object is read whatever follows it.
* `read?_torn`: no proper beginning of a written object is a document.
* `read?_render_append`: a written object is read in front of blanks and nothing else.
-/

namespace RollCall.Json

/-! ### Texts -/

/-- A text is read whatever follows it. -/
theorem string?_append {read cs s r : List Char} (h : string? read cs = some (s, r))
    (t : List Char) : string? read (cs ++ t) = some (s, r ++ t) := by
  fun_induction string? read cs with
  | case1 read cs =>
    cases h
    exact string?.eq_1 ..
  | case3 read a b c d e f g h' cs n hn hhigh m hm hlow ih =>
    exact (string?_pair hn hm hhigh hlow read (cs ++ t)).trans (ih h)
  | case7 read a b c d e f g h' cs n hn hhigh hlow ih =>
    exact (string?_unit hn (by simpa using hhigh) (by simpa using hlow) read _).trans (ih h)
  | case10 read a b c d cs _ n hn hhalf ih =>
    have hwhole := Bool.or_eq_false_iff.1 (by simpa using hhalf)
    exact (string?_unit hn hwhole.1 hwhole.2 read (cs ++ t)).trans (ih h)
  | case11 read c cs _ _ x hx ih =>
    exact (string?_simple hx read (cs ++ t)).trans (ih h)
  | case14 read c cs hquote _ _ _ hplain ih =>
    simp only [Bool.or_eq_true, decide_eq_true_eq, beq_iff_eq, not_or, Nat.not_lt] at hplain
    exact (string?_plain hquote hplain.2 hplain.1 read (cs ++ t)).trans (ih h)
  | _ => cases h

/-! ### Numbers and words -/

/-- Digits that something follows are taken whatever follows that. -/
theorem takeDigits_append_of_ne_nil {cs ds r : List Char} (h : takeDigits cs = (ds, r))
    (hr : r ≠ []) (t : List Char) : takeDigits (cs ++ t) = (ds, r ++ t) := by
  rw [takeDigits, List.span_eq_takeWhile_dropWhile] at h ⊢
  obtain ⟨rfl, rfl⟩ := Prod.mk.inj h
  have hstops : (cs.takeWhile Decimal.isDigit).length ≠ cs.length := by
    intro hall
    have hlength : (cs.takeWhile Decimal.isDigit ++ cs.dropWhile Decimal.isDigit).length =
        cs.length := by
      rw [List.takeWhile_append_dropWhile]
    rw [List.length_append, hall] at hlength
    exact hr (List.length_eq_zero_iff.1 (by omega))
  rw [List.takeWhile_append, List.dropWhile_append, if_neg hstops, if_neg (by simpa using hr)]

/-- Digits before the point are read so too. -/
theorem whole?_append {cs ds r : List Char} (h : whole? cs = some (ds, r)) (hr : r ≠ [])
    (t : List Char) : whole? (cs ++ t) = some (ds, r ++ t) := by
  unfold whole? at h
  split at h
  · cases h
  · cases h
  · next hsome hleading htake =>
    split at h
    · cases h
    · next hshort =>
      cases h
      rw [whole?, takeDigits_append_of_ne_nil htake hr]
      split
      · next heq => exact absurd (Prod.mk.inj heq).1 hsome
      · next heq => exact absurd (Prod.mk.inj heq).1 (hleading _ _)
      · next heq =>
        obtain ⟨rfl, rfl⟩ := Prod.mk.inj heq
        rw [if_neg hshort]

/-- The point and the digits after it, or no point, are read whatever follows what follows them. -/
theorem places?_append {cs r : List Char} {places : Option (List Char)}
    (h : places? cs = some (places, r)) (hr : r ≠ []) (t : List Char) :
    places? (cs ++ t) = some (places, r ++ t) := by
  unfold places? at h
  split at h
  · split at h
    · cases h
    · next hsome htake =>
      cases h
      rw [List.cons_append, places?, takeDigits_append_of_ne_nil htake hr]
      split
      · next heq => exact absurd (Prod.mk.inj heq).1 hsome
      · next heq =>
        obtain ⟨rfl, rfl⟩ := Prod.mk.inj heq
        rfl
  · next hpoint =>
    cases h
    obtain ⟨c, cs, rfl⟩ := List.exists_cons_of_ne_nil hr
    rw [List.cons_append, places?]
    intro ds heq
    exact hpoint cs (by rw [(List.cons.inj heq).1])

/-- The sign of an exponent is seen whatever follows the exponent. -/
theorem splitSign_append {cs : List Char} (h : cs ≠ []) (t : List Char) :
    Decimal.splitSign (cs ++ t) =
      ((Decimal.splitSign cs).1, (Decimal.splitSign cs).2 ++ t) := by
  obtain ⟨c, cs, rfl⟩ := List.exists_cons_of_ne_nil h
  by_cases hminus : c = '-'
  · subst hminus
    rfl
  by_cases hplus : c = '+'
  · subst hplus
    rfl
  have hnone (ds : List Char) : Decimal.splitSign (c :: ds) = (false, c :: ds) :=
    Decimal.splitSign.eq_3 _ (fun _ heq => hminus (List.cons.inj heq).1)
      fun _ heq => hplus (List.cons.inj heq).1
  rw [List.cons_append, hnone, hnone]
  rfl

/-- The exponent, or none, is read whatever follows what follows it. -/
theorem power?_append {cs r : List Char} {power : Option Int}
    (h : power? cs = some (power, r)) (hr : r ≠ []) (t : List Char) :
    power? (cs ++ t) = some (power, r ++ t) := by
  cases cs with
  | nil =>
    cases h
    exact absurd rfl hr
  | cons c cs =>
    rw [power?] at h
    rw [List.cons_append, power?]
    split at h
    · next hletter =>
      rw [if_pos hletter]
      dsimp only at h ⊢
      split at h
      · cases h
      · next hsome htake =>
        cases h
        have hcs : cs ≠ [] := by
          rintro rfl
          cases htake
          exact hr rfl
        rw [splitSign_append hcs, takeDigits_append_of_ne_nil htake hr]
        split
        · next heq => exact absurd (Prod.mk.inj heq).1 hsome
        · next heq =>
          obtain ⟨rfl, rfl⟩ := Prod.mk.inj heq
          rfl
    · next hletter =>
      cases h
      rw [if_neg hletter]
      rfl

/-- **A number that something follows** is read whatever follows that. -/
theorem number?_append {negative : Bool} {cs r : List Char} {v : Json}
    (h : number? negative cs = some (v, r)) (hr : r ≠ []) (t : List Char) :
    number? negative (cs ++ t) = some (v, r ++ t) := by
  simp only [number?, Option.bind_eq_bind, Option.bind_eq_some_iff, Prod.exists] at h ⊢
  obtain ⟨ds, r₁, hwhole, places, r₂, hplaces, power, r₃, hpower, h⟩ := h
  have hr₃ : r₃ = r := by
    split at h <;> exact (Prod.mk.inj (Option.some.inj h)).2
  subst hr₃
  have hr₂ : r₂ ≠ [] := by
    rintro rfl
    cases hpower
    exact hr rfl
  have hr₁ : r₁ ≠ [] := by
    rintro rfl
    cases hplaces
    exact hr₂ rfl
  refine ⟨ds, r₁ ++ t, whole?_append hwhole hr₁ t, places, r₂ ++ t,
    places?_append hplaces hr₂ t, power, r₃ ++ t, power?_append hpower hr t, ?_⟩
  split at h <;> cases h <;> rfl

/-- A word is found whatever follows it. -/
theorem word?_append {w cs r : List Char} (h : word? w cs = some r) (t : List Char) :
    word? w (cs ++ t) = some (r ++ t) := by
  induction w generalizing cs with
  | nil =>
    cases h
    rfl
  | cons c w ih =>
    cases cs with
    | nil => cases h
    | cons d cs =>
      rw [word?] at h
      rw [List.cons_append, word?]
      split at h
      · next hcd => rw [if_pos hcd, ih h]
      · cases h

/-! ### Values -/

/-- What is not skipped is not skipped whatever follows it. -/
theorem skip_append_of_ne_nil {cs : List Char} (h : skip cs ≠ []) (t : List Char) :
    skip (cs ++ t) = skip cs ++ t := by
  rw [skip, List.dropWhile_append, if_neg (by simpa [skip] using h)]
  rfl

/-- Where not everything is skipped there is something. -/
theorem ne_nil_of_skip_ne_nil {cs : List Char} (h : skip cs ≠ []) : cs ≠ [] := by
  rintro rfl
  exact h rfl

/-- There is no value where there is no text. -/
theorem skip_ne_nil_of_value? {budget depth : ℕ} {cs : List Char} {x : Json × List Char}
    (h : value? budget depth cs = some x) : skip cs ≠ [] := by
  intro hskip
  cases budget with
  | zero => cases h
  | succ budget =>
    rw [value?, hskip] at h
    cases h

/-- There are no members where there is no text. -/
theorem skip_ne_nil_of_members? {budget depth : ℕ} {read : List (String × Json)} {cs : List Char}
    {x : Json × List Char} (h : members? budget depth read cs = some x) : skip cs ≠ [] := by
  intro hskip
  cases budget with
  | zero => cases h
  | succ budget =>
    rw [members?, hskip] at h
    cases h

/-- A value begins at the first character that is no blank. -/
theorem value?_skip (budget depth : ℕ) (cs : List Char) :
    value? budget depth (skip cs) = value? budget depth cs := by
  have hgaps : value? budget depth (cs.takeWhile isGap ++ skip cs) =
      value? budget depth (skip cs) :=
    value?_append_gaps (fun _ hc => List.mem_takeWhile_imp hc) budget depth (skip cs)
  rw [← hgaps, skip, List.takeWhile_append_dropWhile]

/-- What stands behind an opening bracket or brace: the closing one, or what `rest` reads. -/
def opened (close : Char) (empty : Json) (rest : List Char → Option (Json × List Char))
    (cs : List Char) : Option (Json × List Char) :=
  match skip cs with
  | c :: r => if c = close then some (empty, r) else rest (c :: r)
  | [] => rest []

/-- Behind an opening brace comes the closing one, or members. -/
theorem value?_open_brace (budget depth : ℕ) (cs : List Char) :
    value? (budget + 1) (depth + 1) ('{' :: cs) =
      opened '}' (.object []) (members? budget depth []) cs := by
  rw [value?, skip_cons (show isGap '{' = false by decide)]
  simp only [opened]
  split
  · next hclose =>
    rw [hclose]
    exact (if_pos rfl).symm
  · next hother =>
    cases hskip : skip cs with
    | nil => rfl
    | cons c r => exact (if_neg fun hc => hother r (by rw [hskip, hc])).symm

/-- Behind an opening bracket comes the closing one, or items. -/
theorem value?_open_bracket (budget depth : ℕ) (cs : List Char) :
    value? (budget + 1) (depth + 1) ('[' :: cs) =
      opened ']' (.array []) (items? budget depth []) cs := by
  rw [value?, skip_cons (show isGap '[' = false by decide)]
  simp only [opened]
  split
  · next hclose =>
    rw [hclose]
    exact (if_pos rfl).symm
  · next hother =>
    cases hskip : skip cs with
    | nil => rfl
    | cons c r => exact (if_neg fun hc => hother r (by rw [hskip, hc])).symm

/-- **What stands behind an opening bracket or brace** is read whatever follows it, if the rest is
so. -/
theorem opened_append {close : Char} {empty v : Json}
    {rest rest' : List Char → Option (Json × List Char)} {cs r : List Char} (t : List Char)
    (hnil : rest [] = none)
    (hrest : ∀ cs, rest cs = some (v, r) → rest' (cs ++ t) = some (v, r ++ t))
    (h : opened close empty rest cs = some (v, r)) :
    opened close empty rest' (cs ++ t) = some (v, r ++ t) := by
  rw [opened] at h ⊢
  cases hskip : skip cs with
  | nil =>
    rw [hskip] at h
    exact absurd (hnil.symm.trans h) nofun
  | cons c cs' =>
    rw [hskip] at h
    rw [skip_append_of_ne_nil (hskip ▸ List.cons_ne_nil c cs') t, hskip]
    dsimp only [List.cons_append] at h ⊢
    split at h
    · next hclose =>
      cases h
      rw [if_pos hclose]
    · next hother =>
      rw [if_neg hother]
      exact hrest _ h

/-- A value that a word stands for is found whatever follows it. -/
theorem map_word?_append {w cs r : List Char} {u v : Json}
    (h : (word? w cs).map (fun r => (u, r)) = some (v, r)) (t : List Char) :
    (word? w (cs ++ t)).map (fun r => (u, r)) = some (v, r ++ t) := by
  obtain ⟨r', hword, h⟩ := Option.map_eq_some_iff.1 h
  cases h
  rw [word?_append hword t]
  rfl

/-- A number begins with a digit. -/
theorem exists_digit_of_number? {negative : Bool} {cs : List Char} {x : Json × List Char}
    (h : number? negative cs = some x) :
    ∃ d ds, cs = d :: ds ∧ Decimal.isDigit d = true := by
  cases cs with
  | nil => cases h
  | cons d ds =>
    refine ⟨d, ds, rfl, ?_⟩
    by_contra hd
    rw [Bool.not_eq_true] at hd
    have hwhole : whole? (d :: ds) = none := by
      rw [whole?, takeDigits, List.span_eq_takeWhile_dropWhile, List.takeWhile_cons, hd]
      rfl
    rw [number?, hwhole] at h
    cases h

/-- **The invariant of longer texts**: what is read with this budget is read with every greater one
from a longer text, and the rest is longer by what was added. -/
structure ReadsOn (budget : ℕ) : Prop where
  value {budget' depth : ℕ} {cs r : List Char} {v : Json} (hle : budget ≤ budget')
    (h : value? budget depth cs = some (v, r)) (hr : r ≠ []) (t : List Char) :
    value? budget' depth (cs ++ t) = some (v, r ++ t)
  items {budget' depth : ℕ} {read : List Json} {cs r : List Char} {v : Json}
    (hle : budget ≤ budget') (h : items? budget depth read cs = some (v, r)) (t : List Char) :
    items? budget' depth read (cs ++ t) = some (v, r ++ t)
  members {budget' depth : ℕ} {read : List (String × Json)} {cs r : List Char} {v : Json}
    (hle : budget ≤ budget') (h : members? budget depth read cs = some (v, r)) (t : List Char) :
    members? budget' depth read (cs ++ t) = some (v, r ++ t)

section Step

variable {budget budget' : ℕ} (hle : budget ≤ budget')
include hle

/-- A longer text is read as long a way as before. -/
theorem ReadsOn.items_succ (ih : ReadsOn budget) {depth : ℕ} {read : List Json}
    {cs r : List Char} {v : Json} (h : items? (budget + 1) depth read cs = some (v, r))
    (t : List Char) : items? (budget' + 1) depth read (cs ++ t) = some (v, r ++ t) := by
  rw [items?] at h ⊢
  split at h
  · cases h
  · next w r₁ hvalue =>
    have hskip : skip r₁ ≠ [] := by
      intro hnil
      rw [hnil] at h
      cases h
    rw [ih.value hle hvalue (ne_nil_of_skip_ne_nil hskip) t]
    dsimp only
    rw [skip_append_of_ne_nil hskip t]
    split at h
    · next hcomma =>
      rw [hcomma]
      exact ih.items hle h t
    · next hclose =>
      cases h
      rw [hclose]
      rfl
    · cases h

theorem ReadsOn.members_succ (ih : ReadsOn budget) {depth : ℕ} {read : List (String × Json)}
    {cs r : List Char} {v : Json} (h : members? (budget + 1) depth read cs = some (v, r))
    (t : List Char) : members? (budget' + 1) depth read (cs ++ t) = some (v, r ++ t) := by
  have hcs := skip_ne_nil_of_members? h
  rw [members?] at h ⊢
  rw [skip_append_of_ne_nil hcs t]
  split at h
  · next cs' hquote =>
    simp only [hquote, List.cons_append]
    split at h
    · cases h
    · next name r₁ hname =>
      simp only [string?_append hname t]
      split at h
      · next r₂ hcolon =>
        have hr₁ : skip r₁ ≠ [] := by
          rw [hcolon]
          exact List.cons_ne_nil _ _
        simp only [skip_append_of_ne_nil hr₁ t, hcolon, List.cons_append]
        split at h
        · cases h
        · next w r₃ hvalue =>
          have hskip : skip r₃ ≠ [] := by
            intro hnil
            rw [hnil] at h
            cases h
          simp only [ih.value hle hvalue (ne_nil_of_skip_ne_nil hskip) t,
            skip_append_of_ne_nil hskip t]
          split at h
          · next hcomma =>
            simp only [hcomma, List.cons_append]
            exact ih.members hle h t
          · next hclose =>
            cases h
            simp only [hclose, List.cons_append]
          · cases h
      · cases h
  · cases h

/-- **An object is read whatever follows it**, as far as its members are. -/
theorem ReadsOn.object (ih : ReadsOn budget) {depth : ℕ} {cs r : List Char} {v : Json}
    (h : value? (budget + 1) depth ('{' :: cs) = some (v, r)) (t : List Char) :
    value? (budget' + 1) depth ('{' :: (cs ++ t)) = some (v, r ++ t) := by
  cases depth with
  | zero => cases h
  | succ depth =>
    rw [value?_open_brace] at h ⊢
    have hnil : members? budget depth [] [] = none := by cases budget <;> rfl
    exact opened_append t hnil (fun _ hcs => ih.members hle hcs t) h

/-- **An array is read whatever follows it**, as far as its items are. -/
theorem ReadsOn.array (ih : ReadsOn budget) {depth : ℕ} {cs r : List Char} {v : Json}
    (h : value? (budget + 1) depth ('[' :: cs) = some (v, r)) (t : List Char) :
    value? (budget' + 1) depth ('[' :: (cs ++ t)) = some (v, r ++ t) := by
  cases depth with
  | zero => cases h
  | succ depth =>
    rw [value?_open_bracket] at h ⊢
    have hnil : items? budget depth [] [] = none := by
      rcases budget with _ | _ | budget <;> rfl
    exact opened_append t hnil (fun _ hcs => ih.items hle hcs t) h

/-- A value that something follows is read whatever follows that. -/
theorem ReadsOn.value_succ (ih : ReadsOn budget) {depth : ℕ} {cs r : List Char} {v : Json}
    (h : value? (budget + 1) depth cs = some (v, r)) (hr : r ≠ []) (t : List Char) :
    value? (budget' + 1) depth (cs ++ t) = some (v, r ++ t) := by
  have hcs := skip_ne_nil_of_value? h
  rw [← value?_skip] at h
  rw [← value?_skip, skip_append_of_ne_nil hcs t]
  obtain ⟨c, cs', hskip⟩ := List.exists_cons_of_ne_nil hcs
  have hgap : isGap c = false := by
    have hhead : isGap (List.head (skip cs) hcs) = false := List.head_dropWhile_not isGap hcs
    simpa only [hskip, List.head_cons] using hhead
  rw [hskip] at h ⊢
  have hwhole := h
  rw [value?, skip_cons hgap] at h
  split at h
  case h_1 heq =>
    cases heq
    obtain ⟨_, hstring, h⟩ := Option.map_eq_some_iff.1 h
    cases h
    exact congrArg (Option.map _) (string?_append hstring t)
  case h_2 heq =>
    cases heq
    exact ih.array hle hwhole t
  case h_3 heq =>
    cases heq
    exact ih.object hle hwhole t
  case h_10 heq =>
    cases heq
    obtain ⟨d, ds, rfl, hd⟩ := exists_digit_of_number? h
    exact (value?_minus_digit hd ..).trans (number?_append h hr t)
  case h_11 =>
    obtain ⟨d, ds, hds, hd⟩ := exists_digit_of_number? h
    cases hds
    exact (value?_digit hd ..).trans (number?_append h hr t)
  -- What is left are the words.
  all_goals
    next heq =>
      cases heq
      exact map_word?_append h t

end Step

/-- With every budget, what is read is read from longer texts too. -/
theorem readsOn (budget : ℕ) : ReadsOn budget := by
  induction budget with
  | zero =>
    refine ⟨?_, ?_, ?_⟩
    · intro _ _ _ _ _ _ h
      cases h
    · intro _ _ _ _ _ _ _ h
      cases h
    · intro _ _ _ _ _ _ _ h
      cases h
  | succ budget ih =>
    refine ⟨?_, ?_, ?_⟩
    · intro budget' _ _ _ _ hle h hr t
      obtain ⟨budget', rfl⟩ := Nat.exists_eq_add_of_le' (Nat.le_trans (Nat.le_add_left 1 _) hle)
      exact ih.value_succ (Nat.le_of_succ_le_succ hle) h hr t
    · intro budget' _ _ _ _ _ hle h t
      obtain ⟨budget', rfl⟩ := Nat.exists_eq_add_of_le' (Nat.le_trans (Nat.le_add_left 1 _) hle)
      exact ih.items_succ (Nat.le_of_succ_le_succ hle) h t
    · intro budget' _ _ _ _ _ hle h t
      obtain ⟨budget', rfl⟩ := Nat.exists_eq_add_of_le' (Nat.le_trans (Nat.le_add_left 1 _) hle)
      exact ih.members_succ (Nat.le_of_succ_le_succ hle) h t

/-! ### Documents -/

/-- **An object is read whatever follows it.** -/
theorem value?_brace_append {budget budget' depth : ℕ} (hle : budget ≤ budget')
    {cs r : List Char} {v : Json} (h : value? budget depth ('{' :: cs) = some (v, r))
    (t : List Char) : value? budget' depth ('{' :: cs ++ t) = some (v, r ++ t) := by
  cases budget with
  | zero => cases h
  | succ budget =>
    obtain ⟨budget', rfl⟩ := Nat.exists_eq_add_of_le' (Nat.le_trans (Nat.le_add_left 1 _) hle)
    exact (readsOn budget).object (Nat.le_of_succ_le_succ hle) h t

section Object

variable {sp : Spacing} {members : List (String × Json)}
  (hsp : sp.IsReadable) (hplain : (object members).IsPlain)
  (hdepth : (object members).nesting ≤ maxDepth)
include hsp hplain hdepth

/-- A written object is read from the front of every text that it begins. -/
theorem value?_object_append {budget : ℕ}
    (hb : (render sp (object members)).length ≤ budget) (t : List Char) :
    value? budget maxDepth (render sp (object members) ++ t) = some (object members, t) := by
  have hread := value?_render hsp hplain hdepth (Nat.le_refl _) Ends.nil
  rw [List.append_nil, render] at hread
  exact value?_brace_append hb hread t

/-- **No proper beginning of a written object is a document.** -/
theorem read?_torn {torn rest : List Char} (htorn : torn ++ rest = render sp (object members))
    (hrest : rest ≠ []) : read? torn = none := by
  rw [read?]
  split
  · next v r hread =>
    -- Read from the whole text, what is left would hold `rest`; but nothing is left of that.
    have hwhole : value? (2 * (torn ++ rest).length + 2) maxDepth ((torn ++ rest) ++ []) =
        some (object members, []) := by
      rw [htorn]
      exact value?_object_append hsp hplain hdepth (by omega) []
    rw [List.append_nil] at hwhole
    cases torn with
    | nil => cases hread
    | cons c torn =>
      obtain rfl : c = '{' := (List.cons.inj htorn).1
      rw [value?_brace_append (by simp only [List.length_append]; omega) hread rest] at hwhole
      have hnil : r ++ rest = [] := (Prod.mk.inj (Option.some.inj hwhole)).2
      exact absurd (List.append_eq_nil_iff.1 hnil).2 hrest
  · rfl

/-- **A written object is read in front of blanks and nothing else.** -/
theorem read?_render_append (t : List Char) :
    read? (render sp (object members) ++ t) =
      if (skip t).isEmpty then some (object members) else none := by
  rw [read?, value?_object_append hsp hplain hdepth (by rw [List.length_append]; omega)]

end Object

end RollCall.Json
