import RollCall.Proofs.Json.Leaves
import RollCall.Proofs.Json.Numbers
import RollCall.Proofs.Json.Quoting

/-!
# Written JSON reads back

A value without reals, and with integers that are short enough to be read, is read back from its
text, whatever blanks its separators bring and whatever follows it. The budget of the reader never
matters: every call but the first stands behind a character that the call before it took, so the
length of the text is enough. The depth does matter, and a value reads back exactly as deep as it
nests.

## Main definitions

* `Spacing.IsReadable`: separators that are a comma or a colon and blanks.

## Main results

* `value?_render`: a plain value reads back in front of anything that does not go on with a number.
* `read?_render`: a plain document reads back, with blanks behind it.
-/

namespace RollCall.Json

/-! ### Separators -/

/-- The separators are a comma and a colon, with blanks behind them. -/
structure Spacing.IsReadable (sp : Spacing) : Prop where
  item : ∃ gaps, sp.item = ',' :: gaps ∧ ∀ c ∈ gaps, isGap c = true
  name : ∃ gaps, sp.name = ':' :: gaps ∧ ∀ c ∈ gaps, isGap c = true

theorem Spacing.isReadable_compact : Spacing.compact.IsReadable :=
  ⟨⟨[], rfl, by simp⟩, ⟨[], rfl, by simp⟩⟩

theorem Spacing.isReadable_airy : Spacing.airy.IsReadable :=
  ⟨⟨[' '], rfl, by simp [isGap]⟩, ⟨[' '], rfl, by simp [isGap]⟩⟩

/-! ### Blanks -/

/-- Blanks at the front are skipped. -/
theorem skip_append {gaps : List Char} (h : ∀ c ∈ gaps, isGap c = true) (cs : List Char) :
    skip (gaps ++ cs) = skip cs :=
  List.dropWhile_append_of_pos h

/-- Nothing is skipped in front of a character that is no blank. -/
theorem skip_cons {c : Char} (h : isGap c = false) (cs : List Char) : skip (c :: cs) = c :: cs := by
  rw [skip, List.dropWhile_cons, h]
  rfl

/-- A value is looked for behind the blanks at the front. -/
theorem value?_append_gaps {gaps : List Char} (h : ∀ c ∈ gaps, isGap c = true)
    (budget depth : ℕ) (cs : List Char) :
    value? budget depth (gaps ++ cs) = value? budget depth cs := by
  cases budget with
  | zero => rfl
  | succ budget => simp only [value?, skip_append h]

/-- The items of an array are looked for behind the blanks at the front. -/
theorem items?_append_gaps {gaps : List Char} (h : ∀ c ∈ gaps, isGap c = true)
    (budget depth : ℕ) (read : List Json) (cs : List Char) :
    items? budget depth read (gaps ++ cs) = items? budget depth read cs := by
  cases budget with
  | zero => rfl
  | succ budget => simp only [items?, value?_append_gaps h]

/-- The members of an object are looked for behind the blanks at the front. -/
theorem members?_append_gaps {gaps : List Char} (h : ∀ c ∈ gaps, isGap c = true)
    (budget depth : ℕ) (read : List (String × Json)) (cs : List Char) :
    members? budget depth read (gaps ++ cs) = members? budget depth read cs := by
  cases budget with
  | zero => rfl
  | succ budget => simp only [members?, skip_append h]

/-! ### Leaves -/

/-- A digit is no blank. -/
theorem isGap_of_isDigit {c : Char} (h : Decimal.isDigit c = true) : isGap c = false := by
  rw [Bool.eq_false_iff]
  intro hgap
  simp only [isGap, Bool.or_eq_true, beq_iff_eq] at hgap
  rcases hgap with ((rfl | rfl) | rfl) | rfl <;> exact absurd h (by decide)

/-- A digit is no character that is not a digit. -/
theorem ne_of_isDigit {c d : Char} (hd : Decimal.isDigit d = true)
    (hc : Decimal.isDigit c = false) : d ≠ c := by
  rintro rfl
  rw [hd] at hc
  cases hc

/-- A value that begins with a digit is a number. -/
theorem value?_digit {d : Char} (hd : Decimal.isDigit d = true) (budget depth : ℕ)
    (cs : List Char) : value? (budget + 1) depth (d :: cs) = number? false (d :: cs) := by
  rw [value?, skip_cons (isGap_of_isDigit hd)]
  split
  -- Every other form of value begins with a character of its own.
  all_goals
    first
      | next h => exact absurd (List.cons.inj h).1 (ne_of_isDigit hd rfl)
      | rfl

/-- A value that begins with a minus sign and a digit is a negative number. -/
theorem value?_minus_digit {d : Char} (hd : Decimal.isDigit d = true) (budget depth : ℕ)
    (cs : List Char) :
    value? (budget + 1) depth ('-' :: d :: cs) = number? true (d :: cs) := by
  rw [value?, skip_cons (by decide)]
  split
  -- The other forms begin with another character, or go on with one that is no digit.
  all_goals
    first
      | next h => exact absurd (List.cons.inj h).1 (by decide)
      | next h => exact absurd (List.cons.inj (List.cons.inj h).2).1 (ne_of_isDigit hd rfl)
      | skip
  · next h => rw [(List.cons.inj h).2]
  · next h => exact absurd rfl (h _)

/-- A short integer reads back. -/
theorem value?_integer {n : Int} (hn : n.natAbs < 10 ^ maxDigits) {rest : List Char}
    (hrest : Ends rest) (budget depth : ℕ) :
    value? (budget + 1) depth (Decimal.integer n ++ rest) = some (.int n, rest) := by
  obtain ⟨d, ds, hds⟩ := List.exists_cons_of_ne_nil (Decimal.digits_ne_nil n.natAbs)
  have hd : Decimal.isDigit d = true :=
    Decimal.digits_isDigit (n := n.natAbs) (by rw [hds]; exact List.mem_cons_self)
  rw [Decimal.integer]
  split
  · next hneg =>
    rw [hds, List.cons_append, List.cons_append, value?_minus_digit hd, ← List.cons_append,
      ← hds, number?_digits hn hrest, if_pos rfl]
    have habs : -(n.natAbs : Int) = n := by omega
    rw [habs]
  · next hpos =>
    rw [hds, List.cons_append, value?_digit hd, ← List.cons_append, ← hds,
      number?_digits hn hrest, if_neg (by decide)]
    have habs : (n.natAbs : Int) = n := by omega
    rw [habs]

/-- A text reads back. -/
theorem value?_quote (s : String) (rest : List Char) (budget depth : ℕ) :
    value? (budget + 1) depth (quote s ++ rest) = some (.text s, rest) := by
  obtain ⟨body, hbody, hread⟩ := string?_quote s rest
  rw [hbody, value?, skip_cons (by decide)]
  simp only [hread, Option.map_some, String.ofList_toList]

/-- A value begins with a character that is neither a blank nor the end of an array. -/
theorem render_eq_cons {v : Json} (h : v.IsPlain) (sp : Spacing) :
    ∃ c cs, v.render sp = c :: cs ∧ isGap c = false ∧ c ≠ ']' := by
  cases v with
  | null => exact ⟨'n', _, rfl, by decide, by decide⟩
  | bool b =>
    cases b with
    | true => exact ⟨'t', _, rfl, by decide, by decide⟩
    | false => exact ⟨'f', _, rfl, by decide, by decide⟩
  | int n =>
    obtain ⟨d, ds, hds⟩ := List.exists_cons_of_ne_nil (Decimal.digits_ne_nil n.natAbs)
    have hd : Decimal.isDigit d = true :=
      Decimal.digits_isDigit (n := n.natAbs) (by rw [hds]; exact List.mem_cons_self)
    rw [render, Decimal.integer]
    split
    · exact ⟨'-', _, rfl, by decide, by decide⟩
    · refine ⟨d, ds, hds, isGap_of_isDigit hd, ?_⟩
      rintro rfl
      exact absurd hd (by decide)
  | real x => exact h.elim
  | text s => exact ⟨'"', _, rfl, by decide, by decide⟩
  | array items => exact ⟨'[', _, rfl, by decide, by decide⟩
  | object members => exact ⟨'{', _, rfl, by decide, by decide⟩

/-- Several items of an array are the first, a separator, and the others. -/
theorem renderItems_cons_cons (sp : Spacing) (v w : Json) (vs : List Json) :
    renderItems sp (v :: w :: vs) = render sp v ++ (sp.item ++ renderItems sp (w :: vs)) :=
  rfl

/-- Several members of an object are the first, a separator, and the others. -/
theorem renderMembers_cons_cons (sp : Spacing) (name : String) (v : Json)
    (m : String × Json) (ms : List (String × Json)) :
    renderMembers sp ((name, v) :: m :: ms) =
      quote name ++ (sp.name ++ (render sp v ++ (sp.item ++ renderMembers sp (m :: ms)))) :=
  rfl

/-- The items of an array begin like the first of them. -/
theorem renderItems_eq_cons {v : Json} {vs : List Json} (h : v.IsPlain) (sp : Spacing)
    (rest : List Char) :
    ∃ c cs, renderItems sp (v :: vs) ++ rest = c :: cs ∧ isGap c = false ∧ c ≠ ']' := by
  obtain ⟨c, cs, hcs, hgap, hend⟩ := render_eq_cons h sp
  cases vs with
  | nil => exact ⟨c, cs ++ rest, by rw [renderItems, hcs]; rfl, hgap, hend⟩
  | cons w ws =>
    exact ⟨c, cs ++ (sp.item ++ renderItems sp (w :: ws)) ++ rest,
      by rw [renderItems_cons_cons, hcs]; rfl, hgap, hend⟩

/-- The members of an object begin with the name of the first. -/
theorem renderMembers_eq_cons (m : String × Json) (ms : List (String × Json)) (sp : Spacing)
    (rest : List Char) : ∃ cs, renderMembers sp (m :: ms) ++ rest = '"' :: cs := by
  cases ms with
  | nil => exact ⟨_, rfl⟩
  | cons m' ms => exact ⟨_, rfl⟩

/-- An array whose first item begins with a known character is read item by item. -/
theorem value?_bracket {c : Char} (hgap : isGap c = false) (hend : c ≠ ']')
    (budget depth : ℕ) (cs : List Char) :
    value? (budget + 1) (depth + 1) ('[' :: c :: cs) = items? budget depth [] (c :: cs) := by
  rw [value?, skip_cons (by decide)]
  simp only [skip_cons hgap]
  split
  · next h => exact absurd (List.cons.inj h).1 hend
  · rfl

/-- An object whose first member begins with a quotation mark is read member by member. -/
theorem value?_brace (budget depth : ℕ) (cs : List Char) :
    value? (budget + 1) (depth + 1) ('{' :: '"' :: cs) = members? budget depth [] ('"' :: cs) :=
  rfl

/-! ### Values -/

/-- What ends an item or a member does not go on with a number. -/
theorem ends_separator {c : Char} (h : c = ',' ∨ c = ']' ∨ c = '}') (cs : List Char) :
    Ends (c :: cs) := by
  rcases h with rfl | rfl | rfl <;> exact Ends.cons cs (by decide)

/-- **The invariant of reading back**: with this budget the reader takes every plain value, every
list of items and every list of members whose text is not longer than the budget. -/
structure ReadsBack (sp : Spacing) (budget : ℕ) : Prop where
  value {v : Json} {depth : ℕ} {rest : List Char} (hv : v.IsPlain) (hd : v.nesting ≤ depth)
    (hb : (render sp v).length ≤ budget) (hr : Ends rest) :
    value? budget depth (render sp v ++ rest) = some (v, rest)
  items {v : Json} {vs : List Json} {depth : ℕ} (hv : ItemsHold IsPlainLeaf (v :: vs))
    (hd : itemsNesting (v :: vs) ≤ depth) (hb : (renderItems sp (v :: vs)).length < budget)
    (read : List Json) (rest : List Char) :
    items? budget depth read (renderItems sp (v :: vs) ++ ']' :: rest) =
      some (.array (read.reverse ++ v :: vs), rest)
  members {m : String × Json} {ms : List (String × Json)} {depth : ℕ}
    (hm : MembersHold IsPlainLeaf (m :: ms)) (hd : membersNesting (m :: ms) ≤ depth)
    (hb : (renderMembers sp (m :: ms)).length < budget) (read : List (String × Json))
    (rest : List Char) :
    members? budget depth read (renderMembers sp (m :: ms) ++ '}' :: rest) =
      some (.object (read.reverse ++ m :: ms), rest)

section Step

variable {sp : Spacing} {budget : ℕ}

/-- One more unit of the budget is enough for a value whose parts the rest was enough for. -/
theorem ReadsBack.value_succ (ih : ReadsBack sp budget) {v : Json} {depth : ℕ}
    {rest : List Char} (hv : v.IsPlain) (hd : v.nesting ≤ depth)
    (hb : (render sp v).length ≤ budget + 1) (hr : Ends rest) :
    value? (budget + 1) depth (render sp v ++ rest) = some (v, rest) := by
  cases v with
  | null => rfl
  | bool b => cases b <;> rfl
  | int n => exact value?_integer hv hr budget depth
  | real x => exact hv.elim
  | text s => exact value?_quote s rest budget depth
  | array items =>
    cases items with
    | nil =>
      obtain ⟨depth, rfl⟩ : ∃ d, depth = d + 1 := Nat.exists_eq_add_one.2 hd
      rfl
    | cons v vs =>
      obtain ⟨depth, rfl⟩ : ∃ d, depth = d + 1 := Nat.exists_eq_add_one.2 (by
        rw [nesting] at hd
        omega)
      have hdepth : itemsNesting (v :: vs) ≤ depth := Nat.le_of_succ_le_succ hd
      have hlen : (renderItems sp (v :: vs)).length < budget := by
        simp only [render, List.length_cons, List.length_append, List.length_nil] at hb
        omega
      obtain ⟨c, cs, hcs, hgap, hend⟩ := renderItems_eq_cons hv.1 sp (']' :: rest)
      have hread := ih.items hv hdepth hlen [] rest
      rw [render, List.cons_append, List.append_assoc, List.singleton_append]
      rw [hcs] at hread ⊢
      rw [value?_bracket hgap hend, hread]
      rfl
  | object members =>
    cases members with
    | nil =>
      obtain ⟨depth, rfl⟩ : ∃ d, depth = d + 1 := Nat.exists_eq_add_one.2 hd
      rfl
    | cons m ms =>
      obtain ⟨depth, rfl⟩ : ∃ d, depth = d + 1 := Nat.exists_eq_add_one.2 (by
        rw [nesting] at hd
        omega)
      have hdepth : membersNesting (m :: ms) ≤ depth := Nat.le_of_succ_le_succ hd
      have hlen : (renderMembers sp (m :: ms)).length < budget := by
        simp only [render, List.length_cons, List.length_append, List.length_nil] at hb
        omega
      obtain ⟨cs, hcs⟩ := renderMembers_eq_cons m ms sp ('}' :: rest)
      have hread := ih.members hv hdepth hlen [] rest
      rw [render, List.cons_append, List.append_assoc, List.singleton_append]
      rw [hcs] at hread ⊢
      rw [value?_brace, hread]
      rfl

/-- One more unit of the budget is enough for one more item. -/
theorem ReadsBack.items_succ (hsp : sp.IsReadable) (ih : ReadsBack sp budget) {v : Json}
    {vs : List Json} {depth : ℕ} (hv : ItemsHold IsPlainLeaf (v :: vs))
    (hd : itemsNesting (v :: vs) ≤ depth)
    (hb : (renderItems sp (v :: vs)).length < budget + 1) (read : List Json)
    (rest : List Char) :
    items? (budget + 1) depth read (renderItems sp (v :: vs) ++ ']' :: rest) =
      some (.array (read.reverse ++ v :: vs), rest) := by
  have hdepth : v.nesting ≤ depth := Nat.le_trans (Nat.le_max_left _ _) hd
  cases vs with
  | nil =>
    have hread := ih.value hv.1 hdepth (Nat.le_of_lt_succ hb)
      (ends_separator (.inr (.inl rfl)) rest)
    rw [renderItems, items?, hread]
    simp only [skip_cons (show isGap ']' = false by decide), List.reverse_cons]
  | cons w ws =>
    obtain ⟨gaps, hitem, hgaps⟩ := hsp.item
    rw [renderItems_cons_cons, hitem] at hb ⊢
    simp only [List.length_append, List.length_cons] at hb
    have hread := ih.value hv.1 hdepth (by omega)
      (ends_separator (.inl rfl) (gaps ++ (renderItems sp (w :: ws) ++ ']' :: rest)))
    have hmore := ih.items hv.2 (Nat.le_trans (Nat.le_max_right _ _) hd) (by omega)
      (v :: read) rest
    simp only [List.append_assoc, List.cons_append]
    rw [items?, hread]
    simp only [skip_cons (show isGap ',' = false by decide)]
    rw [items?_append_gaps hgaps, hmore, List.reverse_cons, List.append_assoc]
    rfl

/-- One more unit of the budget is enough for one more member. -/
theorem ReadsBack.members_succ (hsp : sp.IsReadable) (ih : ReadsBack sp budget)
    {m : String × Json} {ms : List (String × Json)} {depth : ℕ}
    (hm : MembersHold IsPlainLeaf (m :: ms)) (hd : membersNesting (m :: ms) ≤ depth)
    (hb : (renderMembers sp (m :: ms)).length < budget + 1) (read : List (String × Json))
    (rest : List Char) :
    members? (budget + 1) depth read (renderMembers sp (m :: ms) ++ '}' :: rest) =
      some (.object (read.reverse ++ m :: ms), rest) := by
  obtain ⟨name, v⟩ := m
  obtain ⟨colonGaps, hname, hcolon⟩ := hsp.name
  have hdepth : v.nesting ≤ depth := Nat.le_trans (Nat.le_max_left _ _) hd
  cases ms with
  | nil =>
    rw [renderMembers, hname] at hb ⊢
    simp only [List.length_append, List.length_cons] at hb
    have hread := ih.value hm.1 hdepth (by omega) (ends_separator (.inr (.inr rfl)) rest)
    obtain ⟨body, hbody, hstring⟩ :=
      string?_quote name (':' :: (colonGaps ++ (render sp v ++ '}' :: rest)))
    simp only [List.append_assoc, List.cons_append]
    rw [hbody, members?, skip_cons (by decide)]
    simp only [hstring, skip_cons (show isGap ':' = false by decide),
      value?_append_gaps hcolon, hread, skip_cons (show isGap '}' = false by decide),
      String.ofList_toList, List.reverse_cons]
  | cons m' ms =>
    obtain ⟨gaps, hitem, hgaps⟩ := hsp.item
    rw [renderMembers_cons_cons, hname, hitem] at hb ⊢
    simp only [List.length_append, List.length_cons] at hb
    have hread := ih.value hm.1 hdepth (by omega)
      (ends_separator (.inl rfl) (gaps ++ (renderMembers sp (m' :: ms) ++ '}' :: rest)))
    have hmore := ih.members hm.2 (Nat.le_trans (Nat.le_max_right _ _) hd) (by omega)
      ((name, v) :: read) rest
    obtain ⟨body, hbody, hstring⟩ := string?_quote name
      (':' :: (colonGaps ++ (render sp v ++ ',' :: (gaps ++ (renderMembers sp (m' :: ms) ++
        '}' :: rest)))))
    simp only [List.append_assoc, List.cons_append]
    rw [hbody, members?, skip_cons (by decide)]
    simp only [hstring, skip_cons (show isGap ':' = false by decide),
      value?_append_gaps hcolon, hread, skip_cons (show isGap ',' = false by decide),
      String.ofList_toList]
    rw [members?_append_gaps hgaps, hmore, List.reverse_cons, List.append_assoc]
    rfl

end Step

/-- A value has a text. -/
theorem length_render_pos {v : Json} (h : v.IsPlain) (sp : Spacing) :
    0 < (render sp v).length := by
  obtain ⟨c, cs, hcs, -⟩ := render_eq_cons h sp
  rw [hcs]
  exact Nat.succ_pos _

/-- With every budget, everything reads back that is not longer than the budget. -/
theorem readsBack {sp : Spacing} (hsp : sp.IsReadable) (budget : ℕ) : ReadsBack sp budget := by
  induction budget with
  | zero =>
    refine ⟨?_, ?_, ?_⟩
    · intro v depth rest hv _ hb _
      exact absurd (length_render_pos hv sp) (by omega)
    · intro v vs depth _ _ hb
      omega
    · intro m ms depth _ _ hb
      omega
  | succ budget ih => exact ⟨ih.value_succ, ih.items_succ hsp, ih.members_succ hsp⟩

/-- **A plain value reads back** in front of anything that does not go on with a number, if the
reader allows for its depth and its length. -/
theorem value?_render {sp : Spacing} (hsp : sp.IsReadable) {v : Json} {budget depth : ℕ}
    {rest : List Char} (hv : v.IsPlain) (hd : v.nesting ≤ depth)
    (hb : (render sp v).length ≤ budget) (hr : Ends rest) :
    value? budget depth (render sp v ++ rest) = some (v, rest) :=
  (readsBack hsp budget).value hv hd hb hr

/-- **A plain document reads back**, with blanks behind it. -/
theorem read?_render {sp : Spacing} (hsp : sp.IsReadable) {v : Json} (hv : v.IsPlain)
    (hd : v.nesting ≤ maxDepth) (gaps : List Char) (hgaps : ∀ c ∈ gaps, isGap c = true) :
    read? (render sp v ++ gaps) = some v := by
  have hends : Ends gaps := by
    cases gaps with
    | nil => exact Ends.nil
    | cons c cs =>
      have hc := hgaps c List.mem_cons_self
      simp only [isGap, Bool.or_eq_true, beq_iff_eq] at hc
      rcases hc with ((rfl | rfl) | rfl) | rfl <;> exact Ends.cons cs (by decide)
  have hskip : skip gaps = [] := List.dropWhile_eq_nil_iff.2 hgaps
  rw [read?, value?_render hsp hv hd (by rw [List.length_append]; omega) hends]
  simp only [hskip, List.isEmpty_nil, if_true]

end RollCall.Json
