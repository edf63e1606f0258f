import Mathlib.Data.List.TakeWhile
import RollCall.Text.Blank
import RollCall.Text.Case

/-!
# Texts that stay as they are

Stripping a text leaves one that neither is blank at an end nor changes when it is stripped again.
Small letters of ASCII, and whatever lies between them and the first accented letter, have no smaller
form, so that a text of them is its own small form.

## Main definitions

* `Text.IsPresent`: a text that is neither empty nor blank at an end.

## Main results

* `isPresent_strip`, `IsPresent.strip_eq`: what stripping leaves, and what it leaves as it is.
* `trimList_append`, `exists_trimList_append`: what trimming takes away.
* `lower_eq_self`: a text of characters without a smaller form.
-/

namespace RollCall.Text

variable {p : Char → Bool} {cs : List Char} {s : String}

/-! ### Stripping -/

/-- A text that is not empty and has no blank at either end. -/
structure IsPresent (s : String) : Prop where
  ne_empty : s ≠ ""
  head : ∀ c ∈ s.toList.head?, isBlank c = false
  last : ∀ c ∈ s.toList.getLast?, isBlank c = false

/-- A text without any blank has none at its ends. -/
theorem isPresent_of_all (hne : s ≠ "") (h : (s.toList.all fun c => !isBlank c) = true) :
    IsPresent s := by
  have hall : ∀ c ∈ s.toList, isBlank c = false := fun c hc => by
    rw [← Bool.not_eq_true']
    exact List.all_eq_true.1 h c hc
  exact ⟨hne, fun c hc => hall c (List.mem_of_head? hc),
    fun c hc => hall c (List.mem_of_getLast? hc)⟩

theorem head?_trimList : ∀ c ∈ (trimList p cs).head?, p c = false := by
  intro c hc
  rw [Option.mem_def] at hc
  -- What is dropped at the end leaves the front as it is.
  have hprefix : trimList p cs <+: cs.dropWhile p := by
    refine List.reverse_suffix.1 ?_
    rw [trimList, List.reverse_reverse]
    exact List.dropWhile_suffix p
  obtain ⟨cs', hcs'⟩ := hprefix
  have hfront : c ∈ (cs.dropWhile p).head? := by
    rw [← hcs', List.head?_append, hc]
    rfl
  exact head?_dropWhile c hfront

theorem getLast?_trimList : ∀ c ∈ (trimList p cs).getLast?, p c = false := by
  rw [trimList, List.getLast?_reverse]
  exact head?_dropWhile

/-- A list without such characters at its ends stays as it is. -/
theorem trimList_eq_self (hhead : ∀ c ∈ cs.head?, p c = false)
    (hlast : ∀ c ∈ cs.getLast?, p c = false) : trimList p cs = cs := by
  rw [← List.head?_reverse] at hlast
  rw [trimList, dropWhile_eq_self hhead, dropWhile_eq_self hlast, List.reverse_reverse]

/-- Trimming takes away what is around a list that neither begins nor ends with such characters. -/
theorem trimList_append {front back : List Char} (hfront : ∀ c ∈ front, p c = true)
    (hback : ∀ c ∈ back, p c = true) (hhead : ∀ c ∈ cs.head?, p c = false)
    (hlast : ∀ c ∈ cs.getLast?, p c = false) : trimList p (front ++ cs ++ back) = cs := by
  rw [trimList, List.append_assoc, List.dropWhile_append_of_pos hfront]
  cases cs with
  | nil =>
    rw [List.nil_append, List.dropWhile_eq_nil_iff.2 hback]
    rfl
  | cons c cs =>
    have hback' : ∀ c ∈ back.reverse, p c = true := fun c hc => hback c (List.mem_reverse.1 hc)
    have hkept : (c :: cs ++ back).dropWhile p = c :: cs ++ back := dropWhile_eq_self hhead
    rw [← List.head?_reverse] at hlast
    rw [hkept, List.reverse_append, List.dropWhile_append_of_pos hback', dropWhile_eq_self hlast,
      List.reverse_reverse]

/-- **What trimming takes away** are such characters only. -/
theorem exists_trimList_append (p : Char → Bool) (cs : List Char) :
    ∃ front back, cs = front ++ trimList p cs ++ back ∧ (∀ c ∈ front, p c = true) ∧
      ∀ c ∈ back, p c = true := by
  refine ⟨cs.takeWhile p, ((cs.dropWhile p).reverse.takeWhile p).reverse, ?_,
    fun c => List.mem_takeWhile_imp, fun c hc => List.mem_takeWhile_imp (List.mem_reverse.1 hc)⟩
  rw [trimList, List.append_assoc, ← List.reverse_append, List.takeWhile_append_dropWhile,
    List.reverse_reverse, List.takeWhile_append_dropWhile]

/-- What stripping leaves of a text has no blank at either end. -/
theorem isPresent_strip (h : strip s ≠ "") : IsPresent (strip s) := by
  refine ⟨h, ?_, ?_⟩
  · rw [strip, trim, String.toList_ofList]
    exact head?_trimList
  · rw [strip, trim, String.toList_ofList]
    exact getLast?_trimList

/-- Stripping leaves a text without blanks at its ends as it is. -/
theorem IsPresent.strip_eq (h : IsPresent s) : strip s = s := by
  rw [strip, trim, trimList_eq_self h.head h.last, String.ofList_toList]

/-! ### Small forms -/

/-- Between the capitals of ASCII and the first accented one there is no capital. -/
theorem smallForms_apart : ∀ e ∈ smallForms, e.2.1 ≤ 0x5A ∨ 0xC0 ≤ e.1 := by
  decide +kernel

theorem smallForm_eq_self {c : Char} (hlow : 0x5A < c.toNat) (hhigh : c.toNat < 0xC0) :
    smallForm c = c := by
  rw [smallForm]
  dsimp only
  split
  · next first last step distance hfound =>
    have hrange := List.find?_some hfound
    have hapart : last ≤ 0x5A ∨ 0xC0 ≤ first :=
      smallForms_apart _ (List.mem_of_find?_eq_some hfound)
    simp only [Bool.and_eq_true, decide_eq_true_eq] at hrange
    omega
  · rfl

theorem lowerFrom_eq_self (h : ∀ c ∈ cs, 0x5A < c.toNat ∧ c.toNat < 0xC0) (isBehind : Bool) :
    lowerFrom isBehind (Symbol.ofChars cs) = Symbol.ofChars cs := by
  induction cs generalizing isBehind with
  | nil => rfl
  | cons c cs ih =>
    obtain ⟨hlow, hhigh⟩ := h c List.mem_cons_self
    have hsigma : (c == capitalSigma) = false := by
      refine beq_false_of_ne ?_
      rintro rfl
      exact absurd hhigh (by decide)
    have hdotted : (c.toNat == 0x130) = false := beq_false_of_ne (by omega)
    change lowerFrom isBehind (.char c :: Symbol.ofChars cs) = _
    rw [lowerFrom, hsigma, hdotted, smallForm_eq_self hlow hhigh,
      ih fun c hc => h c (List.mem_cons_of_mem _ hc)]
    rfl

/-- **A text of characters without a smaller form** is its own small form. -/
theorem lower_eq_self (h : (s.toList.all fun c => 0x5A < c.toNat && c.toNat < 0xC0) = true) :
    lower s = s := by
  have hall : ∀ c ∈ s.toList, 0x5A < c.toNat ∧ c.toNat < 0xC0 := by
    intro c hc
    simpa only [Bool.and_eq_true, decide_eq_true_eq] using List.all_eq_true.1 h c hc
  rw [lower, lowerSymbols, lowerFrom_eq_self hall, Symbol.joined_ofChars, String.ofList_toList]

end RollCall.Text
