import Mathlib.Data.List.Basic
import Mathlib.Logic.Function.Basic
import RollCall.Address

/-!
# The text of an address

A host with a colon is put in brackets, and the decimal text of a TCP port has no colon. So the last
colon divides the two, and what stands before it is the host or the host in brackets, of which the
former has no colon and the latter has one. No two addresses have the same text.

## Main results

* `Decimal.integer_injective`: a decimal text decides the integer.
* `Address.text_injective`: the text decides the address.
-/

namespace RollCall

namespace Decimal

/-- No digit is a minus sign or a colon. -/
theorem isDigit_ne {c d : Char} (hc : isDigit c = true) (hd : isDigit d = false) : c ≠ d := by
  rintro rfl
  rw [hd] at hc
  cases hc

theorem minus_not_mem_digits (n : Nat) : '-' ∉ digits n :=
  fun h => isDigit_ne (digits_isDigit h) (by decide) rfl

theorem colon_not_mem_integer (n : Int) : ':' ∉ integer n := by
  have hdigits : ':' ∉ digits n.natAbs := fun h => isDigit_ne (digits_isDigit h) (by decide) rfl
  rw [integer]
  split
  · exact List.not_mem_cons_of_ne_of_not_mem (by decide) hdigits
  · exact hdigits

theorem digits_injective : Function.Injective digits := fun m n h => by
  rw [← ofDigits_digits m, h, ofDigits_digits]

/-- **A decimal text decides the integer**: the minus sign tells the negative ones. -/
theorem integer_injective : Function.Injective integer := by
  intro m n h
  rw [integer, integer] at h
  split at h <;> split at h
  · have := digits_injective (List.cons.inj h).2
    omega
  · exact absurd (h ▸ List.mem_cons_self) (minus_not_mem_digits n.natAbs)
  · exact absurd (h ▸ List.mem_cons_self) (minus_not_mem_digits m.natAbs)
  · have := digits_injective h
    omega

end Decimal

namespace Address

/-- The last of some marks divides a text in one way. -/
theorem append_cons_inj {α : Type} {x x' z z' : List α} {mark : α} (hz : mark ∉ z) (hz' : mark ∉ z')
    (h : x ++ mark :: z = x' ++ mark :: z') : x = x' ∧ z = z' := by
  have hshorter {x z z' c : List α} (hz : mark ∉ z) (h : mark :: z = c ++ mark :: z') :
      x = x ++ c ∧ z = z' := by
    cases c with
    | nil => exact ⟨(List.append_nil x).symm, (List.cons.inj h).2⟩
    | cons d c =>
      refine absurd ?_ hz
      rw [(List.cons.inj h).2]
      exact List.mem_append_right c List.mem_cons_self
  rcases List.append_eq_append_iff.1 h with ⟨c, rfl, hc⟩ | ⟨c, rfl, hc⟩
  · exact hshorter hz hc
  · obtain ⟨hx, hrest⟩ := hshorter (x := x') hz' hc
    exact ⟨hx.symm, hrest.symm⟩

/-- The host as it stands in the text of an address. -/
def hostText (host : String) : String :=
  if host.toList.contains ':' then "[" ++ host ++ "]" else host

theorem hostText_of_mem {host : String} (h : ':' ∈ host.toList) :
    hostText host = "[" ++ host ++ "]" :=
  if_pos (List.contains_iff_mem.2 h)

theorem hostText_of_not_mem {host : String} (h : ':' ∉ host.toList) : hostText host = host :=
  if_neg fun hmem => h (List.contains_iff_mem.1 hmem)

/-- The host in brackets has a colon exactly if the host does. -/
theorem colon_mem_hostText {host : String} : ':' ∈ (hostText host).toList ↔ ':' ∈ host.toList := by
  by_cases h : ':' ∈ host.toList
  · rw [hostText_of_mem h, String.toList_append, String.toList_append]
    exact iff_of_true (List.mem_append_left _ (List.mem_append_right _ h)) h
  · rw [hostText_of_not_mem h]

theorem hostText_injective : Function.Injective hostText := by
  intro host host' h
  have hcolon : ':' ∈ host.toList ↔ ':' ∈ host'.toList := by
    rw [← colon_mem_hostText, h, colon_mem_hostText]
  by_cases hmem : ':' ∈ host.toList
  · rw [hostText_of_mem hmem, hostText_of_mem (hcolon.1 hmem)] at h
    exact (String.append_right_inj _).1 ((String.append_left_inj _).1 h)
  · rwa [hostText_of_not_mem hmem, hostText_of_not_mem fun h' => hmem (hcolon.2 h')] at h

theorem toList_text (a : Address) :
    a.text.toList = (hostText a.host).toList ++ ':' :: Decimal.integer a.port := by
  change (hostText a.host ++ ":" ++ Decimal.ofInt a.port).toList = _
  have hport : (Decimal.ofInt a.port).toList = Decimal.integer a.port := String.toList_ofList
  rw [String.toList_append, String.toList_append, List.append_assoc, hport]
  rfl

/-- **The text decides the address.** -/
theorem text_injective : Function.Injective text := by
  intro a a' h
  have hlist := congrArg String.toList h
  rw [toList_text, toList_text] at hlist
  obtain ⟨hhost, hport⟩ := append_cons_inj (Decimal.colon_not_mem_integer a.port)
    (Decimal.colon_not_mem_integer a'.port) hlist
  have hhost := hostText_injective (String.toList_injective hhost)
  have hport := Decimal.integer_injective hport
  cases a
  cases a'
  exact congrArg₂ Address.mk hhost hport

end Address

end RollCall
