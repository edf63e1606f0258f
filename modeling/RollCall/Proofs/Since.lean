import Mathlib.Data.List.Basic

/-!
# Since

Much of what a history says has one form: something happened, and whatever came since has left it
alone. Its law is that of one more event: either the event is what happened, or it leaves alone what
happened before.

## Main definitions

* `Since P Q history`: an event with `P` happened, and every event since has `Q`.

## Main results

* `since_concat_iff`: the law of one more event.
-/

namespace RollCall

variable {α : Type} {P : List α → α → Prop} {Q : α → Prop} {history : List α} {event : α}

/-- An event happened for which `P` holds, with what came before it, and `Q` holds of every event
since. -/
def Since (P : List α → α → Prop) (Q : α → Prop) (history : List α) : Prop :=
  ∃ before event since, history = before ++ event :: since ∧ P before event ∧ ∀ e ∈ since, Q e

theorem not_since_nil : ¬ Since P Q [] := by
  rintro ⟨before, event, since, hnil, -⟩
  simp at hnil

/-- **One more event** is what happened, or it leaves alone what happened before. -/
theorem since_concat_iff :
    Since P Q (history ++ [event]) ↔ P history event ∨ (Q event ∧ Since P Q history) := by
  constructor
  · rintro ⟨before, e, since, heq, hP, hQ⟩
    obtain rfl | ⟨since, last, rfl⟩ := since.eq_nil_or_concat'
    · obtain ⟨rfl, rfl⟩ := List.append_singleton_inj.1 heq
      exact .inl hP
    · rw [← List.cons_append, ← List.append_assoc] at heq
      obtain ⟨rfl, rfl⟩ := List.append_singleton_inj.1 heq
      simp only [List.forall_mem_append, List.forall_mem_singleton] at hQ
      exact .inr ⟨hQ.2, before, e, since, rfl, hP, hQ.1⟩
  · rintro (hP | ⟨hQ, before, e, since, rfl, hP, hsince⟩)
    · exact ⟨history, event, [], rfl, hP, by simp⟩
    · refine ⟨before, e, since ++ [event], by simp, hP, ?_⟩
      simp only [List.forall_mem_append, List.forall_mem_singleton]
      exact ⟨hsince, hQ⟩

end RollCall
