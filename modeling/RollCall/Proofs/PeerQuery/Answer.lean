import Mathlib.Data.String.Basic
import RollCall.PeerQuery.Basic

/-!
# The addresses of an answer

An answer is put together by inserting one address after the other into an ascending list. Each
insertion keeps the list strictly ascending and adds no other address, whatever the order in which
the peers were seen, so an answer is the strictly ascending list of the addresses of the peers.

## Main definitions

* `Address.Before`: the strict order of answers, by host and then by TCP port.

## Main results

* `mem_answer`: the addresses of an answer are those of the peers seen.
* `pairwise_answer`: an answer is strictly ascending.
* `nodup_answer`: an answer names no address twice.
-/

namespace RollCall

/-- The strict order of answers: by host, then by TCP port. -/
def Address.Before (a b : Address) : Prop :=
  a.host < b.host ∨ a.host = b.host ∧ a.port < b.port

namespace Address

theorem Before.trans {a b c : Address} (hab : a.Before b) (hbc : b.Before c) : a.Before c := by
  rcases hab with hab | ⟨hab, hport⟩
  · rcases hbc with hbc | ⟨hbc, -⟩
    · exact .inl (String.lt_trans hab hbc)
    · exact .inl (hbc ▸ hab)
  · rcases hbc with hbc | ⟨hbc, hport'⟩
    · exact .inl (hab ▸ hbc)
    · exact .inr ⟨hab.trans hbc, Int.lt_trans hport hport'⟩

theorem not_before_self (a : Address) : ¬a.Before a := by
  rintro (h | ⟨-, h⟩)
  · exact String.lt_irrefl a.host h
  · exact Int.lt_irrefl a.port h

/-- The order in which addresses are compared is the strict one or equality. -/
theorem le_eq_true_iff {a b : Address} : a.le b = true ↔ a.Before b ∨ a = b := by
  obtain ⟨host, port⟩ := a
  obtain ⟨host', port'⟩ := b
  simp only [Address.le, Address.Before, Bool.or_eq_true, Bool.and_eq_true, decide_eq_true_eq,
    beq_iff_eq, Address.mk.injEq]
  constructor
  · rintro (h | ⟨h, hport⟩)
    · exact .inl (.inl h)
    · rcases Int.lt_or_eq_of_le hport with hlt | heq
      · exact .inl (.inr ⟨h, hlt⟩)
      · exact .inr ⟨h, heq⟩
  · rintro ((h | ⟨h, hport⟩) | ⟨h, hport⟩)
    · exact .inl h
    · exact .inr ⟨h, Int.le_of_lt hport⟩
    · exact .inr ⟨h, Int.le_of_eq hport⟩

/-- Of two addresses one is not after the other. -/
theorem before_of_not_le {a b : Address} (h : ¬a.le b = true) : b.Before a := by
  obtain ⟨host, port⟩ := a
  obtain ⟨host', port'⟩ := b
  rw [le_eq_true_iff, not_or] at h
  obtain ⟨hbefore, hne⟩ := h
  simp only [Address.Before, not_or, not_and] at hbefore ⊢
  obtain ⟨hhost, hport⟩ := hbefore
  rcases lt_trichotomy host host' with hlt | heq | hgt
  · exact absurd hlt hhost
  · subst heq
    have hports : port ≠ port' := by
      rintro rfl
      exact hne rfl
    exact .inr ⟨rfl, by have := hport rfl; omega⟩
  · exact .inl hgt

end Address

namespace PeerQuery

/-- Inserting adds the address and no other. -/
theorem mem_insertAddress {a b : Address} {as : List Address} :
    b ∈ insertAddress a as ↔ b = a ∨ b ∈ as := by
  induction as with
  | nil => simp [insertAddress]
  | cons c cs ih =>
    rw [insertAddress]
    split
    · next h =>
      subst h
      simp
    · split
      · simp
      · rw [List.mem_cons, ih, List.mem_cons]
        exact or_left_comm

/-- Inserting keeps a strictly ascending list strictly ascending. -/
theorem pairwise_insertAddress {as : List Address} (h : as.Pairwise Address.Before)
    (a : Address) : (insertAddress a as).Pairwise Address.Before := by
  induction as with
  | nil => exact List.pairwise_singleton _ a
  | cons b bs ih =>
    obtain ⟨hb, hbs⟩ := List.pairwise_cons.1 h
    rw [insertAddress]
    split
    · exact h
    · next hne =>
      split
      · next hle =>
        have hab : a.Before b := (Address.le_eq_true_iff.1 hle).resolve_right hne
        refine List.pairwise_cons.2 ⟨?_, h⟩
        intro c hc
        rcases List.mem_cons.1 hc with rfl | hc
        · exact hab
        · exact hab.trans (hb c hc)
      · next hle =>
        refine List.pairwise_cons.2 ⟨?_, ih hbs⟩
        intro c hc
        rcases mem_insertAddress.1 hc with rfl | hc
        · exact Address.before_of_not_le hle
        · exact hb c hc

/-- **The addresses of an answer** are those of the peers seen. -/
theorem mem_answer {s : Sightings} {a : Address} :
    a ∈ answer s ↔ ∃ e ∈ s.live, e.2.address = a := by
  rw [answer]
  induction s.live with
  | nil => simp
  | cons e es ih =>
    rw [List.foldr_cons, mem_insertAddress, ih, eq_comm]
    simp only [List.mem_cons, exists_eq_or_imp]

/-- **An answer is strictly ascending.** -/
theorem pairwise_answer (s : Sightings) : (answer s).Pairwise Address.Before := by
  rw [answer]
  induction s.live with
  | nil => exact .nil
  | cons e es ih => exact pairwise_insertAddress ih e.2.address

/-- An answer names no address twice. -/
theorem nodup_answer (s : Sightings) : (answer s).Nodup := by
  refine (pairwise_answer s).imp ?_
  rintro a _ hbefore rfl
  exact a.not_before_self hbefore

end PeerQuery

end RollCall
