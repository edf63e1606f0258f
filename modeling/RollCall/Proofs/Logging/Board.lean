import Mathlib.Data.List.Nodup
import RollCall.Logging.Board
import RollCall.Proofs.Entries

/-!
# What hangs on a board

A board is tidy if the filter of every owner hangs exactly where the owner's installation says: on
the root handlers that there were at the moment, on every noisy logger, and nowhere twice. The three
changes keep a board tidy. On a tidy board the filter of someone who is not installed hangs nowhere,
so that installing and removing it leaves no trace.

## Main definitions

* `Board.Tidy`: every filter hangs exactly where it was installed.
* `Board.Hangs`: the filter of an owner hangs somewhere.

## Main results

* `Tidy.install`, `Tidy.remove`, `Tidy.addHandler`: the changes keep a board tidy.
* `Tidy.not_hangs`: the filter of someone who is not installed hangs nowhere.
* `Tidy.remove_install`: installing and removing leaves no trace.
-/

namespace RollCall.Logging

variable {ι : Type} [DecidableEq ι] {o p : ι}

/-! ### Filters of a place -/

theorem mem_hang {filters : List ι} : p ∈ hang o filters ↔ p = o ∨ p ∈ filters := by
  rw [hang]
  split
  · next h =>
    refine ⟨.inr, ?_⟩
    rintro (rfl | hp)
    · exact List.contains_iff_mem.1 h
    · exact hp
  · rw [List.mem_append, List.mem_singleton, or_comm]

theorem nodup_hang {filters : List ι} (h : filters.Nodup) : (hang o filters).Nodup := by
  rw [hang]
  split
  · exact h
  · next ho =>
    rw [← List.concat_eq_append]
    exact h.concat fun hmem => ho (List.contains_iff_mem.2 hmem)

theorem mem_unhang {filters : List ι} (h : filters.Nodup) :
    p ∈ unhang o filters ↔ p ≠ o ∧ p ∈ filters :=
  h.mem_erase_iff

theorem nodup_unhang {filters : List ι} (h : filters.Nodup) : (unhang o filters).Nodup :=
  h.erase o

/-- A filter that did not hang at a place is taken off without a trace. -/
theorem unhang_hang {filters : List ι} (ho : o ∉ filters) :
    unhang o (hang o filters) = filters := by
  rw [hang, if_neg fun h => ho (List.contains_iff_mem.1 h), unhang, List.erase_append_right _ ho,
    List.erase_cons_head, List.append_nil]

namespace Board

variable {b : Board ι}

/-! ### Who is installed -/

theorem isInstalled_eq_false_iff : b.isInstalled o = false ↔ b.installed.lookup o = none :=
  Option.isSome_eq_false_iff.trans Option.isNone_iff_eq_none

theorem lookup_forget (entries : List (ι × Nat)) :
    (entries.filter fun e => e.1 != o).lookup p = if p = o then none else entries.lookup p := by
  induction entries with
  | nil => rw [List.filter_nil, List.lookup_nil, ite_self]
  | cons e entries ih =>
    obtain ⟨q, reach⟩ := e
    rw [List.filter_cons, lookup_cons_entry]
    by_cases hq : q = o
    · subst hq
      rw [if_neg (by simp), ih]
      split <;> rfl
    · rw [if_pos (by simpa using hq), lookup_cons_entry, ih]
      by_cases hp : p = q
      · rw [if_pos hp, if_pos hp, if_neg (hp ▸ hq)]
      · rw [if_neg hp, if_neg hp]

/-- Forgetting who is not installed changes nothing. -/
theorem forget_eq_self (ho : b.installed.lookup o = none) :
    (b.installed.filter fun e => e.1 != o) = b.installed := by
  rw [List.filter_eq_self]
  intro e hmem
  rw [bne, Bool.beq_comm]
  exact List.lookup_eq_none_iff.1 ho e hmem

theorem install_of_isInstalled (h : b.isInstalled o = false) : b.install o =
    ⟨b.handlers.map (Handler.update (hang o)), b.loggers.map (hang o),
      (o, b.handlers.length) :: b.installed⟩ := by
  rw [install, h]
  rfl

theorem remove_of_lookup {reach : ℕ} (h : b.installed.lookup o = some reach) : b.remove o =
    ⟨updateFirst (unhang o) reach b.handlers, b.loggers.map (unhang o),
      b.installed.filter fun e => e.1 != o⟩ := by
  rw [remove, h]

/-- After an installation: the root handlers that it reached are all those there are, unless the
owner was installed before. -/
theorem lookup_install : (b.install o).installed.lookup p =
    if p = o ∧ b.isInstalled o = false then some b.handlers.length else b.installed.lookup p := by
  rw [install]
  cases h : b.isInstalled o with
  | true => rw [if_pos rfl, if_neg (by simp)]
  | false =>
    rw [if_neg Bool.false_ne_true, lookup_cons_entry]
    simp only [and_true]

theorem lookup_remove : (b.remove o).installed.lookup p =
    if p = o then none else b.installed.lookup p := by
  rw [remove]
  split
  · next h =>
    split
    · next heq => rw [heq, h]
    · rfl
  · exact lookup_forget b.installed

theorem isInstalled_install :
    (b.install o).isInstalled p = true ↔ p = o ∨ b.isInstalled p = true := by
  rw [isInstalled, lookup_install]
  cases h : b.isInstalled o <;> by_cases hp : p = o <;> simp_all [isInstalled]

theorem isInstalled_remove :
    (b.remove o).isInstalled p = true ↔ p ≠ o ∧ b.isInstalled p = true := by
  rw [isInstalled, lookup_remove]
  by_cases hp : p = o <;> simp [hp, isInstalled]

/-! ### Handlers -/

omit [DecidableEq ι] in
/-- Of the handlers with the first ones changed, those beyond are as before. -/
theorem getElem?_updateFirst (f : List ι → List ι) (n k : ℕ) (hs : List (Handler ι)) :
    (updateFirst f n hs)[k]? = hs[k]?.map fun h => if k < n then h.update f else h := by
  rw [updateFirst, List.getElem?_append, List.length_map, List.length_take]
  by_cases hlength : k < hs.length
  · by_cases hk : k < n
    · simp only [if_pos hk]
      rw [if_pos (by omega), List.getElem?_map, List.getElem?_take_of_lt hk]
    · simp only [if_neg hk, Option.map_id']
      rw [if_neg (by omega), List.getElem?_drop, show n + (k - min n hs.length) = k by omega]
  · rw [if_neg (by omega), List.getElem?_eq_none (by simp only [List.length_drop]; omega),
      List.getElem?_eq_none (by omega), Option.map_none]

theorem map_eq_self {α : Type} {f : α → α} {l : List α} (h : ∀ a ∈ l, f a = a) : l.map f = l :=
  (List.map_congr_left h).trans (List.map_id l)

omit [DecidableEq ι] in
/-- Root handlers with their filters changed in such a way that these stay the same. -/
theorem map_update_eq_self {f : List ι → List ι} {hs : List (Handler ι)}
    (h : ∀ handler ∈ hs, f handler.filters = handler.filters) :
    hs.map (Handler.update f) = hs := by
  refine map_eq_self fun handler hmem => ?_
  rw [Handler.update, h handler hmem]

/-! ### Tidy boards -/

/-- Every filter hangs exactly where its owner's installation says, and nowhere twice. -/
structure Tidy (b : Board ι) : Prop where
  /-- No installation reached more root handlers than there are. -/
  reach_le {o : ι} {reach : ℕ} (h : b.installed.lookup o = some reach) : reach ≤ b.handlers.length
  /-- On a root handler hang the filters whose installation reached it. -/
  handler {k : ℕ} {h : Handler ι} (hk : b.handlers[k]? = some h) :
    h.filters.Nodup ∧ ∀ o, o ∈ h.filters ↔ ∃ reach, b.installed.lookup o = some reach ∧ k < reach
  /-- On a noisy logger hang the filters of all that are installed. -/
  logger {filters : List ι} (hfilters : filters ∈ b.loggers) :
    filters.Nodup ∧ ∀ o, o ∈ filters ↔ b.isInstalled o = true

/-- The filter of an owner hangs on a root handler or on a noisy logger. -/
def Hangs (b : Board ι) (o : ι) : Prop :=
  (∃ h ∈ b.handlers, o ∈ h.filters) ∨ ∃ filters ∈ b.loggers, o ∈ filters

theorem tidy_empty : (empty : Board ι).Tidy where
  reach_le h := by cases h
  handler hk := by cases hk
  logger {filters} hfilters := by
    obtain ⟨_, -, rfl⟩ := List.mem_map.1 hfilters
    exact ⟨.nil, fun o => by simp [isInstalled, empty]⟩

namespace Tidy

/-- The filter of someone who is not installed hangs nowhere. -/
theorem not_hangs (h : b.Tidy) (ho : b.isInstalled o = false) : ¬ b.Hangs o := by
  rintro (⟨handler, hmem, hhangs⟩ | ⟨filters, hmem, hhangs⟩)
  · obtain ⟨k, hk⟩ := List.getElem?_of_mem hmem
    obtain ⟨reach, hreach, -⟩ := ((h.handler hk).2 o).1 hhangs
    rw [isInstalled_eq_false_iff.1 ho] at hreach
    cases hreach
  · rw [((h.logger hmem).2 o).1 hhangs] at ho
    cases ho

/-- A new root handler has no filters. -/
theorem addHandler (h : b.Tidy) (name : String) : (b.addHandler name).Tidy where
  reach_le hreach := by
    rw [Board.addHandler, List.length_append]
    exact Nat.le_trans (h.reach_le hreach) (Nat.le_add_right ..)
  handler {k handler} hk := by
    rw [Board.addHandler, List.getElem?_append] at hk
    split at hk
    · exact h.handler hk
    · next hge =>
      obtain rfl := List.eq_of_mem_singleton (List.mem_of_getElem? hk)
      refine ⟨.nil, fun o => iff_of_false List.not_mem_nil ?_⟩
      rintro ⟨reach, hreach, hlt⟩
      have := h.reach_le hreach
      omega
  logger hfilters := h.logger hfilters

theorem install (h : b.Tidy) (o : ι) : (b.install o).Tidy := by
  by_cases ho : b.isInstalled o = true
  · rwa [Board.install, if_pos ho]
  rw [Bool.not_eq_true] at ho
  have hlookup (p : ι) : (b.install o).installed.lookup p =
      if p = o then some b.handlers.length else b.installed.lookup p := by
    rw [lookup_install]
    simp only [ho, and_true]
  have heq := install_of_isInstalled ho
  refine ⟨fun {p reach} hreach => ?_, fun {k handler} hk => ?_, fun {filters} hfilters => ?_⟩
  · have hlength : (b.install o).handlers.length = b.handlers.length := by
      rw [heq, List.length_map]
    rw [hlength]
    rw [hlookup] at hreach
    split at hreach
    · exact Nat.le_of_eq (Option.some.inj hreach).symm
    · exact h.reach_le hreach
  · rw [heq, List.getElem?_map, Option.map_eq_some_iff] at hk
    obtain ⟨before, hk, rfl⟩ := hk
    obtain ⟨hnodup, hmem⟩ := h.handler hk
    obtain ⟨hlt, -⟩ := List.getElem?_eq_some_iff.1 hk
    refine ⟨nodup_hang hnodup, fun p => mem_hang.trans ?_⟩
    rw [hmem, hlookup]
    by_cases hp : p = o
    · exact iff_of_true (.inl hp) ⟨_, if_pos hp, hlt⟩
    · simp only [hp, false_or, if_false]
  · rw [heq] at hfilters
    obtain ⟨before, hbefore, rfl⟩ := List.mem_map.1 hfilters
    obtain ⟨hnodup, hmem⟩ := h.logger hbefore
    exact ⟨nodup_hang hnodup, fun p => by rw [mem_hang, hmem, isInstalled_install]⟩

theorem remove (h : b.Tidy) (o : ι) : (b.remove o).Tidy := by
  cases ho : b.installed.lookup o with
  | none => rwa [Board.remove, ho]
  | some reached =>
    have heq := remove_of_lookup ho
    refine ⟨fun {p reach} hreach => ?_, fun {k handler} hk => ?_, fun {filters} hfilters => ?_⟩
    · have hlength : (b.remove o).handlers.length = b.handlers.length := by
        rw [heq, updateFirst, List.length_append, List.length_map, ← List.length_append,
          List.take_append_drop]
      rw [hlength]
      rw [lookup_remove] at hreach
      split at hreach
      · cases hreach
      · exact h.reach_le hreach
    · rw [heq, getElem?_updateFirst, Option.map_eq_some_iff] at hk
      obtain ⟨before, hk, rfl⟩ := hk
      obtain ⟨hnodup, hmem⟩ := h.handler hk
      by_cases hlt : k < reached
      · rw [if_pos hlt]
        refine ⟨nodup_unhang hnodup, fun p => (mem_unhang hnodup).trans ?_⟩
        rw [hmem, lookup_remove]
        by_cases hp : p = o
        · simp [hp]
        · simp [hp]
      · rw [if_neg hlt]
        refine ⟨hnodup, fun p => ?_⟩
        rw [hmem, lookup_remove]
        by_cases hp : p = o
        · simp [hp, ho, hlt]
        · rw [if_neg hp]
    · rw [heq] at hfilters
      obtain ⟨before, hbefore, rfl⟩ := List.mem_map.1 hfilters
      obtain ⟨hnodup, hmem⟩ := h.logger hbefore
      exact ⟨nodup_unhang hnodup, fun p => by rw [mem_unhang hnodup, hmem, isInstalled_remove]⟩

/-- **Installing and removing leaves no trace.** -/
theorem remove_install (h : b.Tidy) (ho : b.isInstalled o = false) :
    (b.install o).remove o = b := by
  have hhangs := h.not_hangs ho
  have hlookup : (b.install o).installed.lookup o = some b.handlers.length := by
    rw [lookup_install, if_pos ⟨rfl, ho⟩]
  have hhandlers : updateFirst (unhang o) b.handlers.length
      (b.handlers.map (Handler.update (hang o))) = b.handlers := by
    have hlength : (b.handlers.map (Handler.update (hang o))).length ≤ b.handlers.length :=
      Nat.le_of_eq (List.length_map _)
    rw [updateFirst, List.take_of_length_le hlength, List.drop_eq_nil_of_le hlength,
      List.append_nil, List.map_map]
    change b.handlers.map (Handler.update fun filters => unhang o (hang o filters)) = b.handlers
    exact map_update_eq_self fun handler hmem =>
      unhang_hang fun hfilter => hhangs (.inl ⟨handler, hmem, hfilter⟩)
  have hloggers : (b.loggers.map (hang o)).map (unhang o) = b.loggers := by
    rw [List.map_map]
    exact map_eq_self fun filters hmem =>
      unhang_hang fun hfilter => hhangs (.inr ⟨filters, hmem, hfilter⟩)
  have hinstalled : ((o, b.handlers.length) :: b.installed).filter (fun e => e.1 != o) =
      b.installed := by
    rw [List.filter_cons_of_neg (by simp), forget_eq_self (isInstalled_eq_false_iff.1 ho)]
  rw [remove_of_lookup hlookup, install_of_isInstalled ho, hhandlers, hloggers, hinstalled]

end Tidy

end Board

end RollCall.Logging
