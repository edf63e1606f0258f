import RollCall.Proofs.Json.Leaves
import RollCall.Proofs.Json.Numbers

/-!
# What is read can be written

The reader refuses integers that are too long, so no document that it brings holds one, however deep
and under whatever names. This is what makes everything that was read fit to be written again.

## Main results

* `isShort_of_read?`: no integer of a document that was read is too long.
-/

namespace RollCall.Json

/-- **The invariant of the reader**: with this budget it brings no integer that is too long, as long
as what it brought before holds none. -/
structure BringsShort (budget : ℕ) : Prop where
  value {depth : ℕ} {cs r : List Char} {v : Json} (h : value? budget depth cs = some (v, r)) :
    v.IsShort
  items {depth : ℕ} {read : List Json} {cs r : List Char} {v : Json}
    (hread : ∀ w ∈ read, w.IsShort) (h : items? budget depth read cs = some (v, r)) : v.IsShort
  members {depth : ℕ} {read : List (String × Json)} {cs r : List Char} {v : Json}
    (hread : ∀ m ∈ read, m.2.IsShort) (h : members? budget depth read cs = some (v, r)) :
    v.IsShort

variable {budget : ℕ}

/-- A number that was read is short. -/
theorem isShort_of_number? {negative : Bool} {cs r : List Char} {v : Json}
    (h : number? negative cs = some (v, r)) : v.IsShort := by
  cases v with
  | int n => exact natAbs_lt_of_number? h
  | array items =>
    simp only [number?, Option.bind_eq_bind, Option.bind_eq_some_iff, Prod.exists] at h
    obtain ⟨_, _, -, _, _, -, _, _, -, h⟩ := h
    split at h <;> cases h
  | object members =>
    simp only [number?, Option.bind_eq_bind, Option.bind_eq_some_iff, Prod.exists] at h
    obtain ⟨_, _, -, _, _, -, _, _, -, h⟩ := h
    split at h <;> cases h
  | _ => trivial

/-- A word stands for a leaf that is no integer. -/
theorem isShort_of_map_word {w cs r : List Char} {v u : Json} (hu : u.IsShort)
    (h : (word? w cs).map (fun r => (u, r)) = some (v, r)) : v.IsShort := by
  obtain ⟨_, -, h⟩ := Option.map_eq_some_iff.1 h
  obtain ⟨rfl, -⟩ := Prod.mk.inj h
  exact hu

theorem BringsShort.value_succ (ih : BringsShort budget) {depth : ℕ} {cs r : List Char}
    {v : Json} (h : value? (budget + 1) depth cs = some (v, r)) : v.IsShort := by
  rw [value?] at h
  split at h
  · obtain ⟨_, -, h⟩ := Option.map_eq_some_iff.1 h
    obtain ⟨rfl, -⟩ := Prod.mk.inj h
    trivial
  · split at h
    · cases h
    · split at h
      · cases h
        trivial
      · exact ih.items (by simp) h
  · split at h
    · cases h
    · split at h
      · cases h
        trivial
      · exact ih.members (by simp) h
  · exact isShort_of_map_word (u := .null) trivial h
  · exact isShort_of_map_word (u := .bool true) trivial h
  · exact isShort_of_map_word (u := .bool false) trivial h
  · exact isShort_of_map_word (u := .real .nan) trivial h
  · exact isShort_of_map_word (u := .real (.infinite false)) trivial h
  · exact isShort_of_map_word (u := .real (.infinite true)) trivial h
  · exact isShort_of_number? h
  · exact isShort_of_number? h

theorem BringsShort.items_succ (ih : BringsShort budget) {depth : ℕ} {read : List Json}
    {cs r : List Char} {v : Json} (hread : ∀ w ∈ read, w.IsShort)
    (h : items? (budget + 1) depth read cs = some (v, r)) : v.IsShort := by
  rw [items?] at h
  split at h
  · cases h
  · next w _ hw =>
    have hall : ∀ u ∈ w :: read, u.IsShort := List.forall_mem_cons.2 ⟨ih.value hw, hread⟩
    split at h
    · exact ih.items hall h
    · cases h
      exact itemsHold_iff.2 fun u hu => hall u (List.mem_reverse.1 hu)
    · cases h

theorem BringsShort.members_succ (ih : BringsShort budget) {depth : ℕ}
    {read : List (String × Json)} {cs r : List Char} {v : Json}
    (hread : ∀ m ∈ read, m.2.IsShort)
    (h : members? (budget + 1) depth read cs = some (v, r)) : v.IsShort := by
  rw [members?] at h
  split at h
  · split at h
    · cases h
    · next name _ _ =>
      split at h
      · split at h
        · cases h
        · next w _ hw =>
          have hall : ∀ m ∈ (String.ofList name, w) :: read, m.2.IsShort :=
            List.forall_mem_cons.2 ⟨ih.value hw, hread⟩
          split at h
          · exact ih.members hall h
          · cases h
            exact membersHold_iff.2 fun m hm => hall m (List.mem_reverse.1 hm)
          · cases h
      · cases h
  · cases h

/-- With every budget the reader brings no integer that is too long. -/
theorem bringsShort (budget : ℕ) : BringsShort budget := by
  induction budget with
  | zero =>
    refine ⟨?_, ?_, ?_⟩
    · intro _ _ _ _ h
      cases h
    · intro _ _ _ _ _ _ h
      cases h
    · intro _ _ _ _ _ _ h
      cases h
  | succ budget ih => exact ⟨ih.value_succ, ih.items_succ, ih.members_succ⟩

/-- **No integer of a document that was read is too long.** -/
theorem isShort_of_read? {cs : List Char} {v : Json} (h : read? cs = some v) : v.IsShort := by
  unfold read? at h
  split at h
  · next hv =>
    split at h
    · cases h
      exact (bringsShort _).value hv
    · cases h
  · cases h

/-- The value found under a name of short members is short. -/
theorem isShort_of_lookup? {name : String} {members : List (String × Json)} {v : Json}
    (hm : (object members).IsShort) (h : lookup? name members = some v) : v.IsShort := by
  obtain ⟨m, hfind, rfl⟩ := Option.map_eq_some_iff.1 h
  exact membersHold_iff.1 hm m (List.mem_reverse.1 (List.mem_of_find?_eq_some hfind))

end RollCall.Json
