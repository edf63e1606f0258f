import RollCall.Tally

/-!
# Entries under keys

Replacing the entry of a key in a list of entries is an update of the function from keys to values,
and it keeps the keys distinct, so that an entry of the list is the value under its key.

## Main results

* `lookup_replaceEntry`: the new value under the key, and everything else as before.
* `nodup_replaceEntry`: distinct keys stay distinct.
* `lookup_eq_some_iff_mem`: under distinct keys the entries are the values.
* `Tally.count_bump`: what is counted once more.
* `Tally.Gains`: how much more of everything one tally counts than another.
-/

namespace RollCall

variable {α β : Type} [DecidableEq α]

/-- The first of some entries decides unless it has another key. -/
theorem lookup_cons_entry (n key : α) (value : β) (es : List (α × β)) :
    ((key, value) :: es).lookup n = if n = key then some value else es.lookup n := by
  rw [List.lookup_cons]
  by_cases h : n = key
  · rw [if_pos h, beq_iff_eq.2 h]
  · rw [if_neg h, beq_eq_false_iff_ne.2 h]

/-- **The new value under the key, and everything else as before.** -/
theorem lookup_replaceEntry (n key : α) (value : β) (es : List (α × β)) :
    (replaceEntry key value es).lookup n = if n = key then some value else es.lookup n := by
  induction es with
  | nil => exact lookup_cons_entry n key value []
  | cons e es ih =>
    obtain ⟨k, v⟩ := e
    rw [replaceEntry]
    split
    · next h =>
      subst h
      rw [lookup_cons_entry, lookup_cons_entry]
      split <;> rfl
    · next h =>
      rw [lookup_cons_entry, lookup_cons_entry, ih]
      by_cases hn : n = k
      · subst hn
        rw [if_pos rfl, if_neg h, if_pos rfl]
      · rw [if_neg hn, if_neg hn]

/-- The keys after a replacement: the key itself and those that were there. -/
theorem mem_keys_replaceEntry {n key : α} {value : β} {es : List (α × β)} :
    n ∈ (replaceEntry key value es).map (·.1) ↔ n = key ∨ n ∈ es.map (·.1) := by
  induction es with
  | nil => simp [replaceEntry]
  | cons e es ih =>
    obtain ⟨k, v⟩ := e
    rw [replaceEntry]
    split
    · next h =>
      subst h
      simp
    · rw [List.map_cons, List.mem_cons, ih, List.map_cons, List.mem_cons]
      exact or_left_comm

/-- Distinct keys stay distinct. -/
theorem nodup_replaceEntry {key : α} {value : β} {es : List (α × β)}
    (h : (es.map (·.1)).Nodup) : ((replaceEntry key value es).map (·.1)).Nodup := by
  induction es with
  | nil => simp [replaceEntry]
  | cons e es ih =>
    obtain ⟨k, v⟩ := e
    obtain ⟨hk, hes⟩ := List.nodup_cons.1 h
    rw [replaceEntry]
    split
    · next heq =>
      subst heq
      exact List.nodup_cons.2 ⟨hk, hes⟩
    · next hne =>
      refine List.nodup_cons.2 ⟨?_, ih hes⟩
      rw [mem_keys_replaceEntry]
      rintro (heq | hmem)
      · exact hne heq
      · exact hk hmem

/-- **Under distinct keys the entries are the values under the keys.** -/
theorem lookup_eq_some_iff_mem {n : α} {value : β} {es : List (α × β)}
    (h : (es.map (·.1)).Nodup) : es.lookup n = some value ↔ (n, value) ∈ es := by
  induction es with
  | nil => simp
  | cons e es ih =>
    obtain ⟨k, v⟩ := e
    obtain ⟨hk, hes⟩ := List.nodup_cons.1 h
    rw [lookup_cons_entry, List.mem_cons, Prod.mk.injEq, ← ih hes]
    by_cases hn : n = k
    · subst hn
      rw [if_pos rfl]
      constructor
      · intro hv
        exact .inl ⟨rfl, (Option.some.inj hv).symm⟩
      · rintro (⟨-, rfl⟩ | hv)
        · rfl
        · exact absurd (List.mem_map.2 ⟨(n, value), (ih hes).1 hv, rfl⟩) hk
    · rw [if_neg hn]
      constructor
      · exact .inr
      · rintro (⟨heq, -⟩ | hv)
        · exact absurd heq hn
        · exact hv

/-! ### Counts -/

/-- Counting something once more changes its count and no other. -/
theorem Tally.count_bump (t : Tally) (c n : Counter) :
    (t.bump c).count n = t.count n + if n = c then 1 else 0 := by
  rw [count, bump, lookup_replaceEntry]
  split
  · next h =>
    rw [h]
    rfl
  · rfl

/-- One thing, counted once. -/
def Counter.once (c : Counter) : Counter → Nat :=
  fun n => if n = c then 1 else 0

namespace Tally

variable {t t' t'' : Tally} {n n' : Counter → Nat}

/-- How much more of everything a tally counts than an earlier one. The peers that were found last
are the same. -/
structure Gains (t t' : Tally) (n : Counter → Nat) : Prop where
  count (c : Counter) : t'.count c = t.count c + n c
  found (cluster : String) : t'.found? cluster = t.found? cluster

theorem Gains.refl (t : Tally) : t.Gains t fun _ => 0 :=
  ⟨fun _ => rfl, fun _ => rfl⟩

theorem Gains.trans (h : t.Gains t' n) (h' : t'.Gains t'' n') :
    t.Gains t'' fun c => n c + n' c where
  count c := by rw [h'.count, h.count, Nat.add_assoc]
  found cluster := (h'.found cluster).trans (h.found cluster)

theorem Gains.bump (t : Tally) (c : Counter) : t.Gains (t.bump c) c.once :=
  ⟨t.count_bump c, fun _ => rfl⟩

/-- The tally after a query of a cluster was answered with some peers. -/
def answered (t : Tally) (cluster : String) (peers : Nat) : Tally :=
  (t.bump (.queries cluster true)).setFound cluster peers

theorem count_answered (t : Tally) (cluster : String) (peers : Nat) (c : Counter) :
    (t.answered cluster peers).count c = t.count c + Counter.once (.queries cluster true) c :=
  t.count_bump (.queries cluster true) c

theorem found?_answered (t : Tally) (cluster : String) (peers : Nat) (cluster' : String) :
    (t.answered cluster peers).found? cluster' =
      if cluster' = cluster then some peers else t.found? cluster' :=
  lookup_replaceEntry cluster' cluster peers t.found

end Tally

end RollCall
