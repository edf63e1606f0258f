import RollCall.Value

/-!
# Looking up in mappings

Of several entries under one key the last counts. Entries with other keys are no matter, and if no
key is there twice, the order of the entries is no matter either.

## Main results

* `lookup?_append`, `lookup?_cons`: what is under a key, one entry after the other.
* `lookup?_insert_of_ne`, `lookup?_insert_self`: entries with another key, and the last one with the
  same.
* `lookup?_of_mem`: under distinct keys every entry counts.
* `lookup?_perm`: under distinct keys the order is no matter.
-/

namespace RollCall.Value

variable {key : String} {e : Value × Value} {entries entries' before after : List (Value × Value)}

theorem isText_iff {v : Value} : v.isText key = true ↔ v = .text key := by
  cases v <;> simp [isText]

theorem lookup?_append (key : String) (before after : List (Value × Value)) :
    lookup? key (before ++ after) = (lookup? key after).or (lookup? key before) := by
  rw [lookup?, List.reverse_append, List.find?_append, Option.map_or]
  rfl

theorem lookup?_cons (key : String) (e : Value × Value) (entries : List (Value × Value)) :
    lookup? key (e :: entries) =
      (lookup? key entries).or (if e.1.isText key then some e.2 else none) := by
  rw [← List.singleton_append, lookup?_append, lookup?.eq_def key [e], List.reverse_singleton,
    List.find?_singleton]
  split <;> rfl

theorem lookup?_cons_of_ne (h : e.1 ≠ .text key) (entries : List (Value × Value)) :
    lookup? key (e :: entries) = lookup? key entries := by
  rw [lookup?_cons, if_neg fun htext => h (isText_iff.1 htext), Option.or_none]

theorem lookup?_eq_none (h : ∀ e ∈ entries, e.1 ≠ .text key) : lookup? key entries = none := by
  induction entries with
  | nil => rfl
  | cons e entries ih =>
    rw [lookup?_cons_of_ne (h e List.mem_cons_self)]
    exact ih fun e' he' => h e' (List.mem_cons_of_mem e he')

/-- An entry with another key is no matter. -/
theorem lookup?_insert_of_ne (h : e.1 ≠ .text key) :
    lookup? key (before ++ e :: after) = lookup? key (before ++ after) := by
  rw [lookup?_append, lookup?_append, lookup?_cons_of_ne h]

/-- The last entry under a key counts. -/
theorem lookup?_insert_self {v : Value} (h : ∀ e ∈ after, e.1 ≠ .text key) :
    lookup? key (before ++ (.text key, v) :: after) = some v := by
  rw [lookup?_append, lookup?_cons, lookup?_eq_none h, if_pos (isText_iff.2 rfl)]
  rfl

/-- **The order of entries is no matter** if no key is there twice. -/
theorem lookup?_perm (h : entries.Perm entries')
    (hkeys : (entries.filterMap (·.1.text?)).Nodup) (key : String) :
    lookup? key entries = lookup? key entries' := by
  induction h with
  | nil => rfl
  | cons e _ ih =>
    have hkeys' := hkeys.sublist ((List.sublist_cons_self e _).filterMap _)
    rw [lookup?_cons, lookup?_cons, ih hkeys']
  | swap e e' l =>
    by_cases he : e.1 = .text key
    · by_cases he' : e'.1 = .text key
      · rw [List.filterMap_cons, List.filterMap_cons, he, he'] at hkeys
        exact absurd List.mem_cons_self (List.nodup_cons.1 hkeys).1
      · rw [lookup?_cons_of_ne he', lookup?_cons key e, lookup?_cons key e (e' :: l),
          lookup?_cons_of_ne he']
    · rw [lookup?_cons_of_ne he (e' :: l), lookup?_cons key e', lookup?_cons_of_ne he,
        lookup?_cons key e']
  | trans h _ ih ih' => exact (ih hkeys).trans (ih' ((h.filterMap _).nodup hkeys))

/-- A value that is offered under a name is found there if no other is offered under the same. -/
theorem lookup?_of_mem {named : List (String × Value)} (hnames : (named.map Prod.fst).Nodup)
    {name : String} {v : Value} (h : (name, v) ∈ named) :
    lookup? name (named.map fun e => (.text e.1, e.2)) = some v := by
  obtain ⟨before, after, rfl⟩ := List.append_of_mem h
  rw [List.map_append, List.map_cons] at hnames ⊢
  refine lookup?_insert_self fun e he => ?_
  obtain ⟨e', he', rfl⟩ := List.mem_map.1 he
  rintro ⟨⟩
  have hnext := (List.nodup_cons.1 (List.nodup_append.1 hnames).2.1).1
  exact hnext (List.mem_map.2 ⟨e', he', rfl⟩)

end RollCall.Value
