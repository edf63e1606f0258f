import RollCall.Failure

/-!
# The object store in memory

A store maps keys to contents. Its entries are kept in ascending order of their keys, each key once,
so that the same objects are always the same store. A listing is *lazy*: it does not look at the
store before its first key is asked for; then it takes all keys with its prefix at once, and later
changes of the store do not reach it.

## Main definitions

* `Store`, `Store.get?`, `Store.put`, `Store.delete`.
* `Store.keys`, `Store.list`: all keys, and those with a prefix, in ascending order.
* `Store.Listing`: a lazy listing.

## Main results

* `get?_put`, `get?_delete`: a change is seen under its key and nowhere else.
* `mem_keys_iff`: the keys are those under which something is stored.
* `list_pairwise`: a listing is in strictly ascending order.
-/

namespace RollCall

/-- Keys with contents, in ascending order of the keys. -/
structure Store where
  entries : List (String × List UInt8)
  ascending : entries.Pairwise fun a b => a.1 < b.1
  deriving DecidableEq

namespace Store

/-- The store without objects. -/
def empty : Store := ⟨[], .nil⟩

instance : Inhabited Store := ⟨empty⟩

/-- The content under a key. -/
def get? (s : Store) (key : String) : Option (List UInt8) :=
  s.entries.lookup key

/-- Entries with one more in its place; an entry of the same key gives way. -/
def insert (key : String) (data : List UInt8) :
    List (String × List UInt8) → List (String × List UInt8)
  | [] => [(key, data)]
  | e :: es =>
    if key = e.1 then (key, data) :: es
    else if key < e.1 then (key, data) :: e :: es
    else e :: insert key data es

/-- Of two different keys that do not ascend, the second comes first. -/
theorem lt_of_ne_of_not_lt {a b : String} (hne : a ≠ b) (h : ¬a < b) : b < a := by
  by_cases h' : b < a
  · exact h'
  · exact absurd (String.le_antisymm (String.not_lt.1 h') (String.not_lt.1 h)) hne

/-- The keys after an insertion. -/
theorem mem_insert_key {key k : String} {data : List UInt8} {es : List (String × List UInt8)} :
    (∃ e ∈ insert key data es, e.1 = k) ↔ k = key ∨ ∃ e ∈ es, e.1 = k := by
  induction es with
  | nil => simp [insert, eq_comm]
  | cons e es ih =>
    by_cases h : key = e.1
    · simp only [insert, h, if_true, List.mem_cons, exists_eq_or_imp]
      constructor
      · rintro (h' | h')
        · exact .inl h'.symm
        · exact .inr (.inr h')
      · rintro (h' | h' | h')
        · exact .inl h'.symm
        · exact .inl h'
        · exact .inr h'
    · by_cases h' : key < e.1
      · simp [insert, h, h', eq_comm]
      · simp only [insert, h, h', if_false, List.mem_cons, exists_eq_or_imp, ih]
        constructor
        · rintro (h | h | h)
          · exact .inr (.inl h)
          · exact .inl h
          · exact .inr (.inr h)
        · rintro (h | h | h)
          · exact .inr (.inl h)
          · exact .inl h
          · exact .inr (.inr h)

/-- An insertion keeps the order. -/
theorem pairwise_insert {key : String} {data : List UInt8} {es : List (String × List UInt8)}
    (h : es.Pairwise fun a b => a.1 < b.1) :
    (insert key data es).Pairwise fun a b => a.1 < b.1 := by
  induction es with
  | nil => simp [insert]
  | cons e es ih =>
    obtain ⟨first, rest⟩ := List.pairwise_cons.1 h
    by_cases hk : key = e.1
    · simp only [insert, hk, if_true]
      exact List.pairwise_cons.2 ⟨fun b hb => first b hb, rest⟩
    · by_cases hl : key < e.1
      · simp only [insert, hk, hl, if_true, if_false]
        refine List.pairwise_cons.2 ⟨fun b hb => ?_, h⟩
        rcases List.mem_cons.1 hb with rfl | hb
        · exact hl
        · exact String.lt_trans hl (first b hb)
      · simp only [insert, hk, hl, if_false]
        refine List.pairwise_cons.2 ⟨fun b hb => ?_, ih rest⟩
        rcases mem_insert_key.1 ⟨b, hb, rfl⟩ with hb | ⟨c, hc, hb⟩
        · exact hb ▸ lt_of_ne_of_not_lt hk hl
        · exact hb ▸ first c hc

/-- The store with an object written; an object under the same key gives way. -/
def put (s : Store) (key : String) (data : List UInt8) : Store :=
  ⟨insert key data s.entries, pairwise_insert s.ascending⟩

/-- The store without the object under a key, if there is one. -/
def delete (s : Store) (key : String) : Store :=
  ⟨s.entries.filter fun e => e.1 != key, s.ascending.filter _⟩

/-- The content under a key, which must be there. -/
def get (s : Store) (key : String) : Except Failure (List UInt8) :=
  match s.get? key with
  | some data => .ok data
  | none => .error (.notFound (some key))

theorem get_eq_ok_iff {s : Store} {key : String} {data : List UInt8} :
    s.get key = .ok data ↔ s.get? key = some data := by
  rw [get]
  cases s.get? key <;> simp

/-- All keys, in ascending order. -/
def keys (s : Store) : List String :=
  s.entries.map (·.1)

/-- Whether a key begins with a prefix. -/
def hasPrefix (keyPrefix key : String) : Bool :=
  keyPrefix.toList.isPrefixOf key.toList

/-- The keys with a prefix, in ascending order. -/
def list (s : Store) (keyPrefix : String) : List String :=
  s.keys.filter (hasPrefix keyPrefix)

/-! ### Lazy listings -/

/-- A lazy listing: not begun, or begun and with the keys that are still to come. -/
inductive Listing
  | fresh (keyPrefix : String)
  | begun (rest : List String)
  deriving DecidableEq, Repr

/-- The next key of a listing, and the listing after it. -/
def Listing.next (s : Store) : Listing → Option String × Listing
  | .fresh keyPrefix => ((s.list keyPrefix).head?, .begun (s.list keyPrefix).tail)
  | .begun rest => (rest.head?, .begun rest.tail)

/-! ### Laws -/

/-- The first of some entries decides unless it has another key. -/
theorem lookup_cons_eq (k : String) (e : String × List UInt8) (es : List (String × List UInt8)) :
    (e :: es).lookup k = if k = e.1 then some e.2 else es.lookup k := by
  obtain ⟨name, data⟩ := e
  rw [List.lookup_cons]
  by_cases h : k = name
  · simp [h]
  · have : (k == name) = false := by simpa using h
    simp [this, h]

theorem lookup_insert (key k : String) (data : List UInt8) (es : List (String × List UInt8)) :
    (insert key data es).lookup k = if k = key then some data else es.lookup k := by
  induction es with
  | nil => simp [insert, lookup_cons_eq]
  | cons e es ih =>
    by_cases h : key = e.1
    · by_cases hk : k = e.1 <;> simp [insert, lookup_cons_eq, h, hk]
    · by_cases h' : key < e.1
      · simp [insert, lookup_cons_eq, h, h']
      · by_cases hk : k = e.1
        · have : e.1 ≠ key := fun hc => h hc.symm
          simp [insert, lookup_cons_eq, h, h', hk, this]
        · simp [insert, lookup_cons_eq, h, h', hk, ih]

/-- What is written is read under its key, and everything else as before. -/
theorem get?_put (s : Store) (key k : String) (data : List UInt8) :
    (s.put key data).get? k = if k = key then some data else s.get? k :=
  lookup_insert key k data s.entries

theorem lookup_filter (key k : String) (es : List (String × List UInt8)) :
    (es.filter fun e => e.1 != key).lookup k = if k = key then none else es.lookup k := by
  induction es with
  | nil => simp
  | cons e es ih =>
    by_cases h : e.1 = key
    · have hdrop : ((e :: es).filter fun e => e.1 != key) = es.filter fun e => e.1 != key := by
        simp [h]
      rw [hdrop, ih, lookup_cons_eq, h]
      by_cases hk : k = key <;> simp [hk]
    · by_cases hk : k = e.1
      · simp [lookup_cons_eq, h, hk]
      · simp [lookup_cons_eq, h, hk, ih]

/-- What is deleted is gone, and everything else is as before. -/
theorem get?_delete (s : Store) (key k : String) :
    (s.delete key).get? k = if k = key then none else s.get? k :=
  lookup_filter key k s.entries

/-- The keys are those under which something is stored. -/
theorem mem_keys_iff (s : Store) (key : String) : key ∈ s.keys ↔ (s.get? key).isSome := by
  unfold keys get?
  induction s.entries with
  | nil => simp
  | cons e es ih => by_cases h : key = e.1 <;> simp [lookup_cons_eq, h, ih]

theorem keys_pairwise (s : Store) : s.keys.Pairwise (· < ·) :=
  List.pairwise_map.2 s.ascending

/-- A listing is in strictly ascending order. -/
theorem list_pairwise (s : Store) (keyPrefix : String) :
    (s.list keyPrefix).Pairwise (· < ·) :=
  s.keys_pairwise.filter _

/-- A listing holds the keys with its prefix under which something is stored. -/
theorem mem_list_iff (s : Store) (keyPrefix key : String) :
    key ∈ s.list keyPrefix ↔ hasPrefix keyPrefix key = true ∧ (s.get? key).isSome := by
  rw [list, List.mem_filter, mem_keys_iff, and_comm]

end Store

end RollCall
