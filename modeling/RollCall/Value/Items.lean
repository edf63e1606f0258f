import RollCall.Failure

/-!
# Going through a value

Some values can be gone through item by item: a sequence, a set, a mapping by its keys, a text by
its characters and bytes by their numbers. A mapping may be offered as such or as anything that can
be gone through in pairs; in both cases its entries keep their order. Collections are no keys.

## Main definitions

* `Value.items`: what a value is gone through by.
* `Value.entries`: the entries of a value that is offered as a mapping.

## Main results

* `entries_list_pairs`: a list of pairs is offered as the mapping with these entries.
-/

namespace RollCall.Value

/-- What a value is gone through by. -/
def items : Value → Except Failure (List Value)
  | .list items | .set items => .ok items
  | .map entries => .ok (entries.map Prod.fst)
  | .text s => .ok (s.toList.map fun c => .text (String.singleton c))
  | .broken symbols => .ok (symbols.map fun s => .ofSymbols [s])
  | .bytes bs => .ok (bs.map fun b => .int b.toNat)
  | v => .error (.noItems v.kind)

/-- Whether a value may be a key: it is no collection. -/
def isKey : Value → Bool
  | .list _ | .map _ | .set _ => false
  | _ => true

/-- The entry that the item of a number is. -/
def entry (number : Nat) (item : Value) : Except Failure (Value × Value) :=
  match item.items with
  | .error _ => .error (.noSequence number)
  | .ok [key, v] => if key.isKey then .ok (key, v) else .error (.noKey key.kind)
  | .ok parts => .error (.noPair number parts.length)

/-- The entries that some items are, the first of which has a number. -/
def entriesFrom : (number : Nat) → List Value → Except Failure (List (Value × Value))
  | _, [] => .ok []
  | number, item :: items =>
    match entry number item with
    | .error f => .error f
    | .ok e => (entriesFrom (number + 1) items).map (e :: ·)

/-- The entries of a value that is offered as a mapping. -/
def entries : Value → Except Failure (List (Value × Value))
  | .map entries => .ok entries
  | v =>
    match v.items with
    | .error f => .error f
    | .ok items => entriesFrom 0 items

theorem entriesFrom_map_pair (es : List (Value × Value)) (hs : ∀ e ∈ es, e.1.isKey) (n : Nat) :
    entriesFrom n (es.map fun e => .list [e.1, e.2]) = .ok es := by
  induction es generalizing n with
  | nil => rfl
  | cons e es ih =>
    have he : entry n (.list [e.1, e.2]) = .ok e := by
      simp [entry, items, hs e List.mem_cons_self]
    simp only [List.map_cons, entriesFrom, he, ih fun d hd => hs d (List.mem_cons_of_mem e hd)]
    rfl

/-- A list of pairs is offered as the mapping with these entries. -/
theorem entries_list_pairs (es : List (Value × Value)) (hs : ∀ e ∈ es, e.1.isKey) :
    (Value.list (es.map fun e => .list [e.1, e.2])).entries = .ok es :=
  entriesFrom_map_pair es hs 0

end RollCall.Value
