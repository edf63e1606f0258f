import RollCall.Proofs.Site.Calls
import RollCall.Store.Backend

/-!
# What a world holds under its keys

A backend stores if its world can be asked what it holds under each key, and its calls do to that
what their names say: a put concerns its own key, a deletion that succeeds leaves nothing under its
key, one that fails may have deleted or not, and nothing else changes anything. Nothing is said of
when calls fail.

The calls of announcers and queries account for the world: what is under a key after them can be
told from the calls.

## Main definitions

* `Backend.Stores`: a backend that stores.
* `Backend.Does`: what some calls do to a world.

## Main results

* `Backend.Stores.none_of_does`: what is not there stays so, unless it is put.
* `Store.stores_backend`: the store in memory stores.
-/

namespace RollCall

variable {ω : Type} {b : Backend ω}

/-- A backend whose world holds something under some keys, as its calls tell. -/
structure Backend.Stores (b : Backend ω) (content : ω → String → Option (List UInt8)) : Prop where
  put_other (key : String) (data : List UInt8) (w : ω) (key' : String) (h : key' ≠ key) :
    content (b.put key data w).2 key' = content w key'
  delete_ok (key : String) (w : ω) (h : (b.delete key w).1 = .ok ()) :
    content (b.delete key w).2 key = none
  delete_other (key : String) (w : ω) (key' : String) (h : key' ≠ key) :
    content (b.delete key w).2 key' = content w key'
  /-- A deletion that fails may have deleted or not. -/
  delete_self (key : String) (w : ω) :
    content (b.delete key w).2 key = none ∨ content (b.delete key w).2 key = content w key
  get (key : String) (w : ω) : content (b.get key w).2 = content w
  list (keyPrefix : String) (w : ω) : content (b.list keyPrefix w).2 = content w
  checkBucket (w : ω) : content (b.checkBucket w).2 = content w
  close (w : ω) : content (b.close w).2 = content w
  connect (settings : Settings) (w : ω) : content (b.connect settings w).2 = content w

/-- The store in memory stores. -/
theorem Store.stores_backend : Store.backend.Stores Store.get? where
  put_other key data w key' h := (Store.get?_put w key key' data).trans (if_neg h)
  delete_ok key w _ := (Store.get?_delete w key key).trans (if_pos rfl)
  delete_other key w key' h := (Store.get?_delete w key key').trans (if_neg h)
  delete_self key w := .inl ((Store.get?_delete w key key).trans (if_pos rfl))
  get _ _ := rfl
  list _ _ := rfl
  checkBucket _ := rfl
  close _ := rfl
  connect _ _ := rfl

/-- What some calls of announcers and queries do to a world, one after the other. -/
inductive Backend.Does (b : Backend ω) : List Call → ω → ω → Prop
  | nil (w : ω) : Does b [] w w
  | put {calls : List Call} {w w' : ω} (h : Does b calls w w') (n : Nat) (key : String)
      (data : List UInt8) : Does b (calls ++ [.put n key data]) w (b.put key data w').2
  | get {calls : List Call} {w w' : ω} (h : Does b calls w w') (n : Nat) (key : String) :
      Does b (calls ++ [.get n key]) w (b.get key w').2
  | list {calls : List Call} {w w' : ω} (h : Does b calls w w') (n : Nat) (keyPrefix : String) :
      Does b (calls ++ [.list n keyPrefix]) w (b.list keyPrefix w').2
  | delete {calls : List Call} {w w' : ω} (h : Does b calls w w') (n : Nat) (key : String) :
      Does b (calls ++ [.delete n key]) w (b.delete key w').2

namespace Backend.Stores

variable {content : ω → String → Option (List UInt8)} (hb : b.Stores content) {key : String}
include hb

/-- No deletion brings anything back. -/
theorem none_of_delete {w : ω} (h : content w key = none) (key' : String) :
    content (b.delete key' w).2 key = none := by
  by_cases hkey : key = key'
  · subst hkey
    rcases hb.delete_self key w with hnone | hsame
    · exact hnone
    · exact hsame.trans h
  · exact (hb.delete_other key' w key hkey).trans h

/-- **What is not there stays so**, unless it is put. -/
theorem none_of_does {calls : List Call} {w w' : ω} (h : b.Does calls w w')
    (hnone : content w key = none) (hput : ∀ n data, .put n key data ∉ calls) :
    content w' key = none := by
  induction h with
  | nil => exact hnone
  | @put calls w w' h n key' data ih =>
    have hrest := ih hnone fun n data hmem => hput n data (List.mem_append_left _ hmem)
    have hkey : key ≠ key' := by
      rintro rfl
      exact hput n data (List.mem_append_right _ List.mem_cons_self)
    exact (hb.put_other key' data w' key hkey).trans hrest
  | @get calls w w' h n key' ih =>
    have hrest := ih hnone fun n data hmem => hput n data (List.mem_append_left _ hmem)
    rw [hb.get]
    exact hrest
  | @list calls w w' h n keyPrefix ih =>
    have hrest := ih hnone fun n data hmem => hput n data (List.mem_append_left _ hmem)
    rw [hb.list]
    exact hrest
  | @delete calls w w' h n key' ih =>
    have hrest := ih hnone fun n data hmem => hput n data (List.mem_append_left _ hmem)
    exact hb.none_of_delete hrest key'

end Backend.Stores

end RollCall
