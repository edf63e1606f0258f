import Mathlib.Data.List.Induction
import RollCall.Proofs.Since
import RollCall.Store.Basic

/-!
# What a store holds after a history

A store is gone through while it changes: objects are put and deleted, and now and then the next key
of a listing is asked for. What the store holds in the end can be read off the history, key by key:
what was put last, unless it was deleted since. And the answers of the listing are the keys that
were there when it was asked for the first time, one after the other, whatever was put and deleted
afterwards. A listing that was not asked yet does not depend on when it was made.

## Main definitions

* `Event`: what may happen to a store while a listing is gone through.
* `Walk`, `Walk.after`: a store with a listing, and what a history leaves of it.
* `Holds`: what is under a key, as the history says.

## Main results

* `holds_concat_iff`: what one more event does to what is held.
* `Walk.get?_after`: a store holds what its history says.
* `Walk.answers_after`: a listing answers with what was there when it was first asked.
* `Walk.mirrors_after`: everything about a store and its listing is as the history says.
-/

namespace RollCall.Store

/-- What may happen to a store while a listing is gone through. -/
inductive Event
  /-- An object is put under a key. -/
  | put (key : String) (data : List UInt8)
  /-- The object under a key is deleted, if there is one. -/
  | delete (key : String)
  /-- The next key of the listing is asked for. -/
  | next
  deriving DecidableEq

/-- The event puts or deletes the object under a key. -/
def Event.Concerns (key : String) : Event → Prop
  | .put k _ | .delete k => k = key
  | .next => False

/-- The object was put under the key, and neither was another one since nor was it deleted. -/
def Holds (key : String) (data : List UInt8) (history : List Event) : Prop :=
  ∃ before since, history = before ++ .put key data :: since ∧ ∀ e ∈ since, ¬ e.Concerns key

/-! ### What is held -/

section Histories

variable {key : String} {data : List UInt8} {history : List Event} {event : Event}

theorem holds_iff_since : Holds key data history ↔
    Since (fun _ e => e = .put key data) (fun e => ¬ e.Concerns key) history := by
  constructor
  · rintro ⟨before, since, rfl, hsince⟩
    exact ⟨before, _, since, rfl, rfl, hsince⟩
  · rintro ⟨before, _, since, rfl, rfl, hsince⟩
    exact ⟨before, since, rfl, hsince⟩

theorem not_holds_nil : ¬ Holds key data [] := by
  rw [holds_iff_since]
  exact not_since_nil

/-- **What is held after one more event** was put by it, or it was held before and the event does
not concern its key. -/
theorem holds_concat_iff : Holds key data (history ++ [event]) ↔
    event = .put key data ∨ (¬ event.Concerns key ∧ Holds key data history) := by
  rw [holds_iff_since, since_concat_iff, holds_iff_since]

end Histories

/-! ### Stores with a listing -/

/-- A store and a listing of it, with all that the listing answered so far; without a key it says
that there are no more. -/
structure Walk where
  store : Store
  listing : Listing
  answers : List (Option String)

namespace Walk

/-- What an event makes of a store and its listing. -/
def step (w : Walk) : Event → Walk
  | .put key data => { w with store := w.store.put key data }
  | .delete key => { w with store := w.store.delete key }
  | .next =>
    let (answer, listing) := w.listing.next w.store
    { w with listing, answers := w.answers ++ [answer] }

/-- An empty store, with a listing that was not asked for a key yet. -/
def initial (keyPrefix : String) : Walk :=
  ⟨empty, .fresh keyPrefix, []⟩

/-- What a history makes of an empty store and a listing, the first event of which comes first. -/
def after (keyPrefix : String) (history : List Event) : Walk :=
  history.foldl step (initial keyPrefix)

variable {w : Walk} {keyPrefix key : String} {data : List UInt8} {history before later : List Event}
  {event : Event} {rest : List String}

theorem after_concat (keyPrefix : String) (history : List Event) (event : Event) :
    after keyPrefix (history ++ [event]) = (after keyPrefix history).step event := by
  rw [after, List.foldl_concat, after]

/-! ### The store -/

/-- **One event**: what it puts is held, what it concerns otherwise is gone, and the rest stays. -/
theorem get?_step : (w.step event).store.get? key = some data ↔
    event = .put key data ∨ (¬ event.Concerns key ∧ w.store.get? key = some data) := by
  cases event with
  | put k d =>
    change (w.store.put k d).get? key = some data ↔ _
    rw [get?_put]
    by_cases hk : key = k
    · subst hk
      simp [Event.Concerns]
    · simp [Event.Concerns, hk, Ne.symm hk]
  | delete k =>
    change (w.store.delete k).get? key = some data ↔ _
    rw [get?_delete]
    by_cases hk : key = k
    · subst hk
      simp [Event.Concerns]
    · simp [Event.Concerns, hk, Ne.symm hk]
  | next => simp [step, Event.Concerns]

/-- **A store holds what its history says.** -/
theorem get?_after (keyPrefix : String) :
    (after keyPrefix history).store.get? key = some data ↔ Holds key data history := by
  induction history using List.reverseRecOn with
  | nil => simp [after, initial, empty, get?, not_holds_nil]
  | append_singleton history event ih => rw [after_concat, get?_step, holds_concat_iff, ih]

/-! ### The listing -/

/-- Before it is asked, a listing has not looked at the store, and answered nothing. -/
theorem listing_after (keyPrefix : String) (h : .next ∉ before) :
    (after keyPrefix before).listing = .fresh keyPrefix ∧ (after keyPrefix before).answers = [] := by
  induction before using List.reverseRecOn with
  | nil => exact ⟨rfl, rfl⟩
  | append_singleton before event ih =>
    rw [List.mem_append, not_or, List.mem_singleton] at h
    rw [after_concat]
    cases event with
    | put | delete => exact ih h.1
    | next => exact absurd rfl h.2

/-- **A listing that has begun** goes on with the keys that it took, whatever happens to the
store. -/
theorem answers_foldl_step (h : w.listing = .begun rest) :
    (later.foldl step w).answers =
      w.answers ++ (List.range (later.count .next)).map (rest[·]?) := by
  induction later generalizing w rest with
  | nil => simp
  | cons event later ih =>
    rw [List.foldl_cons]
    cases event with
    | put k d => simpa [step] using ih (w := w.step (.put k d)) h
    | delete k => simpa [step] using ih (w := w.step (.delete k)) h
    | next =>
      have hstep : w.step .next = ⟨w.store, .begun rest.tail, w.answers ++ [rest[0]?]⟩ := by
        simp [step, h, Listing.next, List.head?_eq_getElem?]
      rw [hstep, ih rfl, List.count_cons_self, List.range_succ_eq_map]
      simp [Function.comp_def]

/-- **A listing answers with what was there when it was first asked**, one key after the other, and
then that there are no more. -/
theorem answers_after (h : .next ∉ before) :
    (after keyPrefix (before ++ .next :: later)).answers =
      (List.range (later.count .next + 1)).map
        (((after keyPrefix before).store.list keyPrefix)[·]?) := by
  obtain ⟨hlisting, hanswers⟩ := listing_after keyPrefix h
  -- When it is asked for the first time, it is like one that took its keys at that moment.
  have hbegun : (after keyPrefix before).step .next =
      { after keyPrefix before with
        listing := .begun ((after keyPrefix before).store.list keyPrefix) }.step .next := by
    simp [step, hlisting, Listing.next]
  rw [after, List.foldl_append, ← after, List.foldl_cons, hbegun, ← List.foldl_cons,
    answers_foldl_step rfl, hanswers, List.count_cons_self, List.nil_append]

/-! ### Everything together -/

/-- A store and its listing are as a history says. -/
structure Mirrors (w : Walk) (keyPrefix : String) (history : List Event) : Prop where
  /-- Reading a key brings what was put there last and not deleted since. -/
  get_eq_ok_iff (key : String) (data : List UInt8) :
    w.store.get key = .ok data ↔ Holds key data history
  /-- If there is no such object, reading fails, and the failure names the key. -/
  get_eq_error_iff (key : String) (f : Failure) :
    w.store.get key = .error f ↔ f = .notFound (some key) ∧ ∀ data, ¬ Holds key data history
  /-- The keys are in ascending order, each once. -/
  keys_ascending : w.store.keys.Pairwise (· < ·)
  /-- The keys are those that can be read. -/
  mem_keys_iff (key : String) : key ∈ w.store.keys ↔ ∃ data, w.store.get key = .ok data
  /-- A listing that was not asked answered nothing. -/
  unasked (h : .next ∉ history) : w.answers = []
  /-- A listing answers with the keys that have the prefix and were there when it was first asked,
  in ascending order and each once, and then that there are no more. -/
  asked (before later : List Event) (hhistory : history = before ++ .next :: later)
    (hbefore : .next ∉ before) :
    ∃ found : List String, found.Pairwise (· < ·) ∧
      (∀ key, key ∈ found ↔ keyPrefix.toList <+: key.toList ∧ ∃ data, Holds key data before) ∧
      w.answers = (List.range (later.count .next + 1)).map (found[·]?)

/-- **A store is a map whose listings are snapshots.** After every history of puts, deletions and
requests for the next key of a listing, everything about the store and the listing is as the history
says. -/
theorem mirrors_after (keyPrefix : String) (history : List Event) :
    (after keyPrefix history).Mirrors keyPrefix history := by
  refine ⟨fun key data => ?_, fun key f => ?_, keys_pairwise _, fun key => ?_, fun h => ?_,
    fun before later hhistory hbefore => ?_⟩
  · rw [Store.get_eq_ok_iff, get?_after]
  · simp only [← get?_after keyPrefix, get]
    cases (after keyPrefix history).store.get? key <;> simp [eq_comm]
  · simp only [Store.get_eq_ok_iff, Store.mem_keys_iff, Option.isSome_iff_exists]
  · exact (listing_after keyPrefix h).2
  · subst hhistory
    refine ⟨_, list_pairwise _ keyPrefix, fun key => ?_, answers_after hbefore⟩
    rw [mem_list_iff, hasPrefix, List.isPrefixOf_iff_prefix, Option.isSome_iff_exists]
    simp only [get?_after]

/-- A listing names a key that was deleted since it began, and none that was put since. -/
example : (after "a/" [.put "a/1" [1], .put "a/3" [3], .put "b/1" [], .next, .delete "a/3",
    .put "a/2" [2], .next, .next]).answers = [some "a/1", some "a/3", none] := by
  decide

end Walk

end RollCall.Store
