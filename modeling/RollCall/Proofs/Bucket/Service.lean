import RollCall.Proofs.Bucket.Repetition
import RollCall.Store.Basic

/-!
# The bucket service

What a client can rely on when it talks to the service about one bucket. The bucket holds objects
under keys, none of which is empty. Every call may be refused some times because the service asks
for patience, and is then answered: a write takes place, a read brings the object or says that there
is none, a deletion takes place and may say that there was nothing to delete. A listing comes in
pages, in the order of the keys. A page may hold any number of keys, also none; one that is cut
short names a token, and a listing that goes on from it begins after the last key that was
delivered. Empty pages do not go on for ever.

Nothing is said of how the client keeps its state: it may be anything of which it can be said what
the bucket holds, which changes took place, and where tokens go on.

## Main definitions

* `Holding`: what a bucket holds, and the changes that took place.
* `Settles`: a call is answered after some throttling errors.
* `Delivers`: a page of a listing.
* `Service`: a client of a bucket, with what it guarantees.
-/

namespace RollCall

/-- The keys of a listing that come after a key, or all of them. -/
def Store.listAfter (m : Store) (keyPrefix : String) (position : Option String) : List String :=
  (m.list keyPrefix).filter fun key => position.all (· < key)

/-- No key of a store is empty. -/
def Store.IsNamed (m : Store) : Prop :=
  ∀ key ∈ m.keys, key ≠ ""

namespace Store

theorem isNamed_empty : empty.IsNamed :=
  fun _ hkey => absurd hkey List.not_mem_nil

theorem IsNamed.put {m : Store} (hm : m.IsNamed) {key : String} (hkey : key ≠ "")
    (body : List UInt8) : (m.put key body).IsNamed := by
  intro k hk
  rw [mem_keys_iff, get?_put] at hk
  by_cases h : k = key
  · exact h ▸ hkey
  · rw [if_neg h, ← mem_keys_iff] at hk
    exact hm k hk

theorem IsNamed.delete {m : Store} (hm : m.IsNamed) (key : String) : (m.delete key).IsNamed := by
  intro k hk
  rw [mem_keys_iff, get?_delete] at hk
  by_cases h : k = key
  · rw [if_pos h] at hk
    cases hk
  · rw [if_neg h, ← mem_keys_iff] at hk
    exact hm k hk

variable {m : Store} {keyPrefix : String} {position : Option String} {now later : List String}

theorem listAfter_none (m : Store) (keyPrefix : String) :
    m.listAfter keyPrefix none = m.list keyPrefix :=
  List.filter_eq_self.2 fun _ _ => rfl

theorem mem_listAfter {key : String} (h : key ∈ m.listAfter keyPrefix position) :
    key ∈ m.list keyPrefix :=
  List.mem_of_mem_filter h

theorem listAfter_pairwise (m : Store) (keyPrefix : String) (position : Option String) :
    (m.listAfter keyPrefix position).Pairwise (· < ·) :=
  (m.list_pairwise keyPrefix).filter _

/-- What comes after a key of a listing is what of the listing is greater. -/
theorem listAfter_of_mem {last : String} (hlast : last ∈ m.listAfter keyPrefix position) :
    m.listAfter keyPrefix (some last) = (m.listAfter keyPrefix position).filter (last < ·) := by
  rw [listAfter, listAfter, List.filter_filter]
  refine List.filter_congr fun key _ => ?_
  cases position with
  | none => exact (Bool.and_true _).symm
  | some first =>
    have hfirst : first < last := of_decide_eq_true (List.mem_filter.1 hlast).2
    change decide (last < key) = (decide (last < key) && decide (first < key))
    by_cases hkey : last < key
    · rw [decide_eq_true hkey, decide_eq_true (String.lt_trans hfirst hkey), Bool.true_and]
    · rw [decide_eq_false hkey, Bool.false_and]

/-- In ascending order, what is greater than a key comes after it. -/
theorem filter_lt_of_pairwise {before later : List String} {last : String}
    (h : (before ++ last :: later).Pairwise (· < ·)) :
    (before ++ last :: later).filter (last < ·) = later := by
  obtain ⟨-, hlater, hbefore⟩ := List.pairwise_append.1 h
  obtain ⟨hlast, -⟩ := List.pairwise_cons.1 hlater
  have hnone : before.filter (last < ·) = [] := by
    refine List.filter_eq_nil_iff.2 fun key hkey hgt => ?_
    have hlt := hbefore key hkey last List.mem_cons_self
    exact String.lt_irrefl key (String.lt_trans hlt (of_decide_eq_true hgt))
  have hself : (last :: later).filter (last < ·) = later.filter (last < ·) :=
    List.filter_cons_of_neg fun hgt => String.lt_irrefl last (of_decide_eq_true hgt)
  have hall : later.filter (last < ·) = later :=
    List.filter_eq_self.2 fun key hkey => decide_eq_true (hlast key hkey)
  rw [List.filter_append, hnone, List.nil_append, hself, hall]

/-- **After the last key that was delivered come the keys that were not.** -/
theorem listAfter_getLast? (h : m.listAfter keyPrefix position = now ++ later) :
    m.listAfter keyPrefix (now.getLast?.or position) = later := by
  rcases List.eq_nil_or_concat' now with rfl | ⟨before, last, rfl⟩
  · exact h
  · rw [List.append_assoc, List.singleton_append] at h
    have hlast : last ∈ m.listAfter keyPrefix position :=
      h ▸ List.mem_append_right before List.mem_cons_self
    rw [List.getLast?_concat, Option.some_or, listAfter_of_mem hlast, h]
    exact filter_lt_of_pairwise (h ▸ m.listAfter_pairwise keyPrefix position)

end Store

namespace Bucket

/-- A change of what a bucket holds. -/
inductive Change
  | put (key : String) (body : List UInt8)
  | delete (key : String)
  deriving DecidableEq, Repr

/-- What a bucket holds, and all changes that took place so far. -/
structure Holding where
  store : Store
  changes : List Change

namespace Holding

/-- An object is written. -/
def put (h : Holding) (key : String) (body : List UInt8) : Holding :=
  ⟨h.store.put key body, h.changes ++ [.put key body]⟩

/-- An object is deleted, if there is one. -/
def delete (h : Holding) (key : String) : Holding :=
  ⟨h.store.delete key, h.changes ++ [.delete key]⟩

end Holding

variable {σ α : Type}

/-- An error that asks for patience. Where an object may be missing, an error that says so does
not ask for patience, whatever else it says. -/
def ServiceError.Throttles (mayMiss : Bool) (e : ServiceError) : Prop :=
  e.isThrottling = true ∧ (mayMiss = true → e.isNotFound = false)

/-- A call is answered after at most `patience` throttling errors, and so that `P` holds of the
answer and of the client afterwards. -/
inductive Settles (mayMiss : Bool) (call : StateM σ (Reply α)) (P : Reply α → σ → Prop) :
    (patience : ℕ) → σ → Prop
  | answered {patience : ℕ} {c : σ} (h : P (call c).1 (call c).2) :
      Settles mayMiss call P patience c
  | throttled {patience : ℕ} {c : σ} {e : ServiceError} (h : (call c).1 = .error (.service e))
      (he : e.Throttles mayMiss) (hrest : Settles mayMiss call P patience (call c).2) :
      Settles mayMiss call P (patience + 1) c

/-- The service says that there is no such object. -/
def Misses (r : Reply α) : Prop :=
  ∃ e : ServiceError, r = .error (.service e) ∧ e.isNotFound = true

/-- What reading a key of a store brings. -/
def Brings (m : Store) (key : String) (r : Reply (List UInt8)) : Prop :=
  (∃ body, m.get? key = some body ∧ r = .ok body) ∨ m.get? key = none ∧ Misses r

/-- A page of a listing that goes on after some position, where at most `idle` empty pages follow
each other. It is the last one and holds all keys that are left, or it is cut short and its token
goes on after the last key delivered. -/
inductive Delivers (holds : σ → Holding → Prop)
    (resumes : σ → String → Value → Option String → ℕ → Prop) (h : Holding) (keyPrefix : String)
    (position : Option String) (idle : ℕ) : Reply Page → σ → Prop
  | last {page : Page} {c : σ} (hc : holds c h) (hfailure : page.failure = none)
      (hentries : page.entries = (h.store.listAfter keyPrefix position).map .text)
      (hend : page.isTruncated = false) :
      Delivers holds resumes h keyPrefix position idle (.ok page) c
  | cut {page : Page} {c : σ} {now later : List String} {idle' : ℕ} (hc : holds c h)
      (hfailure : page.failure = none) (hentries : page.entries = now.map .text)
      (hkeys : h.store.listAfter keyPrefix position = now ++ later)
      (hcut : page.isTruncated = true) (htoken : page.token.isTruthy = true)
      (hresumes : resumes c keyPrefix page.token (now.getLast?.or position) idle')
      (hidle : now = [] → idle' < idle) :
      Delivers holds resumes h keyPrefix position idle (.ok page) c

/-- A client of a bucket, with what it guarantees: no call is throttled more than `patience` times
before it is answered, and the answers are those of a bucket. -/
structure Service (σ : Type) (bucket : String) (patience : ℕ) where
  client : Client σ
  /-- What the bucket holds. -/
  holds : σ → Holding → Prop
  /-- Where a listing with a prefix goes on with a token, and how many empty pages may follow. -/
  resumes : σ → String → Value → Option String → ℕ → Prop
  named {c : σ} {h : Holding} (hc : holds c h) : h.store.IsNamed
  put {c : σ} {h : Holding} (hc : holds c h) {key : String} (hkey : key ≠ "")
    (body : List UInt8) :
    Settles false (client.put bucket key body)
      (fun r c' => r = .ok () ∧ holds c' (h.put key body)) patience c
  get {c : σ} {h : Holding} (hc : holds c h) {key : String} (hkey : key ≠ "") :
    Settles true (client.get bucket key)
      (fun r c' => Brings h.store key r ∧ holds c' h) patience c
  delete {c : σ} {h : Holding} (hc : holds c h) {key : String} (hkey : key ≠ "") :
    Settles true (client.delete bucket key)
      (fun r c' => (r = .ok () ∨ h.store.get? key = none ∧ Misses r) ∧ holds c' (h.delete key))
      patience c
  list {c : σ} {h : Holding} (hc : holds c h) (keyPrefix : String) :
    ∃ idle, Settles false (client.list bucket keyPrefix none)
      (Delivers holds resumes h keyPrefix none idle) patience c
  listOn {c : σ} {h : Holding} (hc : holds c h) {keyPrefix : String} {token : Value}
    {position : Option String} {idle : ℕ} (hresumes : resumes c keyPrefix token position idle) :
    Settles false (client.list bucket keyPrefix (some token))
      (Delivers holds resumes h keyPrefix position idle) patience c

end Bucket

end RollCall
