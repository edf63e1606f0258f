import RollCall.Proofs.Bucket.Clerk
import RollCall.Store.Backend

/-!
# A bucket is a store

The gateway to a bucket answers like a store in memory that holds the same objects: the same
contents, the same listings, and the same keys are missing. Throttling and pages are not seen. A
call is repeated until it is answered, and an answered call is not repeated, so that every operation
takes place once. A listing goes on from page to page, each time after the last key that it has, so
that it ends with the keys of the store.

A gateway is given a number of pages beyond which it asks for no more; every number that is large
enough gives the same.

## Main definitions

* `Errand`: an operation on the objects, done by a gateway or by a store in memory.

## Main results

* `Gateway.listFrom_service`: a listing ends with the keys of the store.
* `bucket_refines_store`: whole runs.
-/

namespace RollCall.Bucket

variable {σ α : Type} {bucket : String} {patience : ℕ}

/-! ### Calls that are answered -/

/-- The calls before the answer are throttled in the sense of an operation. -/
theorem Settles.exists_throttled {t : Task} {call : StateM σ (Reply α)} {P : Reply α → σ → Prop}
    {c : σ} (h : Settles t.mayMiss call P patience c) :
    ∃ k c', k ≤ patience ∧ Throttled t call k c c' ∧ P (call c').1 (call c').2 := by
  induction h with
  | @answered patience c h => exact ⟨0, c, Nat.zero_le _, .none c, h⟩
  | @throttled patience c e h he hrest ih =>
    obtain ⟨k, c', hk, hthrottled, hP⟩ := ih
    refine ⟨k + 1, c', Nat.succ_le_succ hk, .more ?_ hthrottled, hP⟩
    rw [h, Task.isThrottled, he.1, Bool.and_true]
    cases hmiss : t.mayMiss with
    | false => rfl
    | true => rw [he.2 hmiss]; rfl

theorem isThrottled_of_misses {t : Task} (ht : t.mayMiss = true) {r : Reply α} (h : Misses r) :
    t.isThrottled r = false := by
  obtain ⟨e, rfl, he⟩ := h
  rw [Task.isThrottled, ht, he]
  rfl

/-- What is missing is no failure of a call where it may be missing. -/
theorem verdict_of_misses {t : Task} (ht : t.mayMiss = true) {r : Reply α} (h : Misses r) :
    t.verdict r = .ok none := by
  obtain ⟨e, rfl, he⟩ := h
  rw [Task.verdict, ht, he]
  rfl

theorem isThrottled_of_brings {t : Task} (ht : t.mayMiss = true) {m : Store} {key : String}
    {r : Reply (List UInt8)} (h : Brings m key r) : t.isThrottled r = false := by
  rcases h with ⟨body, -, rfl⟩ | ⟨-, h⟩
  · rfl
  · exact isThrottled_of_misses ht h

namespace Gateway

/-- **A call is answered**: throttling is not seen, if the service is patient for fewer errors than
there are attempts. -/
theorem call_of_settles {g : Gateway σ} {t : Task} {send : StateM σ (Reply α)}
    {P : Reply α → σ → Prop} {s : Session σ}
    (hlimit : g.backoff.maxAttempts ≤ 1025) (hpatience : patience < g.backoff.attempts)
    (h : Settles t.mayMiss send P patience s.client)
    (hP : ∀ r c, P r c → t.isThrottled r = false) :
    ∃ r s', P r s'.client ∧ g.call t send s = (t.verdict r, s') := by
  obtain ⟨k, c', hk, hthrottled, hanswer⟩ := h.exists_throttled
  have hattempts : g.backoff.attempts ≤ 1025 := by
    rw [Backoff.attempts]
    omega
  have hpower : 0 + k ≤ Backoff.powerLimit := by
    rw [Backoff.powerLimit]
    omega
  obtain ⟨delays, lines, tally, -, hcall⟩ := callFrom_of_throttled (g := g) hthrottled
    (hP _ _ hanswer) (Nat.lt_of_le_of_lt hk hpatience) hpower rfl
  exact ⟨_, _, hanswer, hcall⟩

end Gateway

/-! ### Operations -/

/-- The gateway to the bucket of a service. -/
def Service.gateway (service : Service σ bucket patience) (backoff : Backoff) : Gateway σ :=
  ⟨bucket, service.client, backoff⟩

namespace Service

variable {service : Service σ bucket patience} {backoff : Backoff}
  (hlimit : backoff.maxAttempts ≤ 1025) (hpatience : patience < backoff.attempts)
  {s : Session σ} {h : Holding} (hs : service.holds s.client h) {key : String}
include hlimit hpatience hs

/-- A write takes place. -/
theorem put_gateway (hkey : key ≠ "") (body : List UInt8) :
    ∃ s', (service.gateway backoff).put key body s = (.ok (), s') ∧
      service.holds s'.client (h.put key body) := by
  obtain ⟨r, s', ⟨rfl, hs'⟩, hcall⟩ := Gateway.call_of_settles (g := service.gateway backoff)
    (t := ⟨.put, key, false⟩) hlimit hpatience (service.put hs hkey body)
    (by rintro r c ⟨rfl, -⟩; rfl)
  exact ⟨s', bind_of_eq hcall _, hs'⟩

/-- A read brings what is stored. -/
theorem get_gateway (hkey : key ≠ "") :
    ∃ s', (service.gateway backoff).get key s = (h.store.get key, s') ∧
      service.holds s'.client h := by
  obtain ⟨r, s', ⟨hr, hs'⟩, hcall⟩ := Gateway.call_of_settles (g := service.gateway backoff)
    (t := ⟨.get, key, true⟩) hlimit hpatience (service.get hs hkey)
    fun r c hr => isThrottled_of_brings rfl hr.1
  refine ⟨s', (bind_of_eq hcall _).trans ?_, hs'⟩
  rw [Store.get]
  rcases hr with ⟨body, hbody, rfl⟩ | ⟨hnone, hmiss⟩
  · rw [hbody]
    rfl
  · rw [hnone, verdict_of_misses rfl hmiss]
    rfl

/-- A deletion takes place, whether or not there is an object. -/
theorem delete_gateway (hkey : key ≠ "") :
    ∃ s', (service.gateway backoff).delete key s = (.ok (), s') ∧
      service.holds s'.client (h.delete key) := by
  obtain ⟨r, s', ⟨hr, hs'⟩, hcall⟩ := Gateway.call_of_settles (g := service.gateway backoff)
    (t := ⟨.delete, key, true⟩) hlimit hpatience (service.delete hs hkey) (by
      rintro r c ⟨rfl | ⟨-, hmiss⟩, -⟩
      · rfl
      · exact isThrottled_of_misses rfl hmiss)
  refine ⟨s', (bind_of_eq hcall _).trans ?_, hs'⟩
  rcases hr with rfl | ⟨-, hmiss⟩
  · rfl
  · rw [verdict_of_misses rfl hmiss]
    rfl

end Service

/-! ### Listings -/

/-- The keys of a page are those delivered, as none of them is empty. -/
theorem keys_of_entries {page : Page} {keys : List String}
    (hentries : page.entries = keys.map .text) (hkeys : ∀ key ∈ keys, key ≠ "") :
    page.keys = keys.map .text := by
  rw [Page.keys, hentries, List.filter_eq_self]
  intro v hv
  obtain ⟨key, hkey, rfl⟩ := List.mem_map.1 hv
  have hne := hkeys key hkey
  simpa [Value.isTruthy] using hne

namespace Service

variable {service : Service σ bucket patience} {backoff : Backoff}
  (hlimit : backoff.maxAttempts ≤ 1025) (hpatience : patience < backoff.attempts)
  {h : Holding} {keyPrefix : String}
include hlimit hpatience

/-- **A listing that goes on from a position** ends with the keys after it: every page either is the
last one, or delivers a key, or is one of finitely many empty pages in a row. -/
theorem listFrom_gateway {position : Option String} {idle : ℕ} {token : Option Value}
    {s : Session σ} (hs : service.holds s.client h)
    (hpage : Settles false (service.client.list bucket keyPrefix token)
      (Delivers service.holds service.resumes h keyPrefix position idle) patience s.client) :
    ∃ s' enough, service.holds s'.client h ∧ ∀ pages ≥ enough,
      (service.gateway backoff).listFrom keyPrefix pages token none s =
        (⟨(h.store.listAfter keyPrefix position).map .text, none⟩, s') := by
  obtain ⟨r, s₁, hr, hcall⟩ := Gateway.call_of_settles (g := service.gateway backoff)
    (t := ⟨.list, keyPrefix, false⟩) hlimit hpatience hpage (by rintro r c (_ | _) <;> rfl)
  have hnamed : ∀ key ∈ h.store.listAfter keyPrefix position, key ≠ "" :=
    fun key hkey => service.named hs key (List.mem_of_mem_filter (Store.mem_listAfter hkey))
  cases hr with
  | @last page _ hs₁ hfailure hentries hend =>
    refine ⟨s₁, 1, hs₁, fun pages hpages => ?_⟩
    obtain ⟨pages, rfl⟩ := Nat.exists_eq_add_of_le' hpages
    have hnext : page.next? = none := by rw [Page.next?, hend]; rfl
    rw [Gateway.listFrom]
    refine (bind_of_eq hcall _).trans ?_
    simp only [Task.verdict, Gateway.isEnough, Bool.false_eq_true, hfailure, hnext,
      keys_of_entries hentries hnamed]
    rfl
  | @cut page _ now later idle' hs₁ hfailure hentries hafter hcut htoken hresumes hidle =>
    have hlater : h.store.listAfter keyPrefix (now.getLast?.or position) = later :=
      Store.listAfter_getLast? hafter
    obtain ⟨s', enough, hs', hrest⟩ := listFrom_gateway
      (s := { s₁ with lines := s₁.lines ++ [⟨.debug, Gateway.nextPageText keyPrefix⟩] }) hs₁
      (service.listOn hs₁ hresumes)
    refine ⟨s', enough + 1, hs', fun pages hpages => ?_⟩
    obtain ⟨pages, rfl⟩ := Nat.exists_eq_add_of_le' (Nat.le_trans (Nat.le_add_left 1 enough) hpages)
    have hnext : page.next? = some page.token := by
      rw [Page.next?, hcut, htoken]
      rfl
    have hdelivered : ∀ key ∈ now, key ≠ "" :=
      fun key hkey => hnamed key (hafter ▸ List.mem_append_left later hkey)
    rw [Gateway.listFrom]
    refine (bind_of_eq hcall _).trans ?_
    simp only [Task.verdict, Gateway.isEnough, Bool.false_eq_true, hfailure, hnext]
    refine (bind_of_eq rfl _).trans ((bind_of_eq (hrest pages (by omega)) _).trans ?_)
    rw [keys_of_entries hentries hdelivered, hlater, hafter, List.map_append]
    rfl
termination_by ((h.store.listAfter keyPrefix position).length, idle)
decreasing_by
  -- What is left after the page is shorter, or the page was one of the empty ones.
  rw [hlater, hafter, List.length_append]
  cases now with
  | nil =>
    rw [List.length_nil, Nat.zero_add]
    exact Prod.Lex.right _ (hidle rfl)
  | cons key now =>
    refine Prod.Lex.left _ _ ?_
    rw [List.length_cons]
    omega

/-- A whole listing ends with the keys that have the prefix. -/
theorem list_gateway {s : Session σ} (hs : service.holds s.client h) (keyPrefix : String) :
    ∃ s' enough, service.holds s'.client h ∧ ∀ pages ≥ enough,
      (service.gateway backoff).list keyPrefix pages none s =
        (⟨(h.store.list keyPrefix).map .text, none⟩, s') := by
  obtain ⟨idle, hpage⟩ := service.list hs keyPrefix
  rw [← h.store.listAfter_none keyPrefix]
  exact listFrom_gateway hlimit hpatience hs hpage

end Service

/-! ### Whole runs -/

/-- An operation on the objects of a bucket or a store; a listing is gone through to its end. -/
inductive Errand
  | put (key : String) (body : List UInt8)
  | get (key : String)
  | delete (key : String)
  | list (keyPrefix : String)
  deriving DecidableEq, Repr

namespace Errand

/-- What comes of an operation. -/
inductive Yield
  | done
  | body (bytes : List UInt8)
  | keys (keys : List Value)
  deriving Repr

/-- The key of an operation is not empty. -/
def IsNamed : Errand → Prop
  | put key _ => key ≠ ""
  | get key => key ≠ ""
  | delete key => key ≠ ""
  | list _ => True

/-- What is made of a listing: its keys, or the failure that ended it early. -/
def ofListed (listed : Gateway.Listed) : Except Failure Yield :=
  match listed.failure with
  | none => .ok (.keys listed.keys)
  | some f => .error f

/-- An operation on a bucket, where a listing asks for up to `pages` pages. -/
def atBucket (g : Gateway σ) (pages : ℕ) : Errand → StateM (Session σ) (Except Failure Yield)
  | put key body => return (← g.put key body).map fun _ => .done
  | get key => return (← g.get key).map .body
  | delete key => return (← g.delete key).map fun _ => .done
  | list keyPrefix => return ofListed (← g.list keyPrefix pages none)

/-- An operation on a store in memory. -/
def inMemory : Errand → StateM Store (Except Failure Yield)
  | put key body => return (← Store.backend.put key body).map fun _ => .done
  | get key => return (← Store.backend.get key).map .body
  | delete key => return (← Store.backend.delete key).map fun _ => .done
  | list keyPrefix => return (← Store.backend.list keyPrefix).map fun keys => .keys (keys.map .text)

/-- The changes of an operation. -/
def changes : Errand → List Change
  | put key body => [.put key body]
  | get _ => []
  | delete key => [.delete key]
  | list _ => []

/-- Some operations, one after the other. -/
def doAll (perform : Errand → StateM σ (Except Failure Yield)) :
    List Errand → StateM σ (List (Except Failure Yield))
  | [] => return []
  | errand :: errands => return (← perform errand) :: (← doAll perform errands)

end Errand

/-- **One operation**: the answer is that of the store, and the bucket holds afterwards what the
store does, after the changes of the operation and no other. -/
theorem Service.errand_gateway (service : Service σ bucket patience) {backoff : Backoff}
    (hlimit : backoff.maxAttempts ≤ 1025) (hpatience : patience < backoff.attempts)
    {s : Session σ} {h : Holding} (hs : service.holds s.client h) {errand : Errand}
    (herrand : errand.IsNamed) :
    ∃ s' enough,
      service.holds s'.client ⟨(errand.inMemory h.store).2, h.changes ++ errand.changes⟩ ∧
      ∀ pages ≥ enough,
        errand.atBucket (service.gateway backoff) pages s = ((errand.inMemory h.store).1, s') := by
  cases errand with
  | put key body =>
    obtain ⟨s', hput, hs'⟩ := put_gateway hlimit hpatience hs herrand body
    exact ⟨s', 0, hs', fun pages _ => bind_of_eq hput _⟩
  | get key =>
    obtain ⟨s', hget, hs'⟩ := get_gateway hlimit hpatience hs herrand
    exact ⟨s', 0, (List.append_nil h.changes).symm ▸ hs', fun pages _ => bind_of_eq hget _⟩
  | delete key =>
    obtain ⟨s', hdelete, hs'⟩ := delete_gateway hlimit hpatience hs herrand
    exact ⟨s', 0, hs', fun pages _ => bind_of_eq hdelete _⟩
  | list keyPrefix =>
    obtain ⟨s', enough, hs', hlist⟩ := list_gateway hlimit hpatience hs keyPrefix
    refine ⟨s', enough, (List.append_nil h.changes).symm ▸ hs', fun pages hpages => ?_⟩
    exact bind_of_eq (hlist pages hpages) _

/-- **A bucket is a store**: in every run of operations the gateway to a bucket brings the same
results and the same failures as a store in memory with the same contents, whatever is throttled and
wherever pages end. In the end the bucket holds what the store does, and every change took place
once. -/
theorem bucket_refines_store (service : Service σ bucket patience) {backoff : Backoff}
    (hlimit : backoff.maxAttempts ≤ 1025) (hpatience : patience < backoff.attempts)
    {s : Session σ} {h : Holding} (hs : service.holds s.client h) {errands : List Errand}
    (herrands : ∀ errand ∈ errands, errand.IsNamed) :
    ∃ s' enough,
      service.holds s'.client ⟨(Errand.doAll Errand.inMemory errands h.store).2,
        h.changes ++ errands.flatMap Errand.changes⟩ ∧
      ∀ pages ≥ enough,
        Errand.doAll (Errand.atBucket (service.gateway backoff) pages) errands s =
          ((Errand.doAll Errand.inMemory errands h.store).1, s') := by
  induction errands generalizing s h with
  | nil => exact ⟨s, 0, (List.append_nil h.changes).symm ▸ hs, fun _ _ => rfl⟩
  | cons errand errands ih =>
    obtain ⟨herrand, herrands⟩ := List.forall_mem_cons.1 herrands
    obtain ⟨s₁, enough, hs₁, hfirst⟩ := service.errand_gateway hlimit hpatience hs herrand
    obtain ⟨s', enough', hs', hrest⟩ := ih hs₁ herrands
    rw [List.append_assoc] at hs'
    refine ⟨s', max enough enough', hs', fun pages hpages => ?_⟩
    have hfirst := hfirst pages (Nat.le_trans (Nat.le_max_left ..) hpages)
    have hrest := hrest pages (Nat.le_trans (Nat.le_max_right ..) hpages)
    exact (bind_of_eq hfirst _).trans (bind_of_eq hrest _)

/-- Three objects. -/
def shelf : Holding :=
  ⟨((Store.empty.put "n/a" [1]).put "n/b" [2]).put "n/c" [3], []⟩

/-- Some operations, with a key that is missing and one that was never there. -/
def rounds : List Errand :=
  [.list "n/", .put "n/d" [4], .get "m", .delete "n/x", .delete "n/b", .list "n/"]

/-- A clerk who minds the three objects, asks for patience up to three times and leaves some pages
empty. -/
def sluggish : Clerk :=
  ⟨shelf, 3, [(0, 3), (1, 0), (0, 2), (2, 1), (5, 3)]⟩

/-- What the clerk answers, in four attempts for each call. -/
theorem bucket_refines_store_sluggish :
    Backoff.standard.maxAttempts ≤ 1025 ∧ 3 < Backoff.standard.attempts ∧
      (Clerk.service "b" 3).holds sluggish shelf ∧ (∀ errand ∈ rounds, errand.IsNamed) ∧
      ∃ s' enough,
        (Clerk.service "b" 3).holds s'.client ⟨(Errand.doAll Errand.inMemory rounds shelf.store).2,
          [.put "n/d" [4], .delete "n/x", .delete "n/b"]⟩ ∧
        ∀ pages ≥ enough,
          Errand.doAll (Errand.atBucket ((Clerk.service "b" 3).gateway .standard) pages) rounds
              (.start sluggish .empty) =
            ([.ok (.keys [.text "n/a", .text "n/b", .text "n/c"]), .ok .done,
              .error (.notFound (some "m")), .ok .done, .ok .done,
              .ok (.keys [.text "n/a", .text "n/c", .text "n/d"])], s') := by
  have hlimit : Backoff.standard.maxAttempts ≤ 1025 := by decide
  have hpatience : 3 < Backoff.standard.attempts := by decide
  have hnamed : shelf.store.IsNamed :=
    ((Store.isNamed_empty.put (by decide) [1]).put (by decide) [2]).put (by decide) [3]
  have hholds : (Clerk.service "b" 3).holds sluggish shelf := ⟨rfl, Nat.le_refl 3, hnamed⟩
  have hrounds : ∀ errand ∈ rounds, errand.IsNamed := by
    simp [rounds, Errand.IsNamed]
  exact ⟨hlimit, hpatience, hholds, hrounds,
    bucket_refines_store (Clerk.service "b" 3) (s := .start sluggish .empty) hlimit hpatience hholds
      hrounds⟩

end RollCall.Bucket
