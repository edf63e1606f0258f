import Mathlib.Logic.Function.Iterate
import Mathlib.Tactic.IntervalCases
import RollCall.Bucket.Script
import RollCall.Proofs.Bucket.Repetition

/-!
# Patience

While the service asks for patience, an operation makes the same call again, and waits in between.
The first call that ends in anything else decides what becomes of the operation, and no call is made
after it. If every attempt is met with a request for patience, the operation fails, with the number
of attempts, and does not wait after the last one.

Nothing is assumed of the client: what its calls end in is any sequence of outcomes, and may depend
on the calls before.

## Main definitions

* `Demand`: an operation whose calls are repeated, by what it brings.
* `Demand.AsksPatience`: an outcome that lets the call be made again.
* `Demand.Concludes`: what becomes of an operation that is decided by an outcome.
* `Client.noted`: a client that keeps the requests made to it.
* `outcome`: the outcomes of calls in a row.

## Main results

* `Gateway.callFrom_exhausted`: the calls of an operation that is never answered.
* `Demand.isThrottled_iff`, `Demand.perform_of_call`: the rules above are those of the gateway.
* `Demand.perform_answered`, `Demand.perform_exhausted`: the two ways for an operation to end.
* `first_answer_decides`: the law of all four operations.
-/

namespace RollCall.Bucket

variable {σ α : Type}

/-! ### Calls in a row -/

/-- The state of a client after some calls in a row. -/
def stateAfter (send : StateM σ (Reply α)) (n : ℕ) (c : σ) : σ :=
  (fun c => (send c).2)^[n] c

/-- What the call of a number ends in, where calls are made in a row and counted from zero. -/
def outcome (send : StateM σ (Reply α)) (c : σ) (i : ℕ) : Reply α :=
  (send (stateAfter send i c)).1

theorem stateAfter_succ (send : StateM σ (Reply α)) (n : ℕ) (c : σ) :
    stateAfter send (n + 1) c = (send (stateAfter send n c)).2 :=
  Function.iterate_succ_apply' _ n c

/-- Calls in a row that all end in throttling. -/
theorem throttled_of_outcome {t : Task} {send : StateM σ (Reply α)} {n : ℕ} {c : σ}
    (h : ∀ i < n, t.isThrottled (outcome send c i) = true) :
    Throttled t send n c (stateAfter send n c) := by
  induction n generalizing c with
  | zero => exact .none c
  | succ n ih =>
    have hfirst : t.isThrottled (send c).1 = true := h 0 n.succ_pos
    exact .more hfirst (ih fun i hi => h (i + 1) (Nat.succ_lt_succ hi))

namespace Gateway

variable {g : Gateway σ} {t : Task} {send : StateM σ (Reply α)}

/-- A call that is throttled is the last one if no attempts are left. -/
theorem callFrom_last {s : Session σ} (h : t.isThrottled (send s.client).1 = true)
    (attempt : ℕ) : g.callFrom t send 1 attempt s =
      (.error (.throttled t.operation.name (some t.key) g.backoff.attempts),
        counted t send s) := by
  rw [callFrom]
  refine (bind_of_eq rfl _).trans ((bind_of_eq rfl _).trans ?_)
  rw [h, if_pos rfl, if_pos rfl]
  rfl

/-- **An operation that is never answered** fails after its attempts, with a delay after each but
the last, if the delays stay in the range of floating-point numbers. -/
theorem callFrom_exhausted {left : ℕ} {c c' : σ} (h : Throttled t send (left + 1) c c')
    {attempt : ℕ} (hpower : attempt + left ≤ Backoff.powerLimit) {s : Session σ}
    (hs : s.client = c) :
    ∃ delays lines tally, delays.length = left ∧
      g.callFrom t send (left + 1) attempt s =
        (.error (.throttled t.operation.name (some t.key) g.backoff.attempts),
          ⟨c', s.sleeps ++ delays, lines, tally⟩) := by
  induction left generalizing c attempt s with
  | zero =>
    obtain _ | ⟨hfirst, ⟨⟩⟩ := h
    subst hs
    refine ⟨[], s.lines, (counted t send s).tally, rfl, ?_⟩
    rw [callFrom_last hfirst, List.append_nil]
    rfl
  | succ left ih =>
    obtain _ | ⟨hfirst, hrest⟩ := h
    subst hs
    obtain ⟨delay, lines, hagain⟩ :=
      callFrom_throttled (g := g) hfirst left (show attempt < Backoff.powerLimit by omega)
    obtain ⟨delays, lines', tally, hlength, hrest⟩ := ih hrest
      (show attempt + 1 + left ≤ Backoff.powerLimit by omega)
      (s := { counted t send s with sleeps := s.sleeps ++ [delay], lines }) rfl
    refine ⟨delay :: delays, lines', tally, congrArg (· + 1) hlength, ?_⟩
    rw [hagain, hrest, List.append_assoc]
    rfl

/-! ### Pages -/

/-- Asks for a page of a listing. -/
def page (g : Gateway σ) (keyPrefix : String) (token : Option Value) :
    StateM (Session σ) (Except Failure Page) := do
  match ← g.call ⟨.list, keyPrefix, false⟩ (g.client.list g.bucket keyPrefix token) with
  | .ok (some page) => return .ok page
  | .ok none => return .ok .last
  | .error f => return .error f

/-- A listing asks for its pages so, one after the other. -/
theorem listFrom_succ (g : Gateway σ) (keyPrefix : String) (pages : ℕ) (token : Option Value)
    (wanted : Option ℕ) (s : Session σ) :
    g.listFrom keyPrefix (pages + 1) token wanted s =
      (do
        match ← g.page keyPrefix token with
        | .error f => return ⟨[], some f⟩
        | .ok page =>
          if isEnough wanted page.keys then return ⟨page.keys.take (wanted.getD 0), none⟩
          match page.failure, page.next? with
          | some f, _ => return ⟨page.keys, some f⟩
          | none, none => return ⟨page.keys, none⟩
          | none, some token =>
            Session.say .debug (nextPageText keyPrefix)
            let rest ← g.listFrom keyPrefix pages (some token) (wanted.map (· - page.keys.length))
            return ⟨page.keys ++ rest.keys, rest.failure⟩ : StateM (Session σ) Listed) s := by
  obtain ⟨r, s', hcall⟩ : ∃ r s', g.call ⟨.list, keyPrefix, false⟩
      (g.client.list g.bucket keyPrefix token) s = (r, s') := ⟨_, _, rfl⟩
  rw [listFrom, bind_of_eq hcall]
  rcases r with f | _ | page
  · have hpage : g.page keyPrefix token s = (.error f, s') := bind_of_eq hcall _
    rw [bind_of_eq hpage]
  · -- A page that is nothing has no keys and ends the listing.
    have hpage : g.page keyPrefix token s = (.ok .last, s') := bind_of_eq hcall _
    refine .trans ?_ (bind_of_eq hpage _).symm
    rcases wanted with _ | _ | n <;> rfl
  · have hpage : g.page keyPrefix token s = (.ok page, s') := bind_of_eq hcall _
    refine .trans ?_ (bind_of_eq hpage _).symm
    rfl

end Gateway

/-! ### Requests -/

/-- A call whose request is kept, behind those made before. -/
def noting (request : Request) (send : StateM σ α) : StateM (σ × List Request) α :=
  fun c => ((send c.1).1, (send c.1).2, c.2 ++ [request])

/-- A client that keeps the requests made to it. -/
def Client.noted (c : Client σ) : Client (σ × List Request) where
  put bucket key body := noting (.putObject bucket key body) (c.put bucket key body)
  get bucket key := noting (.getObject bucket key) (c.get bucket key)
  list bucket keyPrefix token :=
    noting (.listObjects bucket keyPrefix token) (c.list bucket keyPrefix token)
  delete bucket key := noting (.deleteObject bucket key) (c.delete bucket key)
  head bucket := noting (.headBucket bucket) (c.head bucket)
  close := noting .close c.close

/-- A gateway whose client keeps the requests made to it. -/
def Gateway.noted (g : Gateway σ) : Gateway (σ × List Request) :=
  ⟨g.bucket, g.client.noted, g.backoff⟩

section

variable (request : Request) (send : StateM σ (Reply α))

/-- Some calls in a row leave their request as often as they are made. -/
theorem stateAfter_noting (n : ℕ) (c : σ × List Request) :
    stateAfter (noting request send) n c =
      (stateAfter send n c.1, c.2 ++ List.replicate n request) := by
  induction n generalizing c with
  | zero => exact Prod.ext rfl (List.append_nil _).symm
  | succ n ih =>
    refine (ih (noting request send c).2).trans (Prod.ext rfl ?_)
    exact List.append_assoc ..

theorem outcome_noting (c : σ × List Request) (i : ℕ) :
    outcome (noting request send) c i = outcome send c.1 i := by
  rw [outcome, stateAfter_noting]
  rfl

end

/-! ### Operations -/

/-- An operation whose calls are repeated, by the type of what it brings. -/
inductive Demand : Type → Type
  | put (key : String) (body : List UInt8) : Demand Unit
  | get (key : String) : Demand (List UInt8)
  | delete (key : String) : Demand Unit
  /-- A page of a listing, the first or the one of a token. -/
  | page (keyPrefix : String) (token : Option Value) : Demand Page

namespace Demand

/-- The kind of an operation. -/
def operation : Demand α → Operation
  | put _ _ => .put
  | get _ => .get
  | delete _ => .delete
  | page _ _ => .list

/-- The key of an operation, for a page the prefix. -/
def key : Demand α → String
  | put key _ | get key | delete key => key
  | page keyPrefix _ => keyPrefix

/-- What becomes of an operation on an object that does not exist, if that is no error. -/
def absent : Demand α → Option (Except Failure α)
  | get key => some (.error (.notFound (some key)))
  | delete _ => some (.ok ())
  | put _ _ | page _ _ => none

/-- The request that an operation makes. -/
def request (bucket : String) : Demand α → Request
  | put key body => .putObject bucket key body
  | get key => .getObject bucket key
  | delete key => .deleteObject bucket key
  | page keyPrefix token => .listObjects bucket keyPrefix token

/-- The call that an operation makes. -/
def send (c : Client σ) (bucket : String) : Demand α → StateM σ (Reply α)
  | put key body => c.put bucket key body
  | get key => c.get bucket key
  | delete key => c.delete bucket key
  | page keyPrefix token => c.list bucket keyPrefix token

/-- Does an operation. -/
def perform (g : Gateway σ) : Demand α → StateM (Session σ) (Except Failure α)
  | put key body => g.put key body
  | get key => g.get key
  | delete key => g.delete key
  | page keyPrefix token => g.page keyPrefix token

/-- What is asked of the store in an operation. -/
def task (d : Demand α) : Task :=
  ⟨d.operation, d.key, d.absent.isSome⟩

variable {d : Demand α}

/-- An outcome that lets the call be made again: an error with a code of throttling or the status
for too many requests. Where an object may be missing, an error with a code that says so is none. -/
def AsksPatience (d : Demand α) : Reply α → Prop
  | .error (.service e) => (e.code ∈ ServiceError.throttlingCodes ∨ e.status = some 429) ∧
      (d.absent.isSome = true → e.code ∉ ServiceError.notFoundCodes)
  | _ => False

/-- What becomes of an operation that is decided by an outcome. -/
inductive Concludes (d : Demand α) : Reply α → Except Failure α → Prop
  | brought (a : α) : Concludes d (.ok a) (.ok a)
  | missing {e : ServiceError} {result : Except Failure α} (habsent : d.absent = some result)
      (he : e.code ∈ ServiceError.notFoundCodes) : Concludes d (.error (.service e)) result
  | reported {e : ServiceError}
      (he : d.absent.isSome = true → e.code ∉ ServiceError.notFoundCodes) :
      Concludes d (.error (.service e))
        (.error (.store d.operation.name (some d.key) (e.code ++ ": " ++ e.message)))
  | outage (cause : Outage) : Concludes d (.error (.outage cause))
      (.error (.store d.operation.name (some d.key) cause.message))
  | other (f : Failure) : Concludes d (.error (.other f)) (.error f)

theorem isNotFound_iff {e : ServiceError} :
    e.isNotFound = true ↔ e.code ∈ ServiceError.notFoundCodes :=
  List.contains_iff_mem

theorem isThrottling_iff {e : ServiceError} :
    e.isThrottling = true ↔ e.code ∈ ServiceError.throttlingCodes ∨ e.status = some 429 := by
  rw [ServiceError.isThrottling, Bool.or_eq_true, List.contains_iff_mem, beq_iff_eq]

/-- **What is throttled** is what asks for patience. -/
theorem isThrottled_iff {r : Reply α} : d.task.isThrottled r = true ↔ d.AsksPatience r := by
  rcases r with (e | cause | f) | a
  · rw [Task.isThrottled, AsksPatience, Bool.and_eq_true, and_comm, isThrottling_iff,
      ← isNotFound_iff]
    refine and_congr_right fun _ => ?_
    change (!(d.absent.isSome && e.isNotFound)) = true ↔ _
    cases d.absent.isSome <;> simp
  all_goals exact iff_of_false Bool.false_ne_true id

/-- A failure of the calls is one of the operation. -/
theorem perform_of_error {g : Gateway σ} {s s' : Session σ} {f : Failure}
    (h : g.call d.task (d.send g.client g.bucket) s = (.error f, s')) :
    d.perform g s = (.error f, s') := by
  cases d <;> exact bind_of_eq h _

/-- **What becomes of an operation** is what its last outcome decides. -/
theorem perform_of_call {g : Gateway σ} {s s' : Session σ} {r : Reply α}
    (h : g.call d.task (d.send g.client g.bucket) s = (d.task.verdict r, s')) :
    ∃ result, d.perform g s = (result, s') ∧ d.Concludes r result := by
  rcases r with (e | cause | f) | a
  · by_cases hmiss : d.absent.isSome = true ∧ e.code ∈ ServiceError.notFoundCodes
    · obtain ⟨result, habsent⟩ := Option.isSome_iff_exists.1 hmiss.1
      have hverdict : d.task.verdict (.error (.service e) : Reply α) = .ok none :=
        if_pos (Bool.and_eq_true_iff.2 ⟨hmiss.1, isNotFound_iff.2 hmiss.2⟩)
      rw [hverdict] at h
      refine ⟨result, ?_, .missing habsent hmiss.2⟩
      cases d <;> cases habsent <;> exact bind_of_eq h _
    · have hverdict : d.task.verdict (.error (.service e) : Reply α) =
          .error (.store d.operation.name (some d.key) (e.code ++ ": " ++ e.message)) :=
        if_neg fun hand => hmiss ((Bool.and_eq_true_iff.1 hand).imp_right isNotFound_iff.1)
      rw [hverdict] at h
      exact ⟨_, perform_of_error h, .reported fun habsent hcode => hmiss ⟨habsent, hcode⟩⟩
  · exact ⟨_, perform_of_error h, .outage cause⟩
  · exact ⟨_, perform_of_error h, .other f⟩
  · refine ⟨.ok a, ?_, .brought a⟩
    cases d <;> exact bind_of_eq h _

/-- The call of an operation leaves its request with a client that keeps requests. -/
theorem send_noted (g : Gateway σ) (d : Demand α) :
    d.send g.noted.client g.noted.bucket =
      noting (d.request g.bucket) (d.send g.client g.bucket) := by
  cases d <;> rfl

/-- What the call of a number ends in, where an operation makes its call again and again. -/
def outcome (d : Demand α) (g : Gateway σ) (c : σ) (i : ℕ) : Reply α :=
  Bucket.outcome (d.send g.client g.bucket) c i

/-- What an operation leaves that makes its call so many times and waits so often. -/
structure Leaves (d : Demand α) (g : Gateway σ) (calls waits : ℕ)
    (s s' : Session (σ × List Request)) : Prop where
  client : s'.client.1 = stateAfter (d.send g.client g.bucket) calls s.client.1
  requests : s'.client.2 = s.client.2 ++ List.replicate calls (d.request g.bucket)
  sleeps : ∃ delays : List Binary64, s'.sleeps = s.sleeps ++ delays ∧ delays.length = waits

section

variable {g : Gateway σ}

theorem outcome_noted (c : σ × List Request) (i : ℕ) :
    Bucket.outcome (d.send g.noted.client g.noted.bucket) c i = d.outcome g c.1 i := by
  rw [send_noted, outcome_noting]
  rfl

/-- What asks for patience of a client is throttled, also where the requests are kept. -/
theorem throttled_noted {n : ℕ} {c : σ × List Request}
    (h : ∀ i < n, d.AsksPatience (d.outcome g c.1 i)) :
    Throttled d.task (d.send g.noted.client g.noted.bucket) n c
      (stateAfter (d.send g.noted.client g.noted.bucket) n c) := by
  refine throttled_of_outcome fun i hi => ?_
  rw [outcome_noted]
  exact isThrottled_iff.2 (h i hi)

theorem leaves_noted {calls waits : ℕ} {s : Session (σ × List Request)} {delays : List Binary64}
    (hlength : delays.length = waits) (lines : List Logging.Line) (tally : Tally) :
    d.Leaves g calls waits s
      ⟨stateAfter (d.send g.noted.client g.noted.bucket) calls s.client, s.sleeps ++ delays,
        lines, tally⟩ := by
  rw [send_noted, stateAfter_noting]
  exact ⟨rfl, rfl, delays, rfl, hlength⟩

/-- **An answered operation**: the first answer among its attempts decides. -/
theorem perform_answered (hlimit : g.backoff.attempts ≤ Backoff.powerLimit + 1)
    {s : Session (σ × List Request)} {k : ℕ} (hk : k < g.backoff.attempts)
    (hbefore : ∀ i < k, d.AsksPatience (d.outcome g s.client.1 i))
    (hanswer : ¬ d.AsksPatience (d.outcome g s.client.1 k)) :
    ∃ result s', d.perform g.noted s = (result, s') ∧
      d.Concludes (d.outcome g s.client.1 k) result ∧ d.Leaves g (k + 1) k s s' := by
  rw [← outcome_noted, ← isThrottled_iff, Bool.not_eq_true] at hanswer
  obtain ⟨delays, lines, tally, hlength, hcall⟩ := Gateway.callFrom_of_throttled
    (g := g.noted) (throttled_noted hbefore) hanswer hk (show 0 + k ≤ Backoff.powerLimit by omega)
    rfl
  obtain ⟨result, hperform, hconcludes⟩ := perform_of_call hcall
  refine ⟨result, _, hperform, outcome_noted s.client k ▸ hconcludes, ?_⟩
  rw [← stateAfter_succ]
  exact leaves_noted hlength lines tally

/-- **An operation without an answer** uses up its attempts. -/
theorem perform_exhausted (hlimit : g.backoff.attempts ≤ Backoff.powerLimit + 1)
    {s : Session (σ × List Request)}
    (hnever : ∀ i < g.backoff.attempts, d.AsksPatience (d.outcome g s.client.1 i)) :
    ∃ s', d.perform g.noted s =
        (.error (.throttled d.operation.name (some d.key) g.backoff.attempts), s') ∧
      d.Leaves g g.backoff.attempts (g.backoff.attempts - 1) s s' := by
  obtain ⟨left, hn⟩ := g.backoff.exists_attempts_eq
  rw [hn] at hnever
  obtain ⟨delays, lines, tally, hlength, hcall⟩ := Gateway.callFrom_exhausted
    (g := g.noted) (throttled_noted hnever) (show 0 + left ≤ Backoff.powerLimit by omega) rfl
  have hfails : g.noted.call d.task (d.send g.noted.client g.noted.bucket) s =
      (.error (.throttled d.operation.name (some d.key) g.backoff.attempts),
        ⟨stateAfter (d.send g.noted.client g.noted.bucket) (left + 1) s.client,
          s.sleeps ++ delays, lines, tally⟩) := by
    rw [Gateway.call, show g.noted.backoff.attempts = left + 1 from hn, hcall]
    rfl
  refine ⟨_, perform_of_error hfails, ?_⟩
  rw [hn]
  exact leaves_noted hlength lines tally

end

end Demand

/-- There are as many attempts as are wished for, and at least one. -/
theorem Backoff.attempts_eq (b : Backoff) : (b.attempts : Int) = max 1 b.maxAttempts := by
  rw [attempts]
  omega

/-- **The first answer decides.** Let `n` be the number of attempts, and take any outcomes of the
calls that an operation makes. If one of the first `n` outcomes does not ask for patience, the first
of these decides what becomes of the operation; the call is made up to there and no further, each
time with the same request, and there is one delay for each call before it. If all of them ask for
patience, the operation fails as throttled, after `n` calls and `n - 1` delays. -/
theorem first_answer_decides (g : Gateway σ) (hlimit : g.backoff.maxAttempts ≤ 1025)
    (d : Demand α) (s : Session (σ × List Request)) :
    ∃ n : ℕ, (n : Int) = max 1 g.backoff.maxAttempts ∧
      (∀ k < n, (∀ i < k, d.AsksPatience (d.outcome g s.client.1 i)) →
        ¬ d.AsksPatience (d.outcome g s.client.1 k) →
        ∃ result s', d.perform g.noted s = (result, s') ∧
          d.Concludes (d.outcome g s.client.1 k) result ∧ d.Leaves g (k + 1) k s s') ∧
      ((∀ i < n, d.AsksPatience (d.outcome g s.client.1 i)) →
        ∃ s', d.perform g.noted s = (.error (.throttled d.operation.name (some d.key) n), s') ∧
          d.Leaves g n (n - 1) s s') := by
  have hattempts : g.backoff.attempts ≤ Backoff.powerLimit + 1 := by
    have h := g.backoff.attempts_eq
    have hpower : Backoff.powerLimit = 1024 := rfl
    omega
  exact ⟨g.backoff.attempts, g.backoff.attempts_eq,
    fun k hk hbefore hanswer => Demand.perform_answered hattempts hk hbefore hanswer,
    fun hnever => Demand.perform_exhausted hattempts hnever⟩

/-- Responses that ask for patience twice, by code and by status, and then say that there is no such
object, with the status that asks for patience. -/
def grudging : Script :=
  ⟨[.fails (.service ⟨"SlowDown", some 503, "busy"⟩),
    .fails (.service ⟨"InternalError", some 429, "busy"⟩),
    .fails (.service ⟨"NoSuchKey", some 429, "busy"⟩)], []⟩

/-- Reading a key with such responses: in four attempts the third one decides, and with a limit
below one there is one attempt. -/
theorem first_answer_decides_grudging :
    let patient : Gateway Script := ⟨"b", scripted, .standard⟩
    let hasty : Gateway Script := ⟨"b", scripted, { Backoff.standard with maxAttempts := -3 }⟩
    let read : Demand (List UInt8) := .get "k"
    let s : Session (Script × List Request) := .start (grudging, []) .empty
    patient.backoff.maxAttempts ≤ 1025 ∧ hasty.backoff.maxAttempts ≤ 1025 ∧
      (∀ i < 2, read.AsksPatience (read.outcome patient grudging i)) ∧
      ¬ read.AsksPatience (read.outcome patient grudging 2) ∧
      (∃ s', read.perform patient.noted s = (.error (.notFound (some "k")), s') ∧
        read.Leaves patient 3 2 s s') ∧
      ∃ s', read.perform hasty.noted s = (.error (.throttled "get" (some "k") 1), s') ∧
        read.Leaves hasty 1 0 s s' := by
  intro patient hasty read s
  have hpatient : patient.backoff.maxAttempts ≤ 1025 := by decide
  have hhasty : hasty.backoff.maxAttempts ≤ 1025 := by decide
  have hasks : ∀ i < 2, read.AsksPatience (read.outcome patient grudging i) := by
    intro i hi
    interval_cases i
    · exact ⟨.inl (by decide), fun _ => by decide⟩
    · exact ⟨.inr rfl, fun _ => by decide⟩
  have hanswers : ¬ read.AsksPatience (read.outcome patient grudging 2) :=
    fun h => h.2 rfl (by decide)
  refine ⟨hpatient, hhasty, hasks, hanswers, ?_, ?_⟩
  · obtain ⟨n, hn, hanswered, -⟩ := first_answer_decides patient hpatient read s
    have hfour : (n : Int) = max 1 4 := hn
    obtain ⟨result, s', hperform, hconcludes, hleaves⟩ := hanswered 2 (by omega) hasks hanswers
    have hmissing : read.Concludes (.error (.service ⟨"NoSuchKey", some 429, "busy"⟩)) result :=
      hconcludes
    cases hmissing with
    | missing habsent _ =>
      cases habsent
      exact ⟨s', hperform, hleaves⟩
    | reported he => exact absurd (by decide) (he rfl)
  · obtain ⟨n, hn, -, hexhausted⟩ := first_answer_decides hasty hhasty read s
    have hone : (n : Int) = max 1 (-3) := hn
    obtain rfl : n = 1 := by omega
    refine hexhausted fun i hi => ?_
    obtain rfl := Nat.lt_one_iff.1 hi
    exact ⟨.inl (by decide), fun _ => by decide⟩

end RollCall.Bucket
