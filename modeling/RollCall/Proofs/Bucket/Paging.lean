import RollCall.Proofs.Bucket.Patience

/-!
# Pages of a listing

A listing turns its pages one after the other. The first page is asked for without a token, and
every other one with the token of the page before it. It stops with the page on which enough keys
have come, with a page that was not cut short or that names no token, or with a page that cannot be
had; no page is asked for after that one. What it has brought then are the keys of its pages in
order, and no more of them than were wanted.

Nothing is assumed of the pages. They may be empty, hold entries without keys, and come after any
number of calls that were throttled.

## Main definitions

* `Turns`: some pages in a row, each of which names the next.
* `Stops`: what a listing brings with its last page.
* `Course`: a listing from its first page to its last.
* `Asked`: the requests for some pages in a row.

## Main results

* `Gateway.listFrom_turns`: turning pages brings their keys and goes on.
* `Course.list_eq`, `asked_turns`: what a listing brings, and what it asks for.
* `list_take`: the law of listings.
-/

namespace RollCall.Bucket

variable {σ α : Type}

/-! ### Pages in a row -/

/-- A page was cut short, and names a token with which the next one is asked for. -/
def Page.Continues (p : Page) : Prop :=
  p.isTruncated = true ∧ p.token.isTruthy = true

/-- The page after a page is the one of its token. -/
theorem Page.next?_eq_some {p : Page} (h : p.Continues) : p.next? = some p.token := by
  rw [next?, h.1, h.2]
  rfl

theorem Page.next?_eq_none {p : Page} (h : ¬ p.Continues) : p.next? = none :=
  if_neg fun hboth => h (Bool.and_eq_true_iff.1 hboth)

/-- The keys of some pages, one page after the other. -/
def keysOf (pages : List Page) : List Value :=
  pages.flatMap Page.keys

/-- The session in which the next page is asked for. -/
def Session.turned (keyPrefix : String) (s : Session σ) : Session σ :=
  { s with lines := s.lines ++ [⟨.debug, Gateway.nextPageText keyPrefix⟩] }

/-- **Some pages in a row**: each of them can be read to its end and names the next one. The last
token and session are those with which the page after them is asked for. -/
inductive Turns (g : Gateway σ) (keyPrefix : String) :
    Option Value → Session σ → List Page → Option Value → Session σ → Prop
  | none {token : Option Value} {s : Session σ} : Turns g keyPrefix token s [] token s
  | more {token token' : Option Value} {s s₁ s' : Session σ} {page : Page} {pages : List Page}
      (hpage : g.page keyPrefix token s = (.ok page, s₁)) (hfailure : page.failure = none)
      (hnext : page.Continues)
      (hrest : Turns g keyPrefix (some page.token) (s₁.turned keyPrefix) pages token' s') :
      Turns g keyPrefix token s (page :: pages) token' s'

theorem Turns.append {g : Gateway σ} {keyPrefix : String} {token token' token'' : Option Value}
    {s s' s'' : Session σ} {pages more : List Page} (h : Turns g keyPrefix token s pages token' s')
    (hmore : Turns g keyPrefix token' s' more token'' s'') :
    Turns g keyPrefix token s (pages ++ more) token'' s'' := by
  induction h with
  | none => exact hmore
  | more hpage hfailure hnext _ ih => exact .more hpage hfailure hnext (ih hmore)

/-- **What a listing brings with its last page**, if `n` keys are wanted and fewer came before:
enough keys, or all keys, or those before a failure. -/
inductive Stops (n : ℕ) (before : List Value) : Except Failure Page → Gateway.Listed → Prop
  | ends {page : Page}
      (h : n ≤ (before ++ page.keys).length ∨ page.failure = none ∧ ¬ page.Continues) :
      Stops n before (.ok page) ⟨(before ++ page.keys).take n, none⟩
  | broken {page : Page} {f : Failure} (hfew : (before ++ page.keys).length < n)
      (hfailure : page.failure = some f) :
      Stops n before (.ok page) ⟨before ++ page.keys, some f⟩
  | failed {f : Failure} : Stops n before (.error f) ⟨before, some f⟩

/-- **A listing of which `n` keys are wanted**: it turns some pages that do not hold enough of them
and stops with what it gets for the page after these. -/
structure Course (g : Gateway σ) (keyPrefix : String) (n : ℕ) (s : Session σ) (pages : List Page)
    (result : Gateway.Listed) (s' : Session σ) : Prop where
  few : (keysOf pages).length < n
  stops : ∃ token s₁ answer, Turns g keyPrefix none s pages token s₁ ∧
    g.page keyPrefix token s₁ = (answer, s') ∧ Stops n (keysOf pages) answer result

/-! ### What is brought -/

namespace Gateway

variable {g : Gateway σ} {keyPrefix : String} {token token' : Option Value}
  {s s' : Session σ} {pages : List Page}

/-- A page that cannot be had ends a listing. -/
theorem listFrom_failed {f : Failure} (hpage : g.page keyPrefix token s = (.error f, s'))
    (budget : ℕ) (wanted : Option ℕ) :
    g.listFrom keyPrefix (budget + 1) token wanted s = (⟨[], some f⟩, s') := by
  rw [listFrom_succ, bind_of_eq hpage]
  rfl

/-- Keys are not enough if they are not even with more behind them. -/
theorem not_isEnough_of_append {wanted : Option ℕ} {keys more : List Value}
    (h : isEnough wanted (keys ++ more) = false) : isEnough wanted keys = false := by
  cases wanted with
  | none => rfl
  | some n =>
    simp only [isEnough, List.length_append, decide_eq_false_iff_not] at h ⊢
    omega

/-- What is still wanted after some keys decides whether more keys are enough. -/
theorem isEnough_append (wanted : Option ℕ) (keys more : List Value) :
    isEnough (wanted.map (· - keys.length)) more = isEnough wanted (keys ++ more) := by
  cases wanted with
  | none => rfl
  | some n => simp [isEnough, List.length_append, Nat.add_comm]

/-- **Turning pages brings their keys**, and the listing goes on with what is still wanted. -/
theorem listFrom_turns (h : Turns g keyPrefix token s pages token' s') {wanted : Option ℕ}
    (hfew : isEnough wanted (keysOf pages) = false) (budget : ℕ) {rest : Listed} {s'' : Session σ}
    (hrest : g.listFrom keyPrefix budget token' (wanted.map (· - (keysOf pages).length)) s' =
      (rest, s'')) :
    g.listFrom keyPrefix (budget + pages.length) token wanted s =
      (⟨keysOf pages ++ rest.keys, rest.failure⟩, s'') := by
  induction h generalizing wanted with
  | none =>
    have hwanted : wanted.map (· - (keysOf []).length) = wanted := by
      cases wanted <;> rfl
    rw [hwanted] at hrest
    exact hrest
  | @more token token' s s₁ s' page pages hpage hfailure hnext hturns ih =>
    have hkeys : keysOf (page :: pages) = page.keys ++ keysOf pages := List.flatMap_cons
    rw [hkeys] at hfew hrest ⊢
    have hleft : (wanted.map (· - page.keys.length)).map (· - (keysOf pages).length) =
        wanted.map (· - (page.keys ++ keysOf pages).length) := by
      cases wanted with
      | none => rfl
      | some n => simp [Nat.sub_sub]
    have hfewer : isEnough (wanted.map (· - page.keys.length)) (keysOf pages) = false :=
      (isEnough_append wanted page.keys _).trans hfew
    have hgoes := ih hfewer (hleft ▸ hrest)
    rw [List.length_cons, ← Nat.add_assoc, listFrom_succ, bind_of_eq hpage]
    simp only [not_isEnough_of_append hfew, Bool.false_eq_true, if_false, hfailure,
      Page.next?_eq_some hnext]
    refine (bind_of_eq rfl _).trans ((bind_of_eq hgoes _).trans ?_)
    rw [List.append_assoc]
    rfl

/-- **A listing of all keys that fails** after some pages has brought the keys of these pages. -/
theorem list_failed (h : Turns g keyPrefix none s pages token' s') {f : Failure}
    {s'' : Session σ} (hpage : g.page keyPrefix token' s' = (.error f, s'')) {budget : ℕ}
    (hbudget : pages.length < budget) :
    g.list keyPrefix budget none s = (⟨keysOf pages, some f⟩, s'') := by
  obtain ⟨budget, rfl⟩ := Nat.exists_eq_add_of_lt hbudget
  have hfew : isEnough none (keysOf pages) = false := rfl
  have hgoes := listFrom_turns h hfew (budget + 1) (listFrom_failed hpage budget none)
  rw [List.append_nil] at hgoes
  rw [list, if_neg nofun, show pages.length + budget + 1 = budget + 1 + pages.length by omega]
  exact hgoes

/-- The last page of a listing brings what is missing, and nothing is asked for after it. -/
theorem listFrom_stops {n : ℕ} {before : List Value} (hbefore : before.length < n)
    {answer : Except Failure Page} {result : Listed} (hstops : Stops n before answer result)
    (hpage : g.page keyPrefix token s = (answer, s')) (budget : ℕ) :
    ∃ rest : Listed, result = ⟨before ++ rest.keys, rest.failure⟩ ∧
      g.listFrom keyPrefix (budget + 1) token (some (n - before.length)) s = (rest, s') := by
  have henough (keys : List Value) :
      isEnough (some (n - before.length)) keys = decide (n ≤ (before ++ keys).length) :=
    isEnough_append (some n) before keys
  cases hstops with
  | failed => exact ⟨⟨[], some _⟩, by rw [List.append_nil], listFrom_failed hpage budget _⟩
  | @broken page f hfew hfailure =>
    refine ⟨⟨page.keys, some f⟩, rfl, ?_⟩
    rw [listFrom_succ, bind_of_eq hpage]
    simp only [henough, Nat.not_le.2 hfew, decide_false, Bool.false_eq_true, if_false, hfailure]
    rfl
  | @ends page hends =>
    by_cases hreached : n ≤ (before ++ page.keys).length
    · refine ⟨⟨page.keys.take (n - before.length), none⟩, ?_, ?_⟩
      · rw [List.take_append, List.take_of_length_le (Nat.le_of_lt hbefore)]
      · rw [listFrom_succ, bind_of_eq hpage]
        simp only [henough, hreached, decide_true, if_true, Option.getD_some]
        rfl
    · obtain ⟨hfailure, hlast⟩ := hends.resolve_left hreached
      refine ⟨⟨page.keys, none⟩, ?_, ?_⟩
      · rw [List.take_of_length_le (Nat.le_of_not_le hreached)]
      · rw [listFrom_succ, bind_of_eq hpage]
        simp only [henough, hreached, decide_false, Bool.false_eq_true, if_false, hfailure,
          Page.next?_eq_none hlast]
        rfl

end Gateway

/-- **What a listing brings** is what its course says, whatever number of pages it may ask for
beyond those of the course. -/
theorem Course.list_eq {g : Gateway σ} {keyPrefix : String} {n : ℕ} {s s' : Session σ}
    {pages : List Page} {result : Gateway.Listed} (h : Course g keyPrefix n s pages result s')
    {budget : ℕ} (hbudget : pages.length < budget) :
    g.list keyPrefix budget (some n) s = (result, s') := by
  obtain ⟨token, s₁, answer, hturns, hpage, hstops⟩ := h.stops
  obtain ⟨budget, rfl⟩ := Nat.exists_eq_add_of_lt hbudget
  obtain ⟨rest, rfl, hrest⟩ := Gateway.listFrom_stops h.few hstops hpage budget
  have hfew : Gateway.isEnough (some n) (keysOf pages) = false :=
    decide_eq_false (Nat.not_le.2 h.few)
  have hwanted : ¬ some n = some 0 := by
    rintro ⟨⟩
    exact Nat.not_lt_zero _ h.few
  rw [Gateway.list, if_neg hwanted, show pages.length + budget + 1 = budget + 1 + pages.length by
    omega]
  exact Gateway.listFrom_turns hturns hfew (budget + 1) hrest

/-! ### What is asked for -/

namespace Gateway

/-- A call either decides its operation or is made again by the same client. -/
theorem callFrom_step (g : Gateway σ) (t : Task) (send : StateM σ (Reply α)) (left attempt : ℕ)
    (s : Session σ) :
    (∃ r, g.callFrom t send (left + 1) attempt s = (r, counted t send s)) ∨
      ∃ s₁ : Session σ, s₁.client = (send s.client).2 ∧
        g.callFrom t send (left + 1) attempt s = g.callFrom t send left (attempt + 1) s₁ := by
  cases hthrottled : t.isThrottled (send s.client).1 with
  | false => exact .inl ⟨_, callFrom_answered hthrottled left attempt⟩
  | true =>
    cases left with
    | zero => exact .inl ⟨_, callFrom_last hthrottled attempt⟩
    | succ left =>
      by_cases hattempt : attempt < Backoff.powerLimit
      · obtain ⟨delay, lines, hagain⟩ := callFrom_throttled (g := g) hthrottled left hattempt
        exact .inr ⟨_, rfl, hagain⟩
      · -- The delay is beyond floating-point numbers.
        have hdelay : g.backoff.delay attempt = .error .hugePower := if_pos (Nat.not_lt.1 hattempt)
        refine .inl ⟨.error .hugePower, ?_⟩
        rw [callFrom]
        refine (bind_of_eq rfl _).trans ((bind_of_eq rfl _).trans ?_)
        rw [hthrottled, if_pos rfl, if_neg (Nat.succ_ne_zero left)]
        dsimp only
        rw [hdelay]
        rfl

/-- The calls of an operation leave its request, as often as they are made. -/
theorem callFrom_requests (g : Gateway (σ × List Request)) (t : Task) (request : Request)
    (send : StateM σ (Reply α)) (left attempt : ℕ) (s : Session (σ × List Request)) :
    ∃ k ≤ left, (g.callFrom t (noting request send) (left + 1) attempt s).2.client.2 =
      s.client.2 ++ List.replicate (k + 1) request := by
  induction left generalizing attempt s with
  | zero =>
    refine ⟨0, Nat.le_refl 0, ?_⟩
    rcases callFrom_step g t (noting request send) 0 attempt s with ⟨r, hr⟩ | ⟨s₁, hs₁, hgoes⟩
    · rw [hr]
      rfl
    · rw [hgoes, callFrom]
      exact congrArg Prod.snd hs₁
  | succ left ih =>
    rcases callFrom_step g t (noting request send) (left + 1) attempt s with
      ⟨r, hr⟩ | ⟨s₁, hs₁, hgoes⟩
    · refine ⟨0, Nat.zero_le _, ?_⟩
      rw [hr]
      rfl
    · obtain ⟨k, hk, hrequests⟩ := ih (attempt + 1) s₁
      refine ⟨k + 1, Nat.succ_le_succ hk, ?_⟩
      rw [hgoes, hrequests, hs₁, List.replicate_succ (n := k + 1)]
      exact List.append_assoc ..

end Gateway

/-- The requests for some pages in a row, by their tokens: for each page the same request, once or,
if it is throttled, up to as many times as there are attempts. -/
inductive Asked (g : Gateway σ) (keyPrefix : String) :
    List (Option Value) → List Request → Prop
  | nil : Asked g keyPrefix [] []
  | cons {token : Option Value} {tokens : List (Option Value)} {requests : List Request} {k : ℕ}
      (hpos : 0 < k) (hk : k ≤ g.backoff.attempts) (hrest : Asked g keyPrefix tokens requests) :
      Asked g keyPrefix (token :: tokens)
        (List.replicate k (.listObjects g.bucket keyPrefix token) ++ requests)

section

variable {g : Gateway σ} {keyPrefix : String} {token token' : Option Value}
  {s s' : Session (σ × List Request)}

/-- A page is asked for with its token. -/
theorem asked_page {answer : Except Failure Page}
    (hpage : g.noted.page keyPrefix token s = (answer, s')) :
    ∃ requests, s'.client.2 = s.client.2 ++ requests ∧ Asked g keyPrefix [token] requests := by
  obtain ⟨r, s₁, hcall⟩ : ∃ r s₁, g.noted.call ⟨.list, keyPrefix, false⟩
      (g.noted.client.list g.noted.bucket keyPrefix token) s = (r, s₁) := ⟨_, _, rfl⟩
  obtain rfl : s₁ = s' := by
    rcases r with f | _ | page <;>
      exact congrArg Prod.snd ((bind_of_eq hcall _).symm.trans hpage)
  obtain ⟨left, hattempts⟩ := g.backoff.exists_attempts_eq
  obtain ⟨k, hk, hrequests⟩ := Gateway.callFrom_requests g.noted ⟨.list, keyPrefix, false⟩
    (.listObjects g.bucket keyPrefix token) (g.client.list g.bucket keyPrefix token) left 0 s
  rw [Gateway.call, show g.noted.backoff.attempts = left + 1 from hattempts] at hcall
  have hclient := congrArg (fun x => x.2.client.2) hcall
  have hasked : Asked g keyPrefix [token]
      (List.replicate (k + 1) (.listObjects g.bucket keyPrefix token) ++ []) :=
    .cons k.succ_pos (by omega) .nil
  rw [List.append_nil] at hasked
  exact ⟨_, hclient.symm.trans hrequests, hasked⟩

/-- **What a listing asks for**: its first page without a token, and each later one with the token
of the page before it. -/
theorem asked_turns {pages : List Page}
    (h : Turns g.noted keyPrefix token s pages token' s') {answer : Except Failure Page}
    {s'' : Session (σ × List Request)} (hpage : g.noted.page keyPrefix token' s' = (answer, s'')) :
    ∃ requests, s''.client.2 = s.client.2 ++ requests ∧
      Asked g keyPrefix (token :: pages.map fun p => some p.token) requests := by
  induction h with
  | none => exact asked_page hpage
  | more hfirst _ _ _ ih =>
    obtain ⟨now, hnow, hasked⟩ := asked_page hfirst
    obtain ⟨later, hlater, hrest⟩ := ih hpage
    cases hasked with
    | cons hpos hk hnone =>
      cases hnone
      rw [List.append_nil] at hnow
      refine ⟨_, ?_, .cons hpos hk hrest⟩
      rw [hlater, ← List.append_assoc]
      exact congrArg (· ++ later) hnow

end

/-! ### The law -/

/-- A listing either has a course or turns any number of pages without enough keys. -/
theorem Course.exists_or_endless (g : Gateway σ) (keyPrefix : String) {n : ℕ} (hn : 0 < n)
    (s : Session σ) :
    (∃ pages result s', Course g keyPrefix n s pages result s') ∨
      ∀ k, ∃ pages token s', pages.length = k ∧ Turns g keyPrefix none s pages token s' ∧
        (keysOf pages).length < n := by
  refine or_iff_not_imp_left.2 fun hnone k => ?_
  induction k with
  | zero => exact ⟨[], none, s, rfl, .none, hn⟩
  | succ k ih =>
    obtain ⟨pages, token, s₁, rfl, hturns, hfew⟩ := ih
    obtain ⟨answer, s₂, hpage⟩ : ∃ answer s₂, g.page keyPrefix token s₁ = (answer, s₂) :=
      ⟨_, _, rfl⟩
    have hstops {result : Gateway.Listed} (h : Stops n (keysOf pages) answer result) : False :=
      hnone ⟨pages, result, s₂, hfew, token, s₁, answer, hturns, hpage, h⟩
    cases answer with
    | error f => exact (hstops .failed).elim
    | ok page =>
      have hmore : (keysOf pages ++ page.keys).length < n :=
        Nat.not_le.1 fun hreached => hstops (.ends (.inl hreached))
      cases hfailure : page.failure with
      | some f => exact (hstops (.broken hmore hfailure)).elim
      | none =>
        have hnext : page.Continues :=
          not_not.1 fun hlast => hstops (.ends (.inr ⟨hfailure, hlast⟩))
        refine ⟨pages ++ [page], some page.token, s₂.turned keyPrefix, List.length_append, ?_, ?_⟩
        · exact hturns.append (.more hpage hfailure hnext .none)
        · rw [keysOf, List.flatMap_append, List.flatMap_singleton]
          exact hmore

/-- **The law of listings.** No page is asked for if no key is wanted. Otherwise let `n` keys be
wanted. A listing that turns some pages, with fewer keys than that, and stops with what it gets for
the next page brings the first `n` keys of all of them together, or the keys of those before a
failure. It has asked for these pages and no more, the first without a token and each later one with
the token of the page before it. Unless it goes on for ever, a listing has such a course. -/
theorem list_take (g : Gateway σ) (keyPrefix : String) (s : Session (σ × List Request)) :
    (∀ budget, g.noted.list keyPrefix budget (some 0) s = (⟨[], none⟩, s)) ∧
    ∀ n > 0,
      (∀ pages result s', Course g.noted keyPrefix n s pages result s' →
        (∀ budget > pages.length, g.noted.list keyPrefix budget (some n) s = (result, s')) ∧
        ∃ requests, s'.client.2 = s.client.2 ++ requests ∧
          Asked g keyPrefix (none :: pages.map fun p => some p.token) requests) ∧
      ((∃ pages result s', Course g.noted keyPrefix n s pages result s') ∨
        ∀ k, ∃ pages token s', pages.length = k ∧ Turns g.noted keyPrefix none s pages token s' ∧
          (keysOf pages).length < n) := by
  refine ⟨fun _ => rfl, fun n hn => ⟨fun pages result s' h => ⟨fun _ => h.list_eq, ?_⟩, ?_⟩⟩
  · obtain ⟨token, s₁, answer, hturns, hpage, -⟩ := h.stops
    exact asked_turns hturns hpage
  · exact Course.exists_or_endless g.noted keyPrefix hn s

/-- A response with a page: the keys of its entries and what it says of the next page. -/
def batch (keys : List Value) (isTruncated : Bool) (token : Value) : Response :=
  .object none (.map [(.text "Contents", .list (keys.map fun key => .map [(.text "Key", key)])),
    (.text "IsTruncated", .bool isTruncated), (.text "NextContinuationToken", token)])

/-- Three pages, the first with an entry whose key is empty and one that has none, the second
without entries and after a call that is throttled, and then an error. -/
def patchy : Script :=
  ⟨[batch [.text "a", .text "", .null, .text "b"] true (.text "t"),
    .fails (.service ⟨"SlowDown", some 503, "busy"⟩), batch [] true (.text "u"),
    batch [.text "c", .text "d"] true (.text "v"),
    .fails (.service ⟨"AccessDenied", some 403, "no"⟩)], []⟩

/-- Of these pages, a third key takes all three, and a fifth one meets the error behind them. -/
theorem list_take_patchy :
    let g : Gateway Script := ⟨"b", scripted, .standard⟩
    let s : Session (Script × List Request) := .start (patchy, []) .empty
    (∃ pages s', Course g.noted "p" 3 s pages ⟨[.text "a", .text "b", .text "c"], none⟩ s' ∧
      (∀ budget > 2, g.noted.list "p" budget (some 3) s =
        (⟨[.text "a", .text "b", .text "c"], none⟩, s')) ∧
      ∃ requests, s'.client.2 = [] ++ requests ∧
        Asked g "p" [none, some (.text "t"), some (.text "u")] requests) ∧
    ∃ pages s',
      Course g.noted "p" 5 s pages ⟨[.text "a", .text "b", .text "c", .text "d"],
        some (.store "list" (some "p") "AccessDenied: no")⟩ s' ∧
      (∀ budget > 3, g.noted.list "p" budget (some 5) s =
        (⟨[.text "a", .text "b", .text "c", .text "d"],
          some (.store "list" (some "p") "AccessDenied: no")⟩, s')) ∧
      ∃ requests, s'.client.2 = [] ++ requests ∧
        Asked g "p" [none, some (.text "t"), some (.text "u"), some (.text "v")] requests := by
  intro g s
  constructor
  · have hcourse : Course g.noted "p" 3 s _ ⟨[.text "a", .text "b", .text "c"], none⟩ _ :=
      ⟨by decide, _, _, _, .more rfl rfl ⟨rfl, rfl⟩ (.more rfl rfl ⟨rfl, rfl⟩ .none), rfl,
        .ends (.inl (by decide))⟩
    exact ⟨_, _, hcourse, ((list_take g "p" s).2 3 (by decide)).1 _ _ _ hcourse⟩
  · have hcourse : Course g.noted "p" 5 s _ ⟨[.text "a", .text "b", .text "c", .text "d"],
        some (.store "list" (some "p") "AccessDenied: no")⟩ _ :=
      ⟨by decide, _, _, _,
        .more rfl rfl ⟨rfl, rfl⟩ (.more rfl rfl ⟨rfl, rfl⟩ (.more rfl rfl ⟨rfl, rfl⟩ .none)), rfl,
        .failed⟩
    exact ⟨_, _, hcourse, ((list_take g "p" s).2 5 (by decide)).1 _ _ _ hcourse⟩

end RollCall.Bucket
