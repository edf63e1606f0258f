import RollCall.Proofs.Bucket.Service

/-!
# A clerk

A client of a bucket that can be run. A clerk minds a holding and answers all calls about it, but
follows a plan: how often to ask for patience before the next answer, and how many keys to put on a
page. Pages may be empty as long as the plan lasts; without a plan the clerk never asks for
patience, and puts all keys on one page. A token is the word for the position after which it goes
on.

## Main definitions

* `Clerk`: a holding and a plan.
* `Clerk.service`: a clerk guarantees what a bucket does, whatever the plan.
-/

namespace RollCall.Bucket

/-- A holding, how often patience is asked for before the next answer, and a plan: for each answer
to come the length of a page, and how often patience is asked for after it. -/
structure Clerk where
  holding : Holding
  refusals : ℕ
  plan : List (ℕ × ℕ)

namespace Clerk

variable {α : Type}

/-- The error that asks for patience. -/
def busy : ServiceError := ⟨"SlowDown", some 503, "Please reduce your request rate."⟩

/-- The error that says that there is no such object. -/
def missing : ServiceError := ⟨"NoSuchKey", some 404, "The specified key does not exist."⟩

/-- A call is answered, or patience is asked for, never more than `patience` times. -/
def attend (patience : ℕ) (answer : Clerk → Reply α × Holding) : StateM Clerk (Reply α) :=
  fun c =>
    match c.refusals with
    | n + 1 => (.error (.service busy), { c with refusals := n })
    | 0 =>
      let (r, holding) := answer c
      (r, ⟨holding, min patience (c.plan.head?.elim 0 Prod.snd), c.plan.tail⟩)

/-- The word for a position. -/
def token : Option String → String
  | none => "-"
  | some key => "=" ++ key

/-- The position for a word. -/
def position (word : String) : Option String :=
  match word.toList with
  | '=' :: key => some (String.ofList key)
  | _ => none

theorem position_token (p : Option String) : position (token p) = p := by
  cases p with
  | none => rfl
  | some key =>
    have hword : (token (some key)).toList = '=' :: key.toList := String.toList_append
    rw [position, hword]
    exact congrArg some String.ofList_toList

theorem isTruthy_token (p : Option String) : (Value.text (token p)).isTruthy = true := by
  cases p with
  | none => rfl
  | some key => simp [Value.isTruthy, token]

/-- The page of a listing after a position. -/
def page (keyPrefix : String) (position : Option String) (c : Clerk) : Page :=
  let keys := c.holding.store.listAfter keyPrefix position
  match c.plan with
  | [] => ⟨keys.map .text, none, false, .null⟩
  | (size, _) :: _ =>
    ⟨(keys.take size).map .text, none, true,
      .text (token ((keys.take size).getLast?.or position))⟩

/-- The position that a token of a call stands for. -/
def positionOf : Option Value → Option String
  | some (.text word) => position word
  | _ => none

/-- What a clerk does with calls. -/
def client (patience : ℕ) : Client Clerk where
  put _ key body := attend patience fun c => (.ok (), c.holding.put key body)
  get _ key := attend patience fun c =>
    match c.holding.store.get? key with
    | some body => (.ok body, c.holding)
    | none => (.error (.service missing), c.holding)
  list _ keyPrefix token := attend patience fun c =>
    (.ok (page keyPrefix (positionOf token) c), c.holding)
  delete _ key := attend patience fun c =>
    match c.holding.store.get? key with
    | some _ => (.ok (), c.holding.delete key)
    | none => (.error (.service missing), c.holding.delete key)
  head _ := return .ok (some 200)
  close := return .ok ()

/-- What a clerk holds. -/
def Holds (patience : ℕ) (c : Clerk) (h : Holding) : Prop :=
  c.holding = h ∧ c.refusals ≤ patience ∧ h.store.IsNamed

/-- Where a clerk goes on with a token: at most as many empty pages follow as the plan is long. -/
def Resumes (c : Clerk) (_ : String) (token : Value) (position : Option String) (idle : ℕ) : Prop :=
  token = .text (Clerk.token position) ∧ c.plan.length = idle

/-- **A clerk answers in time**, if the answer is right once no patience is asked for. -/
theorem settles_attend {patience : ℕ} {mayMiss : Bool} {answer : Clerk → Reply α × Holding}
    {P : Reply α → Clerk → Prop} {c : Clerk} (hc : c.refusals ≤ patience)
    (h : P (answer { c with refusals := 0 }).1
      ⟨(answer { c with refusals := 0 }).2, min patience (c.plan.head?.elim 0 Prod.snd),
        c.plan.tail⟩) :
    Settles mayMiss (attend patience answer) P patience c := by
  suffices hsettles : ∀ left n, n ≤ left →
      Settles mayMiss (attend patience answer) P left { c with refusals := n } from
    hsettles patience c.refusals hc
  intro left
  induction left with
  | zero =>
    intro n hn
    obtain rfl := Nat.le_zero.1 hn
    exact .answered h
  | succ left ih =>
    rintro (_ | n) hn
    · exact .answered h
    · refine .throttled (e := busy) rfl ⟨rfl, fun _ => rfl⟩ (ih n (Nat.le_of_succ_le_succ hn))

variable {patience : ℕ} {c : Clerk} {h : Holding}

theorem Holds.store_get? (hc : c.Holds patience h) (key : String) :
    c.holding.store.get? key = h.store.get? key :=
  hc.1 ▸ rfl

/-- **A page of a clerk** is a page of the listing. -/
theorem delivers_page (hc : c.Holds patience h) (keyPrefix : String) {token : Option Value}
    {position : Option String} (hposition : positionOf token = position) :
    Delivers (Holds patience) Resumes h keyPrefix position c.plan.length
      (.ok (page keyPrefix (positionOf token) { c with refusals := 0 }))
      ⟨c.holding, min patience (c.plan.head?.elim 0 Prod.snd), c.plan.tail⟩ := by
  obtain ⟨rfl, -, hnamed⟩ := hc
  subst hposition
  obtain ⟨holding, refusals, plan⟩ := c
  have hholds : Holds patience ⟨holding, min patience (plan.head?.elim 0 Prod.snd), plan.tail⟩
      holding := ⟨rfl, Nat.min_le_left .., hnamed⟩
  cases plan with
  | nil => exact .last hholds rfl rfl rfl
  | cons entry plan =>
    refine .cut hholds rfl rfl (List.take_append_drop entry.1 _).symm rfl (isTruthy_token _)
      ⟨rfl, rfl⟩ fun _ => ?_
    exact Nat.lt_succ_self plan.length

/-- **A clerk guarantees what a bucket does**, whatever the plan. -/
def service (bucket : String) (patience : ℕ) : Service Clerk bucket patience where
  client := client patience
  holds := Holds patience
  resumes := Resumes
  named hc := hc.2.2
  put {c h} hc key hkey body := by
    change Settles false (attend patience fun c => (.ok (), c.holding.put key body)) _ patience c
    exact settles_attend hc.2.1 ⟨rfl, hc.1 ▸ rfl, Nat.min_le_left .., hc.2.2.put hkey body⟩
  get {c h} hc key hkey := by
    refine settles_attend hc.2.1 ?_
    dsimp only
    rw [hc.store_get? key]
    cases hget : h.store.get? key with
    | some body => exact ⟨.inl ⟨body, hget, rfl⟩, hc.1, Nat.min_le_left .., hc.2.2⟩
    | none => exact ⟨.inr ⟨hget, missing, rfl, rfl⟩, hc.1, Nat.min_le_left .., hc.2.2⟩
  delete {c h} hc key hkey := by
    refine settles_attend hc.2.1 ?_
    dsimp only
    rw [hc.store_get? key]
    cases hget : h.store.get? key with
    | some body => exact ⟨.inl rfl, hc.1 ▸ rfl, Nat.min_le_left .., hc.2.2.delete key⟩
    | none =>
      exact ⟨.inr ⟨rfl, missing, rfl, rfl⟩, hc.1 ▸ rfl, Nat.min_le_left .., hc.2.2.delete key⟩
  list {c h} hc keyPrefix := by
    refine ⟨c.plan.length, ?_⟩
    change Settles false (attend patience fun c =>
      (.ok (page keyPrefix (positionOf none) c), c.holding)) _ patience c
    exact settles_attend hc.2.1 (delivers_page hc keyPrefix rfl)
  listOn {c h} hc keyPrefix token position idle hresumes := by
    obtain ⟨rfl, rfl⟩ := hresumes
    have hposition : positionOf (some (.text (Clerk.token position))) = position :=
      position_token position
    change Settles false (attend patience fun c =>
      (.ok (page keyPrefix (positionOf (some (.text (Clerk.token position)))) c), c.holding)) _
      patience c
    exact settles_attend hc.2.1 (delivers_page hc keyPrefix hposition)

end Clerk

end RollCall.Bucket
