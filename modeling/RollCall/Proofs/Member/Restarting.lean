import RollCall.Proofs.Member.Starting

/-!
# Starting again

A start does not look at what the site knows of other members, nor at what the member itself had
before: of the member it takes the name, the host and the port, and that it holds nothing. So a
member that holds nothing starts like one that was never started, whatever its settings were.

## Main definitions

* `Doing.IsAloof`: a step that has nothing to do with members.
* `Member.renewing`: the site at which a member is one that was never started.

## Main results

* `Member.start_renewing`: a member that holds nothing starts like a new one.
-/

namespace RollCall

variable {ω α β : Type}

/-! ### Aloof steps -/

/-- A step that neither looks at the members nor changes them. -/
def Doing.IsAloof (m : Doing ω α) : Prop :=
  ∀ s members, m { s with members } = ((m s).1, { (m s).2 with members })

namespace Doing.IsAloof

theorem pure (a : α) : IsAloof (pure a : Doing ω α) :=
  fun _ _ => rfl

theorem bind {m : Doing ω α} {f : α → Doing ω β} (h : m.IsAloof) (h' : ∀ a, (f a).IsAloof) :
    (m >>= f).IsAloof := by
  intro s members
  rw [bind_of_eq (h s members)]
  exact h' (m s).1 (m s).2 members

/-- Looking at the site for something else than its members. -/
theorem get_bind {f : Site ω → Doing ω α} (hf : ∀ s members, f { s with members } = f s)
    (h : ∀ s, (f s).IsAloof) : IsAloof (get >>= f) := by
  intro s members
  change f { s with members } { s with members } = _
  rw [hf]
  exact h s s members

variable {i : Nat}

theorem announcer : IsAloof (Site.announcer i : Doing ω Announcer) :=
  fun _ _ => rfl

theorem addAnnouncer {a : Announcer} : IsAloof (Site.addAnnouncer a : Doing ω Nat) :=
  fun _ _ => rfl

theorem updateAnnouncer {f : Announcer → Announcer} :
    IsAloof (Site.updateAnnouncer i f : Doing ω Unit) :=
  fun _ _ => rfl

theorem say {level : Logging.Level} {text : String} :
    IsAloof (Site.say level text : Doing ω Unit) :=
  fun _ _ => rfl

theorem count {c : Counter} : IsAloof (Site.count c : Doing ω Unit) :=
  fun _ _ => rfl

theorem call {operation : Operation} {key : Option String} {recorded : Call}
    {act : StateM ω (Except Failure α)} :
    IsAloof (Gateway.call Gateway.alone operation key recorded act) := by
  intro s members
  rw [Gateway.call_alone, Gateway.call_alone]

end Doing.IsAloof

namespace Announcer

variable (b : Backend ω) (i : Nat)

theorem isAloof_write : (write (.ofBackend b) i).IsAloof := by
  refine .bind .announcer fun a => ?_
  split
  · exact .pure _
  refine .get_bind (fun _ _ => rfl) fun s => ?_
  dsimp only
  split
  · exact .pure _
  refine .bind .call fun r => ?_
  split
  · exact .bind .updateAnnouncer fun _ => .pure _
  · split
    · exact .bind .count fun _ => .bind .say fun _ => .pure _
    · exact .pure _

theorem isAloof_announce : (announce (.ofBackend b) i).IsAloof := by
  refine .bind .announcer fun a => .bind .updateAnnouncer fun _ =>
    .bind (isAloof_write b i) fun written => .bind .updateAnnouncer fun _ => ?_
  split
  · exact .pure _
  · exact .pure _
  · exact .bind .count fun _ => .bind .say fun _ => .pure _

theorem isAloof_start : (start (.ofBackend b) i).IsAloof := by
  refine .bind .announcer fun a => ?_
  split
  · exact .pure _
  refine .bind .updateAnnouncer fun _ => .bind (isAloof_announce b i) fun r => ?_
  split
  · exact .pure _
  · exact .bind .updateAnnouncer fun _ => .bind (fun _ _ => rfl) fun _ => .bind .say fun _ =>
      .pure _

end Announcer

/-! ### Starting -/

namespace Member

variable (b : Backend ω) (i : Nat)

theorem isAloof_closeGateway (gateway : Nat) : (closeGateway (.ofBackend b) gateway).IsAloof := by
  refine .bind .call fun r => ?_
  split
  · exact .pure _
  · exact .say

theorem isAloof_abort (gateway : Option Nat) : (abort (.ofBackend b) i gateway).IsAloof := by
  unfold abort
  split
  · exact .bind (isAloof_closeGateway b _) fun _ _ _ => rfl
  · exact fun _ _ => rfl

theorem isAloof_connect (settings : Settings) :
    ((Gateway.ofBackend b).connect settings).IsAloof := by
  refine .bind .call fun r => ?_
  split
  · exact .bind (fun _ _ => rfl) fun _ => .pure _
  · exact .pure _

theorem isAloof_appear (m : Member) (settings : Settings) (gateway : Nat) :
    (appear (.ofBackend b) m settings gateway).IsAloof := by
  refine .bind .call fun r => ?_
  split
  · exact .pure _
  refine .bind .say fun _ => ?_
  split
  · exact .pure _
  refine .bind .addAnnouncer fun k => .bind (Announcer.isAloof_start b k) fun written => ?_
  split
  · exact .pure _
  · split
    · exact .bind .say fun _ => .pure _
    · exact .pure _

/-- Entering has nothing to do with members. -/
theorem isAloof_enter (m : Member) (settings : Settings) :
    (enter (.ofBackend b) i m settings).IsAloof := by
  refine .bind (fun _ _ => rfl) fun _ => .bind (isAloof_connect b settings) fun r => ?_
  split
  · exact .bind (isAloof_abort b i _) fun _ => .pure _
  refine .bind (isAloof_appear b m settings _) fun r => ?_
  split
  · exact .bind (isAloof_abort b i _) fun _ => .pure _
  · exact .pure _

variable {b i} {s : Site ω} {m : Member}

/-- Entering leaves all members as they are. -/
theorem members_enter (m : Member) (settings : Settings) (s : Site ω) :
    (enter (.ofBackend b) i m settings s).2.members = s.members :=
  congrArg (·.2.members) (isAloof_enter b i m settings s s.members)

/-- What a member is made of that starts: its own name, host and port, and what it is given. -/
theorem started_create (hpending : m.pending = []) (settings : Settings)
    (gateway announcer pool : Nat) :
    (Member.create m.node m.host m.port).started settings gateway announcer pool =
      m.started settings gateway announcer pool := by
  rw [started, started, hpending]
  rfl

/-- The site at which a member is one that was never started. -/
def renewing (i : Nat) (m : Member) (s : Site ω) : Site ω :=
  { s with members := s.members.set i (.create m.node m.host m.port) }

theorem getElem?_renewing (hm : s.members[i]? = some m) :
    (renewing i m s).members[i]? = some (.create m.node m.host m.port) :=
  List.getElem?_set_self (List.getElem?_eq_some_iff.1 hm).1

theorem startWith_renewing (hm : s.members[i]? = some m) (hpending : m.pending = [])
    (settings : Settings) {result : Except Failure Unit} {s' : Site ω}
    (hstart : startWith (.ofBackend b) i m settings s = (result, s')) :
    startWith (.ofBackend b) i (.create m.node m.host m.port) settings (renewing i m s) =
      (result, { s' with
        members := if result.isOk then s'.members else (renewing i m s).members }) := by
  have henter : enter (.ofBackend b) i (.create m.node m.host m.port) settings (renewing i m s) =
      ((enter (.ofBackend b) i m settings s).1,
        { (enter (.ofBackend b) i m settings s).2 with members := (renewing i m s).members }) :=
    isAloof_enter b i m settings s _
  have hmembers := members_enter (b := b) (i := i) m settings s
  obtain ⟨entered, s₁, h⟩ : ∃ entered s₁, enter (.ofBackend b) i m settings s = (entered, s₁) :=
    ⟨_, _, rfl⟩
  rw [h] at henter hmembers
  rw [startWith_of_enter h] at hstart
  rw [startWith_of_enter henter]
  rcases entered with f | ⟨gateway, announcer⟩
  · cases hstart
    rfl
  · have hm₁ : s₁.members[i]? = some m := hmembers ▸ hm
    rw [settle_ok hm₁] at hstart
    cases hstart
    rw [settle_ok (s := { s₁ with members := (renewing i m s).members }) (getElem?_renewing hm),
      started_create hpending, renewing, List.set_set, hmembers]
    rfl

/-- **A member that holds nothing starts like a new one**: with the same result, and at the same
site, but that a start that fails leaves its settings to it. -/
theorem start_renewing (hm : s.members[i]? = some m) (hpool : m.pool = none)
    (hpending : m.pending = []) (offered : Offered) {result : Except Failure Unit} {s' : Site ω}
    (hstart : start (.ofBackend b) i offered s = (result, s')) :
    start (.ofBackend b) i offered (renewing i m s) =
      (result, { s' with
        members := if result.isOk then s'.members else (renewing i m s).members }) := by
  have hidentity : (Member.create m.node m.host m.port).checkIdentity = m.checkIdentity := rfl
  rw [start_cases hm hpool] at hstart
  rw [start_cases (getElem?_renewing hm) rfl, hidentity]
  cases hsettings : offered.settings with
  | error f =>
    rw [hsettings] at hstart
    cases hstart
    rfl
  | ok settings =>
    rw [hsettings] at hstart
    cases hchecked : m.checkIdentity with
    | error f =>
      rw [hchecked] at hstart
      cases hstart
      rfl
    | ok u =>
      rw [hchecked] at hstart
      exact startWith_renewing hm hpending settings hstart

end Member

end RollCall
