import RollCall.Member.Life
import RollCall.Proofs.PeerQuery.Survey

/-!
# The standing of a site

Most of what is done at a site leaves much of it as it is: records are written and read, tasks begin
and end, but nobody starts or stops, and no gateway is opened or closed. What stays then is the
*standing* of the site. A step that keeps it is *steady*. Steps made of steady steps are steady, so
that announcing, discovering and all work for the pools are.

## Main definitions

* `Standing`: what at a site only starting, stopping and new root handlers change.
* `Site.standing`: the standing of a site.
* `Doing.IsSteady`: a step that keeps the standing.

## Main results

* `Announcer.isSteady_announce`, `isSteady_refresh`, `isSteady_tick`.
* `PeerQuery.isSteady_discover`.
* `Member.isSteady_discover`, `isSteady_perform`, `isSteady_drain`.
-/

namespace RollCall

/-- An announcer without what writing its record changes. -/
def Announcer.settled (a : Announcer) : Announcer :=
  { a with isWriting := false, last := none }

/-- A member without its pending tasks. -/
def Member.settled (m : Member) : Member :=
  { m with pending := [] }

/-- The gateway that a call closes. -/
def Call.closed? : Call → Option Nat
  | .close gateway => some gateway
  | _ => none

/-- What at a site only starting, stopping and new root handlers change. -/
structure Standing where
  members : List Member
  announcers : List Announcer
  board : Logging.Board Nat
  gateways : Nat
  /-- The gateways that were closed, each as often as it was. -/
  closed : List Nat

variable {ω α β : Type}

/-- The standing of a site. -/
def Site.standing (s : Site ω) : Standing where
  members := s.members.map Member.settled
  announcers := s.announcers.map Announcer.settled
  board := s.board
  gateways := s.gateways
  closed := s.calls.filterMap Call.closed?

/-- A change that does not matter to what is made of the items of a list. -/
theorem map_modify_of_eq {γ δ : Type} {f : γ → δ} {g : γ → γ} (h : ∀ x, f (g x) = f x)
    (l : List γ) (i : Nat) : (l.modify i g).map f = l.map f := by
  refine List.ext_getElem? fun k => ?_
  rw [List.getElem?_map, List.getElem?_modify, List.getElem?_map]
  cases l[k]? with
  | none => rfl
  | some x =>
    by_cases hk : i = k
    · simp [hk, h]
    · simp [hk]

/-- A call that closes no gateway leaves the standing, whatever becomes of the world. -/
theorem Site.standing_called (s : Site ω) {call : Call} (h : call.closed? = none) (w : ω) :
    ({ s with world := w, calls := s.calls ++ [call] } : Site ω).standing = s.standing := by
  have hclosed : (s.calls ++ [call]).filterMap Call.closed? = s.calls.filterMap Call.closed? := by
    rw [List.filterMap_append, List.filterMap_cons_none h, List.filterMap_nil, List.append_nil]
  exact congrArg (fun closed => { s.standing with closed }) hclosed

/-! ### Steady steps -/

/-- A step that keeps the standing. -/
def Doing.IsSteady (m : Doing ω α) : Prop :=
  ∀ s, (m s).2.standing = s.standing

namespace Doing.IsSteady

theorem pure (a : α) : IsSteady (pure a : Doing ω α) :=
  fun _ => rfl

theorem bind {m : Doing ω α} {f : α → Doing ω β} (h : m.IsSteady) (h' : ∀ a, (f a).IsSteady) :
    (m >>= f).IsSteady :=
  fun s => (h' (m s).1 (m s).2).trans (h s)

theorem of_isRemark {m : Doing ω Unit} (h : m.IsRemark) : m.IsSteady := by
  intro s
  obtain ⟨lines, tally, hm⟩ := h s
  rw [hm]
  rfl

theorem get : IsSteady (get : Doing ω (Site ω)) :=
  fun _ => rfl

variable {i : Nat}

theorem announcer : IsSteady (Site.announcer i : Doing ω Announcer) :=
  fun _ => rfl

theorem member : IsSteady (Site.member i : Doing ω Member) :=
  fun _ => rfl

theorem say {level : Logging.Level} {text : String} :
    IsSteady (Site.say level text : Doing ω Unit) :=
  fun _ => rfl

theorem count {c : Counter} : IsSteady (Site.count c : Doing ω Unit) :=
  fun _ => rfl

theorem advance {millis : Int} : IsSteady (Site.advance millis : Doing ω Unit) :=
  fun _ => rfl

theorem updateAnnouncer {f : Announcer → Announcer} (h : ∀ a, (f a).settled = a.settled) :
    IsSteady (Site.updateAnnouncer i f : Doing ω Unit) := by
  intro s
  have hannouncers := map_modify_of_eq h s.announcers i
  exact congrArg (fun announcers => { s.standing with announcers }) hannouncers

theorem updateMember {f : Member → Member} (h : ∀ m, (f m).settled = m.settled) :
    IsSteady (Site.updateMember i f : Doing ω Unit) := by
  intro s
  have hmembers := map_modify_of_eq h s.members i
  exact congrArg (fun members => { s.standing with members }) hmembers

/-- A call that closes no gateway. -/
theorem call (operation : Operation) (key : Option String) {recorded : Call}
    (h : recorded.closed? = none) (act : StateM ω (Except Failure α)) :
    IsSteady (Gateway.call Gateway.alone operation key recorded act) := by
  intro s
  rw [Gateway.call_alone]
  exact s.standing_called h _

theorem forget {numbers : List Nat} : IsSteady (Site.forget i numbers : Doing ω Unit) :=
  .updateMember fun _ => rfl

theorem enqueue {pool : Nat} {job : Job} : IsSteady (Site.enqueue i pool job : Doing ω Unit) :=
  .bind (fun _ => rfl) fun _ => .updateMember fun _ => rfl

end Doing.IsSteady

/-! ### Announcing -/

namespace Announcer

variable (b : Backend ω) (i : Nat)

theorem isSteady_write : (write (.ofBackend b) i).IsSteady := by
  refine .bind .announcer fun a => ?_
  split
  · exact .pure _
  refine .bind .get fun s => ?_
  dsimp only
  split
  · exact .pure _
  refine .bind (.call .put _ rfl _) fun r => ?_
  split
  · exact .bind (.updateAnnouncer fun _ => rfl) fun _ => .pure _
  · split
    · exact .bind .count fun _ => .bind .say fun _ => .pure _
    · exact .pure _

theorem isSteady_announce : (announce (.ofBackend b) i).IsSteady := by
  refine .bind .announcer fun a => .bind (.updateAnnouncer fun _ => rfl) fun _ =>
    .bind (isSteady_write b i) fun written => .bind (.updateAnnouncer fun _ => rfl) fun _ => ?_
  split
  · exact .pure _
  · exact .pure _
  · exact .bind .count fun _ => .bind .say fun _ => .pure _

theorem isSteady_refresh : (refresh (.ofBackend b) i).IsSteady := by
  refine .bind .announcer fun a => ?_
  split
  · exact .pure _
  refine .bind .get fun s => ?_
  split
  · exact isSteady_announce b i
  · exact .pure _

theorem isSteady_tick (millis : Int) (rounds : Nat) :
    (tick (.ofBackend b) i millis rounds).IsSteady := by
  induction rounds with
  | zero => exact .bind .announcer fun _ => .pure _
  | succ rounds ih =>
    refine .bind .announcer fun a => ?_
    split
    · exact .pure _
    refine .bind .advance fun _ => .bind (isSteady_announce b i) fun r => ?_
    split
    · exact .bind ih fun _ => .pure _
    · exact .bind .say fun _ => .bind ih fun _ => .pure _

end Announcer

/-! ### Discovering -/

namespace PeerQuery

variable (b : Backend ω) (q : PeerQuery)

theorem isSteady_survey (now : Int) (keys : List String) (seen : Sightings) :
    (survey (.ofBackend b) q now keys seen).IsSteady := by
  induction keys generalizing seen with
  | nil => exact .pure _
  | cons key keys ih =>
    rw [survey]
    split
    · exact ih seen
    refine .bind (.call .get _ rfl _) fun r => ?_
    split
    · exact .pure _
    · exact .bind (.of_isRemark (isRemark_announceVerdict q now key _)) fun _ => ih _

theorem isSteady_clean (keys : List String) : (clean (.ofBackend b) q keys).IsSteady := by
  induction keys with
  | nil => exact .pure _
  | cons key keys ih =>
    refine .bind (.call .delete _ rfl _) fun r => ?_
    split
    · exact .bind .say fun _ => ih
    · split
      · exact .bind .say fun _ => ih
      · exact .pure _

theorem isSteady_conclude (records : Nat) (seen : Sightings) :
    (conclude (.ofBackend b) q records seen).IsSteady := by
  unfold conclude
  split
  case' isTrue => refine .bind (isSteady_clean b q _) fun cleaned => ?_
  case' isFalse => refine .bind (.pure _) fun cleaned => ?_
  all_goals
    cases cleaned with
    | error f => exact .pure _
    | ok u => exact .bind .count fun _ => .bind (fun _ => rfl) fun _ => .bind .say fun _ => .pure _

theorem isSteady_discover : (discover (.ofBackend b) q).IsSteady := by
  refine .bind (.call .list _ rfl _) fun r => ?_
  split
  · split
    · exact .bind .count fun _ => .bind .say fun _ => .pure _
    · exact .pure _
  · refine .bind .get fun s => .bind (isSteady_survey b q _ _ _) fun seen => ?_
    split
    · exact .pure _
    · exact isSteady_conclude b q _ _

end PeerQuery

/-! ### Members -/

namespace Member

variable (b : Backend ω) (i : Nat)

theorem isSteady_noteRefresh (r : Except Failure Bool) :
    (noteRefresh i r : Doing ω Unit).IsSteady := by
  unfold noteRefresh
  split
  · exact .pure _
  · exact .bind .member fun _ => .say

theorem isSteady_submitRefresh (pool announcer : Nat) :
    (submitRefresh (.ofBackend b) i pool announcer).IsSteady := by
  refine .bind .get fun s => ?_
  split
  · exact .enqueue
  · exact .bind (Announcer.isSteady_refresh b announcer) fun r => isSteady_noteRefresh i r

theorem isSteady_submitQuery (pool : Nat) (q : PeerQuery) :
    (submitQuery (.ofBackend b) i pool q).IsSteady := by
  refine .bind .get fun s => ?_
  split
  · exact .bind .enqueue fun _ => .pure _
  · exact .bind (PeerQuery.isSteady_discover b q) fun _ => .pure _

theorem isSteady_discover : (discover (.ofBackend b) i).IsSteady := by
  refine .bind .member fun m => ?_
  split
  · refine .bind (isSteady_submitRefresh b i _ _) fun _ =>
      .bind (isSteady_submitQuery b i _ _) fun r => ?_
    split
    · exact .pure _
    · exact .bind .say fun _ => .pure _
  · exact .pure _

theorem isSteady_perform (t : Task) : (perform (.ofBackend b) t).IsSteady := by
  unfold perform
  split
  · exact .bind (Announcer.isSteady_refresh b _) fun r =>
      .bind .forget fun _ => isSteady_noteRefresh _ r
  · exact .bind (PeerQuery.isSteady_discover b _) fun _ => .forget

theorem isSteady_performAll (tasks : List Task) : (performAll (.ofBackend b) tasks).IsSteady := by
  induction tasks with
  | nil => exact .pure _
  | cons t ts ih => exact .bind (isSteady_perform b t) fun _ => ih

theorem isSteady_drain : (drain (.ofBackend b)).IsSteady :=
  .bind .get fun s => .bind (fun _ => rfl) fun _ => .bind (isSteady_performAll b s.waiting) fun _ =>
    .pure _

end Member

end RollCall
