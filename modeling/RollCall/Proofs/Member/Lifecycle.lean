import RollCall.Proofs.Site.Orderly

/-!
# The life of members

Several members live at one site. They start with any settings, discover and stop in any order;
loops make their rounds; what was given to a pool is done at any later moment, even when the member
stopped long ago, or never; records are still being written when something else happens; and the
gateway answers as it likes. All that can happen at a site is an *event*.

Every event is a turn of the standing of the site. So the site stays orderly, and swept as well if
deletions fail only as an object store does.

## Main definitions

* `Event`: what may happen at a site.
* `Site.assembled`: a site with members that were never started.
* `Site.after`: a site after some events.

## Main results

* `Event.turn`: an event is a turn of the standing.
* `orderly_after`, `swept_after`: the invariants of all runs.
* `started_iff_after`: what a started member has, and which gateways are open.
-/

namespace RollCall

variable {ω : Type} {b : Backend ω} {s : Site ω}

/-- Deletions fail, if they do, with a failure of the store. -/
def Backend.DeletesAsStore (b : Backend ω) : Prop :=
  ∀ key w f, (b.delete key w).1 = .error f → f.isStore = true

/-! ### Standings of members and announcers -/

namespace Site

variable {i k n : Nat} {m : Member} {a : Announcer}

theorem standing_member (h : s.members[i]? = some m) :
    s.standing.members[i]? = some m.settled := by
  rw [standing, List.getElem?_map, h]
  rfl

theorem exists_member_of_standing (h : s.standing.members[i]? = some m) :
    ∃ m', s.members[i]? = some m' ∧ m'.settled = m := by
  rw [standing, List.getElem?_map] at h
  exact Option.map_eq_some_iff.1 h

theorem exists_announcer_of_standing (h : s.standing.announcers[k]? = some a) :
    ∃ a', s.announcers[k]? = some a' ∧ a'.settled = a := by
  rw [standing, List.getElem?_map] at h
  exact Option.map_eq_some_iff.1 h

/-- A started member of an orderly site has an announcer that is announcing, with its gateway. -/
theorem exists_announcer (h : s.standing.Orderly) (hm : s.members[i]? = some m)
    (hpool : m.pool.isSome = true) :
    ∃ k a, m.announcer = some k ∧ s.announcers[k]? = some a ∧ a.isAnnouncing = true ∧
      m.gateway = some a.gateway := by
  obtain ⟨k, _, hk, ha, hannouncing, hgateway⟩ :=
    (h.active (standing_member hm) hpool).announcer
  obtain ⟨a, ha', rfl⟩ := exists_announcer_of_standing ha
  exact ⟨k, a, hk, ha', hannouncing, hgateway⟩

end Site

/-! ### Starts and stops as turns -/

namespace Member

open Standing (Turn)

variable {i : Nat} {m : Member} {offered : Offered}

theorem turn_start (hm : s.members[i]? = some m) (mayHalt : Prop) :
    Turn mayHalt s.standing (start (.ofBackend b) i offered s).2.standing := by
  cases hpool : m.pool with
  | some pool =>
    rw [start_started hm (Option.isSome_of_eq_some hpool)]
    exact .steady
  | none =>
    by_cases hrefusal : ∃ f calls, Refusal b m offered s f calls
    · obtain ⟨f, calls, hrefusal⟩ := hrefusal
      rcases start_undone hm hpool hrefusal with ⟨-, hstart⟩ |
        ⟨world, lines, announcers, hmade, hstart⟩
      · rw [hstart]
        exact .steady
      · have hstanding : (start (.ofBackend b) i offered s).2.standing =
            s.standing.refused i (announcers.map Announcer.settled)
              (calls.filterMap Call.closed?) := by
          rw [hstart]
          simp only [Site.standing, Standing.refused, List.map_append, List.filterMap_append]
        have hmade' : ∀ a ∈ announcers.map Announcer.settled, a.hasLoop = false := by
          intro a ha
          obtain ⟨a', ha', rfl⟩ := List.mem_map.1 ha
          exact hmade a' ha'
        rw [hstanding]
        exact .refused (Site.standing_member hm) hpool hmade' hrefusal.closed
    · obtain ⟨settings, a, data, lines, tally, -, hdebut, hstart⟩ :=
        start_entered hm hpool fun f calls h => hrefusal ⟨f, calls, h⟩
      obtain ⟨hgateway, -⟩ := Announcer.create_eq_ok hdebut.create
      have hstanding : (start (.ofBackend b) i offered s).2.standing =
          s.standing.started i m.settled settings s.pools (a.begun none).settled := by
        have hclosed : [.connect, .checkBucket s.gateways, .put s.gateways a.key data,
            .loop a.loopName].filterMap Call.closed? = [] := rfl
        rw [hstart]
        simp only [Site.standing, Standing.started, List.map_append, List.filterMap_append, hclosed,
          List.append_nil, List.map_set, List.length_map]
        rfl
      rw [hstanding]
      have hmade : m.settled.Made settings a := { hdebut.made with }
      exact .started (Site.standing_member hm) hpool settings s.pools hmade hgateway

/-- A stop ends well if deletions fail as an object store does. -/
theorem withdrawal_of_deletesAsStore (hb : b.DeletesAsStore) (a : Announcer) (w : ω) :
    (a.withdrawal b w).1 = .ok () := by
  rw [Announcer.withdrawal]
  split
  · rfl
  · cases hdelete : (b.delete a.key w).1 with
    | ok u => rfl
    | error f => exact if_pos (hb _ _ _ hdelete)

/-- Withdrawing a record closes no gateway. -/
theorem closed_withdrawal (b : Backend ω) (a : Announcer) (w : ω) :
    (a.withdrawal b w).2.1.filterMap Call.closed? = [] := by
  rw [Announcer.withdrawal]
  split <;> rfl

theorem turn_stop (h : s.standing.Orderly) (hm : s.members[i]? = some m) :
    Turn (¬ b.DeletesAsStore) s.standing (stop (.ofBackend b) i s).2.standing := by
  cases hpool : m.pool with
  | none =>
    rw [stop_unstarted hm hpool]
    exact .steady
  | some pool =>
    obtain ⟨k, a, hk, ha, hannouncing, hgateway⟩ :=
      Site.exists_announcer h hm (Option.isSome_of_eq_some hpool)
    cases hdone : (a.withdrawal b s.world).1 with
    | ok u =>
      obtain ⟨lines, hstop⟩ := stop_whole (b := b) hm hpool hk ha hannouncing hgateway hdone
      have hstanding : (stop (.ofBackend b) i s).2.standing =
          s.standing.stopped i k a.gateway m.settled a.settled := by
        rw [hstop]
        simp only [Site.standing, Standing.stopped, List.filterMap_append, closed_withdrawal,
          List.map_set]
        rfl
      rw [hstanding]
      exact .stopped (Site.standing_member hm) hk hgateway
    | error f =>
      obtain ⟨lines, hstop⟩ := stop_halfway (b := b) hm hpool hk ha hannouncing hdone
      have hstanding : (stop (.ofBackend b) i s).2.standing =
          s.standing.halted i k m.settled a.settled := by
        rw [hstop]
        simp only [Site.standing, Standing.halted, List.filterMap_append, closed_withdrawal,
          List.append_nil, List.map_set]
        rfl
      have hhalt : ¬ b.DeletesAsStore := by
        intro hb
        cases hdone.symm.trans (withdrawal_of_deletesAsStore hb a s.world)
      rw [hstanding]
      exact .halted hhalt (Site.standing_member hm) hk

end Member

/-! ### Events -/

/-- What may happen at a site with `n` members. -/
inductive Event (n : Nat)
  | start (member : Fin n) (offered : Member.Offered)
  | discover (member : Fin n)
  | stop (member : Fin n)
  /-- Some rounds of the loop of an announcer. -/
  | tick (announcer : Nat) (millis : Int) (rounds : Nat)
  /-- A task of a pool is done, whenever it was given. -/
  | perform (task : Task)
  /-- All tasks that wait are done. -/
  | drain
  /-- An announcer's record begins to be written, which takes its time. -/
  | seize (announcer : Nat)
  /-- Such a write takes place and ends. -/
  | land (announcer : Nat) (data : List UInt8)
  | addHandler (name : String)
  | wait (millis : Int)
  /-- From now on work waits or does not. -/
  | stall (which : Stall)
  /-- From now on loops end when they are told to, or not. -/
  | stick (isLoopStuck : Bool)

namespace Event

variable {n : Nat}

/-- A write that began takes place and ends. -/
def landing (g : Gateway ω) (announcer : Nat) (data : List UInt8) : Doing ω Unit := do
  let a ← Site.announcer announcer
  match ← g.put a.gateway a.key data with
  | .ok () =>
    let now := (← get).now
    Site.updateAnnouncer announcer fun a => { a with isWriting := false, last := some now }
  | .error _ => Site.updateAnnouncer announcer fun a => { a with isWriting := false }

/-- An event happens. -/
def occur (g : Gateway ω) : Event n → Doing ω Unit
  | start i offered => do let _ ← Member.start g i offered
  | discover i => do let _ ← Member.discover g i
  | stop i => do let _ ← Member.stop g i
  | tick i millis rounds => do let _ ← Announcer.tick g i millis rounds
  | perform t => Member.perform g t
  | drain => do let _ ← Member.drain g
  | seize i => Site.updateAnnouncer i fun a => { a with isWriting := true }
  | land i data => landing g i data
  | addHandler name => modify fun s => { s with board := s.board.addHandler name }
  | wait millis => Site.advance millis
  | stall which => modify fun s => { s with stall := which }
  | stick isLoopStuck => modify fun s => { s with isLoopStuck }

theorem isSteady_landing (b : Backend ω) (announcer : Nat) (data : List UInt8) :
    (landing (.ofBackend b) announcer data).IsSteady := by
  refine .bind .announcer fun a => .bind (.call .put _ rfl _) fun r => ?_
  split
  · exact .bind .get fun s => .updateAnnouncer fun _ => rfl
  · exact .updateAnnouncer fun _ => rfl

/-- **Every event is a turn of the standing**, at an orderly site. -/
theorem turn (h : s.standing.Orderly) (hn : s.members.length = n) (event : Event n) :
    Standing.Turn (¬ b.DeletesAsStore) s.standing (event.occur (.ofBackend b) s).2.standing := by
  have hsteady {α : Type} {m : Doing ω α} (h : m.IsSteady) :
      Standing.Turn (¬ b.DeletesAsStore) s.standing (m s).2.standing := by
    rw [h s]
    exact .steady
  have hmember (i : Fin n) : s.members[i.val]? = some (s.members.get (i.cast hn.symm)) :=
    List.getElem?_eq_getElem _
  cases event with
  | start i offered => exact Member.turn_start (hmember i) _
  | stop i => exact Member.turn_stop h (hmember i)
  | addHandler name => exact .handler name
  | discover i => exact hsteady (Member.isSteady_discover b i)
  | tick i millis rounds => exact hsteady (Announcer.isSteady_tick b i millis rounds)
  | perform t => exact hsteady (Member.isSteady_perform b t)
  | drain => exact hsteady (Member.isSteady_drain b)
  | seize i => exact hsteady (.updateAnnouncer fun _ => rfl)
  | land i data => exact hsteady (isSteady_landing b i data)
  | wait millis => exact hsteady .advance
  | stall which => exact .steady
  | stick isLoopStuck => exact .steady

theorem length_members (h : s.standing.Orderly) (hn : s.members.length = n) (event : Event n) :
    (event.occur (.ofBackend b) s).2.members.length = s.members.length := by
  have hlength := (event.turn (b := b) h hn).length_members
  rwa [Site.standing, Site.standing, List.length_map, List.length_map] at hlength

end Event

/-! ### Runs -/

namespace Site

variable {n : Nat}

/-- A site after some events. -/
def after (g : Gateway ω) (events : List (Event n)) (s : Site ω) : Site ω :=
  events.foldl (fun s event => (event.occur g s).2) s

/-- A site with members that were never started, by their names, hosts and ports. -/
def assembled (world : ω) (now : Int) (crew : List (Value × Value × Value)) : Site ω :=
  { initial world now with members := crew.map fun (node, host, port) => .create node host port }

variable {crew : List (Value × Value × Value)} {world : ω} {now : Int}

/-- A member that was never started has nothing. -/
theorem exists_create_of_assembled {i : Nat} {m : Member}
    (h : (assembled world now crew).standing.members[i]? = some m) :
    ∃ node host port, m = .create node host port := by
  obtain ⟨m', hm', rfl⟩ := exists_member_of_standing h
  rw [assembled, List.getElem?_map] at hm'
  obtain ⟨⟨node, host, port⟩, -, rfl⟩ := Option.map_eq_some_iff.1 hm'
  exact ⟨node, host, port, rfl⟩

theorem orderly_assembled : (assembled world now crew).standing.Orderly where
  tidy := Logging.Board.tidy_empty
  active hm hpool := by
    obtain ⟨node, host, port, rfl⟩ := exists_create_of_assembled hm
    cases hpool
  gateway hm hn := by
    obtain ⟨node, host, port, rfl⟩ := exists_create_of_assembled hm
    cases hn
  announcer hm hk := by
    obtain ⟨node, host, port, rfl⟩ := exists_create_of_assembled hm
    cases hk
  gateways _ _ _ _ _ hm _ hn := by
    obtain ⟨node, host, port, rfl⟩ := exists_create_of_assembled hm
    cases hn
  announcers _ _ _ _ _ hm _ hk := by
    obtain ⟨node, host, port, rfl⟩ := exists_create_of_assembled hm
    cases hk
  closed_lt hn := by cases hn
  closed_nodup := .nil

theorem swept_assembled : (assembled world now crew).standing.Swept where
  idle hm _ := by
    obtain ⟨node, host, port, rfl⟩ := exists_create_of_assembled hm
    exact ⟨rfl, rfl, rfl, rfl⟩
  held hn := absurd hn (Nat.not_lt_zero _)

/-- An orderly site stays orderly, with as many members. -/
theorem orderly_after (h : s.standing.Orderly) (hn : s.members.length = n)
    (events : List (Event n)) :
    (s.after (.ofBackend b) events).standing.Orderly ∧
      (s.after (.ofBackend b) events).members.length = n := by
  induction events generalizing s with
  | nil => exact ⟨h, hn⟩
  | cons event events ih =>
    exact ih (h.turn (event.turn (b := b) h hn)) ((event.length_members h hn).trans hn)

/-- An orderly and swept site stays swept, if deletions fail only as an object store does. -/
theorem swept_after (hb : b.DeletesAsStore) (h : s.standing.Orderly) (hs : s.standing.Swept)
    (hn : s.members.length = n) (events : List (Event n)) :
    (s.after (.ofBackend b) events).standing.Swept := by
  induction events generalizing s with
  | nil => exact hs
  | cons event events ih =>
    have hturn := event.turn (b := b) h hn
    exact ih (h.turn hturn) (hs.turn h (not_not_intro hb) hturn)
      ((event.length_members h hn).trans hn)

/-- Every run keeps the site orderly, with as many members as in the beginning. -/
theorem orderly_run (b : Backend ω) (world : ω) (now : Int) (crew : List (Value × Value × Value))
    (events : List (Event crew.length)) :
    ((assembled world now crew).after (.ofBackend b) events).standing.Orderly ∧
      ((assembled world now crew).after (.ofBackend b) events).members.length = crew.length :=
  orderly_after orderly_assembled (List.length_map _) events

/-- Every run keeps the site swept, if deletions fail only as an object store does. -/
theorem swept_run (hb : b.DeletesAsStore) (world : ω) (now : Int)
    (crew : List (Value × Value × Value)) (events : List (Event crew.length)) :
    ((assembled world now crew).after (.ofBackend b) events).standing.Swept :=
  swept_after hb orderly_assembled swept_assembled (List.length_map _) events

/-! ### What started members have -/

/-- How often a gateway was closed. -/
theorem count_close (calls : List Call) (n : Nat) :
    calls.count (.close n) = (calls.filterMap Call.closed?).count n := by
  induction calls with
  | nil => rfl
  | cons call calls ih =>
    rw [List.count_cons, ih]
    cases call with
    | close n' =>
      have hsome : Call.closed? (.close n') = some n' := rfl
      rw [List.filterMap_cons_some hsome, List.count_cons]
      simp
    | _ =>
      rw [List.filterMap_cons_none rfl]
      rfl

/-- A gateway is closed once, unless a member has it. -/
theorem count_close_eq (h : s.standing.Orderly) (hs : s.standing.Swept) {n : Nat}
    (hn : n < s.gateways) :
    s.calls.count (.close n) =
      if ∃ m ∈ s.members, m.pool.isSome = true ∧ m.gateway = some n then 0 else 1 := by
  rw [count_close]
  split
  · next hheld =>
    obtain ⟨m, hmem, -, hgateway⟩ := hheld
    obtain ⟨i, hm⟩ := List.getElem?_of_mem hmem
    exact List.count_eq_zero.2 (h.gateway (standing_member hm) hgateway).2
  · next hfree =>
    refine List.count_eq_one_of_mem h.closed_nodup (Classical.byContradiction fun hopen => hfree ?_)
    obtain ⟨i, _, hm, hgateway⟩ := hs.held hn hopen
    obtain ⟨m, hm', rfl⟩ := exists_member_of_standing hm
    refine ⟨m, List.mem_of_getElem? hm', Option.isSome_iff_ne_none.2 fun hpool => ?_, hgateway⟩
    cases (hs.idle hm hpool).1.symm.trans hgateway

variable {i : Nat} {m : Member}

/-- A started member is running. -/
theorem isRunning_of_started (h : s.standing.Orderly) (hm : s.members[i]? = some m)
    (hpool : m.pool.isSome = true) : s.isRunning m = true := by
  obtain ⟨k, a, hk, ha, hannouncing, -⟩ := exists_announcer h hm hpool
  have hget : s.announcers.getD k default = a := by
    rw [List.getD_eq_getElem?_getD, ha]
    rfl
  rw [isRunning, hk]
  exact (congrArg Announcer.isAnnouncing hget).trans hannouncing

end Site

/-- What a world is told about the next calls: to do them, or to fail in some way. -/
abbrev Orders := List (Option Failure)

/-- A call is done, or fails, as the world is told; without orders it is done. -/
def Orders.obey {α : Type} (a : α) : StateM Orders (Except Failure α)
  | [] => (.ok a, [])
  | none :: orders => (.ok a, orders)
  | some f :: orders => (.error f, orders)

/-- A world that does as it is told, and stores nothing. -/
def Orders.backend : Backend Orders where
  put _ _ := obey ()
  get _ := obey []
  list _ := obey []
  delete _ := obey ()
  checkBucket := obey .existing
  close := obey ()
  connect _ := obey ()

/-- A world that does as it is told, but never deletes. -/
def Orders.keeper : Backend Orders :=
  { Orders.backend with delete := fun key => return .error (.store "delete" (some key) "") }

theorem Orders.keeper_deletesAsStore : keeper.DeletesAsStore := by
  intro key w f h
  cases h
  rfl

/-- Settings for records that count for half a minute. -/
def plainSettings : Settings :=
  { (default : Settings) with
    keyPrefix := "p", cluster := "c", expiration := .ofInt 30, interval := .ofInt 10 }

/-- Two nodes. -/
def pair : List (Value × Value × Value) :=
  [(.text "x", .text "h", .int 7), (.text "y", .text "g", .int 8)]

/-- The number of the first node. -/
def firstNode : Fin 2 := 0

/-- The number of the second node. -/
def secondNode : Fin 2 := 1

/-- The first node starts, stops while its record is being written, and starts again, which the
store refuses to write down. The second node fails to start, starts and stops. Half of the closings
fail. -/
def pairOrders : Orders :=
  [none, none, none] ++ [none, none, some (.unforeseen "put"), some (.unforeseen "close")] ++
    [none, none] ++ [none, none, some (.store "put" none "")] ++ [none, none] ++
    [none, none, none] ++ [some (.unforeseen "close")]

/-- What happens to the two nodes. -/
def pairEvents : List (Event 2) :=
  [.start firstNode (.ready plainSettings), .start secondNode (.ready plainSettings), .seize 0,
    .stop firstNode, .land 0 [7], .start firstNode (.ready plainSettings), .discover secondNode,
    .discover firstNode, .start secondNode (.ready plainSettings), .stop secondNode, .drain]

end RollCall
