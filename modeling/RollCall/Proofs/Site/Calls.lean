import RollCall.Proofs.Entries
import RollCall.Site.Gateway

/-!
# Calls through a gateway

What is done at a site is a function of the site: a step whose result is known can be taken, and
what is left goes on from there. A call through the gateway over a backend records the call and lets
the world act, and leaves everything else at the site as it is.

## Main definitions

* `Backend.FailsAsStore`: reads and deletions fail only as an object store does.
* `Doing.IsRemark`: a step that only says and counts.
* `Doing.Counts`: such a step, with what it counts.

## Main results

* `Doing.bind_of_eq`: taking a step whose result is known.
* `Gateway.call_alone`: what a call does to a site.
-/

namespace RollCall

variable {ω : Type}

/-- Reads and deletions fail, if they do, with a failure of the store. -/
structure Backend.FailsAsStore (b : Backend ω) : Prop where
  get (key : String) (w : ω) (f : Failure) (h : (b.get key w).1 = .error f) : f.isStore = true
  delete (key : String) (w : ω) (f : Failure) (h : (b.delete key w).1 = .error f) :
    f.isStore = true

/-- A step whose result is known is taken, and the rest goes on from its site. -/
theorem Doing.bind_of_eq {α β : Type} {m : Doing ω α} {s s' : Site ω} {a : α}
    (h : m s = (a, s')) (f : α → Doing ω β) : (m >>= f) s = f a s' := by
  rw [show (m >>= f) s = f (m s).1 (m s).2 from rfl, h]

/-- A step that says and counts, and changes nothing else at the site. -/
def Doing.IsRemark (m : Doing ω Unit) : Prop :=
  ∀ s, ∃ lines tally, m s = ((), { s with lines, tally })

/-- A step that says things and counts some, and changes nothing else at the site. -/
def Doing.Counts (m : Doing ω Unit) (n : Counter → Nat) : Prop :=
  ∀ s, ∃ lines tally, m s = ((), { s with lines, tally }) ∧ s.tally.Gains tally n

namespace Doing.Counts

variable {m m' : Doing ω Unit} {n n' : Counter → Nat}

theorem isRemark (h : m.Counts n) : m.IsRemark := by
  intro s
  obtain ⟨lines, tally, hm, -⟩ := h s
  exact ⟨lines, tally, hm⟩

theorem skip : Counts (pure () : Doing ω Unit) fun _ => 0 :=
  fun s => ⟨s.lines, s.tally, rfl, .refl _⟩

theorem say (level : Logging.Level) (text : String) :
    Counts (Site.say level text : Doing ω Unit) fun _ => 0 :=
  fun s => ⟨s.lines ++ [⟨level, text⟩], s.tally, rfl, .refl _⟩

theorem count (c : Counter) : Counts (Site.count c : Doing ω Unit) c.once :=
  fun s => ⟨s.lines, s.tally.bump c, rfl, .bump _ c⟩

theorem bind (h : m.Counts n) (h' : m'.Counts n') :
    (m >>= fun _ => m').Counts fun c => n c + n' c := by
  intro s
  obtain ⟨lines, tally, hm, hgains⟩ := h s
  obtain ⟨lines', tally', hm', hgains'⟩ := h' { s with lines, tally }
  exact ⟨lines', tally', (bind_of_eq hm _).trans hm', hgains.trans hgains'⟩

end Doing.Counts

namespace Gateway

/-- A call with nothing around it is recorded, and then the world acts. -/
theorem call_alone {α : Type} (operation : Operation) (key : Option String) (recorded : Call)
    (act : StateM ω (Except Failure α)) (s : Site ω) :
    call alone operation key recorded act s =
      ((act s.world).1,
        { s with world := (act s.world).2, calls := s.calls ++ [recorded] }) := by
  have hact : Site.act act { s with calls := s.calls ++ [recorded] } =
      ((act s.world).1,
        { s with world := (act s.world).2, calls := s.calls ++ [recorded] }) := rfl
  unfold call
  refine (Doing.bind_of_eq rfl _).trans ((Doing.bind_of_eq rfl _).trans ?_)
  rw [Doing.bind_of_eq hact]
  cases (act s.world).1 <;> rfl

variable (b : Backend ω) (s : Site ω)

theorem ofBackend_put (gateway : Nat) (key : String) (data : List UInt8) :
    (ofBackend b).put gateway key data s =
      ((b.put key data s.world).1,
        { s with
          world := (b.put key data s.world).2
          calls := s.calls ++ [.put gateway key data] }) :=
  call_alone ..

theorem ofBackend_get (gateway : Nat) (key : String) :
    (ofBackend b).get gateway key s =
      ((b.get key s.world).1,
        { s with
          world := (b.get key s.world).2
          calls := s.calls ++ [.get gateway key] }) :=
  call_alone ..

theorem ofBackend_list (gateway : Nat) (keyPrefix : String) :
    (ofBackend b).list gateway keyPrefix s =
      ((b.list keyPrefix s.world).1,
        { s with
          world := (b.list keyPrefix s.world).2
          calls := s.calls ++ [.list gateway keyPrefix] }) :=
  call_alone ..

theorem ofBackend_delete (gateway : Nat) (key : String) :
    (ofBackend b).delete gateway key s =
      ((b.delete key s.world).1,
        { s with
          world := (b.delete key s.world).2
          calls := s.calls ++ [.delete gateway key] }) :=
  call_alone ..

theorem ofBackend_checkBucket (gateway : Nat) :
    (ofBackend b).checkBucket gateway s =
      ((b.checkBucket s.world).1,
        { s with
          world := (b.checkBucket s.world).2
          calls := s.calls ++ [.checkBucket gateway] }) :=
  call_alone ..

theorem ofBackend_close (gateway : Nat) :
    (ofBackend b).close gateway s =
      ((b.close s.world).1,
        { s with
          world := (b.close s.world).2
          calls := s.calls ++ [.close gateway] }) :=
  call_alone ..

variable {b s}

/-- A gateway that is opened has the next number. -/
theorem ofBackend_connect {settings : Settings} (h : (b.connect settings s.world).1 = .ok ()) :
    (ofBackend b).connect settings s =
      (.ok s.gateways,
        { s with
          world := (b.connect settings s.world).2
          calls := s.calls ++ [.connect]
          gateways := s.gateways + 1 }) := by
  have hcall := call_alone .connect none .connect (b.connect settings) s
  rw [h] at hcall
  exact Doing.bind_of_eq hcall _

theorem ofBackend_connect_error {settings : Settings} {f : Failure}
    (h : (b.connect settings s.world).1 = .error f) :
    (ofBackend b).connect settings s =
      (.error f,
        { s with
          world := (b.connect settings s.world).2
          calls := s.calls ++ [.connect] }) := by
  have hcall := call_alone .connect none .connect (b.connect settings) s
  rw [h] at hcall
  exact Doing.bind_of_eq hcall _

end Gateway

end RollCall
